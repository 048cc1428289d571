import SymbolRules.Command.Check
import SymbolRules.Proofs.Environment
import SymbolRules.Proofs.Source

/-!
# What a check reads

Where the rule text and the candidates of a check come from, as relations: `RuleText` for each source of
rules and `CandidateText` for each place of candidates. A check finds its rules, and gathers its
candidates, exactly when there is such a text (`findRules_eq_ok_iff`, `gatherCandidates_eq_ok_iff`).
-/

namespace SymbolRules.Command

/-- The rule text that a source gives. -/
inductive RuleText (host : Host) : Option RuleSource → String → Prop where
  | literal (text : String) : RuleText host (some (.literal text)) text
  | variable {name text : String} (h : host.environment.lookup? name = some (Utf8.encode text)) :
    RuleText host (some (.envVar name)) text
  | file {path : List UInt8} {content : String} (h : host.fileAt path = .ok (Utf8.encode content)) :
    RuleText host (some (.file path)) (joinLines content)

/-- The text that candidates are read from, besides the arguments. -/
inductive CandidateText (host : Host) : Option (List UInt8) → String → Prop where
  | absent : CandidateText host none ""
  | stdin {text : String} (h : host.stdin = Utf8.encode text) : CandidateText host (some [dash]) text
  | file {path : List UInt8} {text : String} (other : path ≠ [dash])
    (h : host.fileAt path = .ok (Utf8.encode text)) : CandidateText host (some path) text

variable {inv : Invocation} {host : Host} {path : List UInt8}

/-! ## Rules -/

/-- Rules are found exactly where there is a rule text. -/
theorem findRules_eq_ok_iff {text : String} : findRules inv host = .ok text ↔ RuleText host inv.rules text := by
  unfold findRules
  cases inv.rules with
  | none => exact iff_of_false nofun nofun
  | some source =>
    cases source with
    | literal given =>
      show Except.ok given = .ok text ↔ _
      rw [Except.ok.injEq]
      constructor
      · rintro rfl
        exact .literal given
      · rintro ⟨⟩
        rfl
    | envVar name =>
      show Except.mapError _ _ = _ ↔ _
      rw [mapError_eq_ok_iff, Environment.ruleText_eq_ok_iff]
      constructor
      · exact .variable
      · rintro ⟨⟩
        assumption
    | file path =>
      show Except.mapError _ _ = _ ↔ _
      rw [mapError_eq_ok_iff, fileRuleText_eq_ok_iff]
      constructor
      · rintro ⟨written, h, rfl⟩
        exact .file h
      · rintro ⟨⟩
        exact ⟨_, by assumption, rfl⟩

/-! ## Candidates -/

theorem candidateText_none_iff {text : String} : CandidateText host none text ↔ text = "" := by
  constructor
  · rintro ⟨⟩
    rfl
  · rintro rfl
    exact .absent

theorem candidateText_stdin_iff {text : String} :
    CandidateText host (some [dash]) text ↔ host.stdin = Utf8.encode text := by
  constructor
  · rintro (_ | h | ⟨other, -⟩)
    · exact h
    · exact absurd rfl other
  · exact .stdin

/-- Bytes on standard input are a text when they are its bytes. -/
theorem Input.coe_inj {bs cs : List UInt8} : (bs : Input) = cs ↔ bs = cs := by
  rw [Input.mk.injEq, and_iff_left rfl]

/-- Bytes that are not text leave none on standard input. -/
theorem not_candidateText_stdin {bs : List UInt8} (delivered : host.stdin = bs) (notText : Utf8.decode? bs = none)
    (text : String) : ¬ CandidateText host (some [dash]) text := by
  rw [candidateText_stdin_iff, delivered, Input.coe_inj]
  exact Utf8.decode?_eq_none_iff.1 notText text

theorem candidateText_file_iff (hp : path ≠ [dash]) {text : String} :
    CandidateText host (some path) text ↔ host.fileAt path = .ok (Utf8.encode text) := by
  constructor
  · rintro (_ | _ | ⟨-, h⟩)
    · exact absurd rfl hp
    · exact h
  · exact .file hp

/-- Standard input has lines when it is delivered to its end and is text: those of the text. -/
theorem Input.lines_eq_ok_iff {input : Input} {lines : List String} :
    input.lines = .ok lines ↔ ∃ text : String, input = Utf8.encode text ∧ Lines.ofText text = lines := by
  rcases input with ⟨bytes, _ | cause⟩
  · simp only [Input.lines, Lines.ofBytes?_eq, Input.mk.injEq, and_true, ← Utf8.decode?_eq_some_iff]
    cases Utf8.decode? bytes <;> simp
  · constructor
    · intro h
      simp only [Input.lines] at h
      split at h <;> cases h
    · rintro ⟨text, ⟨⟩, -⟩

/-- The lines of standard input are those of its text. -/
theorem candidateLines_stdin (h : inv.candidateFile = some [dash]) {lines : List String} :
    candidateLines inv host = .ok lines ↔
      ∃ text : String, host.stdin = Utf8.encode text ∧ Lines.ofText text = lines := by
  simp only [candidateLines, h, if_true, mapError_eq_ok_iff, Input.lines_eq_ok_iff]

/-- The lines of a file are those of its text. -/
theorem candidateLines_file (h : inv.candidateFile = some path) (hp : path ≠ [dash]) {lines : List String} :
    candidateLines inv host = .ok lines ↔
      ∃ text, host.fileAt path = .ok (Utf8.encode text) ∧ Lines.ofText text = lines := by
  simp only [candidateLines, h, if_neg hp, ← fileText_eq_ok_iff]
  cases fileText (host.fileAt path) <;> simp

/-- Lines are read exactly where there is a text of candidates. -/
theorem candidateLines_eq_ok_iff {lines : List String} :
    candidateLines inv host = .ok lines ↔
      ∃ text, CandidateText host inv.candidateFile text ∧ Lines.ofText text = lines := by
  cases h : inv.candidateFile with
  | none =>
    have none : Lines.ofText "" = [] := rfl
    simp only [candidateText_none_iff, exists_eq_left, none, candidateLines, h, Except.ok.injEq]
  | some path =>
    by_cases hp : path = [dash]
    · subst hp
      simp only [candidateLines_stdin h, candidateText_stdin_iff]
    · simp only [candidateLines_file h hp, candidateText_file_iff hp]

/-- Candidates are gathered exactly where there is a text of candidates: those among the arguments come
first and stay as they are, and of the lines the empty ones are left out. -/
theorem gatherCandidates_eq_ok_iff {candidates : List String} :
    gatherCandidates inv host = .ok candidates ↔ ∃ text, CandidateText host inv.candidateFile text ∧
      inv.candidates ++ (Lines.ofText text).filter (!·.isEmpty) = candidates := by
  simp only [gatherCandidates, bind_eq_ok_iff, candidateLines_eq_ok_iff]
  constructor
  · rintro ⟨_, ⟨text, h, rfl⟩, ⟨⟩⟩
    exact ⟨text, h, rfl⟩
  · rintro ⟨text, h, rfl⟩
    exact ⟨_, ⟨text, h, rfl⟩, rfl⟩

end SymbolRules.Command
