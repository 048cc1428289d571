import SymbolRules.Proofs.Command.Arguments
import SymbolRules.Proofs.Command.Inputs
import SymbolRules.Proofs.Outcome.ReadBack
import SymbolRules.Proofs.RuleSet.Compiled

/-!
# The verdict of a check

A check that has its rules and its candidates judges each candidate on its own (`value_check`), and what it
prints and the exit code are both made of these outcomes. `Shown` says what standard output then holds: a line for
each outcome, with its word and its candidate, or a document that is read as the outcomes. Without rules or
candidates a check prints nothing on standard output, whatever it has read before.
-/

namespace SymbolRules.Command

/-- The outcomes of candidates: one for each, matched when the rule text selects it. -/
def judge (rules : String) (candidates : List String) : List Outcome :=
  candidates.map fun candidate => ⟨candidate, ((RuleSet.ofText rules).query candidate).value⟩

/-- Each candidate has its outcome, in order. -/
theorem map_candidate_judge {rules : String} {candidates : List String} :
    (judge rules candidates).map (·.candidate) = candidates := by
  rw [judge, List.map_map]
  exact List.map_id' _

theorem matched_of_mem_judge {rules : String} {candidates : List String} {o : Outcome}
    (h : o ∈ judge rules candidates) : o.matched = ((RuleSet.ofText rules).query o.candidate).value := by
  obtain ⟨candidate, -, rfl⟩ := List.mem_map.1 h
  rfl

/-- Only the judged outcomes are matched like that. -/
theorem eq_judge {rules : String} {outcomes : List Outcome}
    (h : ∀ o ∈ outcomes, o.matched = ((RuleSet.ofText rules).query o.candidate).value) :
    outcomes = judge rules (outcomes.map (·.candidate)) := by
  conv_lhs => rw [← List.map_id' outcomes]
  rw [judge, List.map_map]
  apply List.map_congr_left
  intro o ho
  simp [← h o ho]

variable {inv : Invocation} {host : Host}

/-- The result of a check, leaving out what it reports on the way. -/
theorem value_check (inv : Invocation) (host : Host) :
    (check inv host).value = do
      let rules ← findRules inv host
      let candidates ← gatherCandidates inv host
      return judge rules candidates := by
  rw [check]
  cases findRules inv host with
  | error failure => rfl
  | ok rules =>
    cases gatherCandidates inv host with
    | error failure => rfl
    | ok candidates =>
      simp only [Logged.value_bind, Logged.value_pure, Logged.value_mapM, RuleSet.query_build]
      rfl

/-- A check has a result exactly where there are a rule text and a text of candidates. -/
theorem value_check_eq_ok_iff {outcomes : List Outcome} :
    (check inv host).value = .ok outcomes ↔ ∃ rules text, RuleText host inv.rules rules ∧
      CandidateText host inv.candidateFile text ∧
      judge rules (inv.candidates ++ (Lines.ofText text).filter (!·.isEmpty)) = outcomes := by
  simp only [value_check, bind_eq_ok_iff, findRules_eq_ok_iff, gatherCandidates_eq_ok_iff]
  constructor
  · rintro ⟨rules, hr, _, ⟨text, ht, rfl⟩, ⟨⟩⟩
    exact ⟨rules, text, hr, ht, rfl⟩
  · rintro ⟨rules, text, hr, ht, rfl⟩
    exact ⟨rules, hr, _, ⟨text, ht, rfl⟩, rfl⟩

/-! ## What standard output holds -/

/-- What is printed of outcomes. For the eye it is a line each: `MATCH` or `-`, a tab, and the candidate as it is. As
JSON it is a document that is read as these outcomes, and a line feed. -/
inductive Shown (outcomes : List Outcome) : Bool → String → Prop where
  | lines : Shown outcomes false
      (String.join (outcomes.map fun o => (if o.matched then "MATCH" else "-") ++ "\t" ++ o.candidate ++ "\n"))
  | json {document : String} (read : Outcome.ofDocument? document = some outcomes) :
    Shown outcomes true (document ++ "\n")

theorem shown_lines_iff {outcomes : List Outcome} {stdout : String} :
    Shown outcomes false stdout ↔ stdout =
      String.join (outcomes.map fun o => (if o.matched then "MATCH" else "-") ++ "\t" ++ o.candidate ++ "\n") := by
  constructor
  · rintro ⟨⟩
    rfl
  · rintro rfl
    exact .lines

theorem shown_json_iff {outcomes : List Outcome} {stdout : String} :
    Shown outcomes true stdout ↔
      ∃ document, stdout = document ++ "\n" ∧ Outcome.ofDocument? document = some outcomes := by
  constructor
  · rintro (_ | read)
    exact ⟨_, rfl, read⟩
  · rintro ⟨document, rfl, read⟩
    exact .json read

theorem shown_report (json : Bool) (outcomes : List Outcome) : Shown outcomes json (report json (.ok outcomes)) := by
  cases json with
  | false => exact .lines
  | true => exact .json (Outcome.ofDocument?_of_read? (Json.read?_pretty _))

/-! ## What a finished check leaves behind -/

theorem exit_perform (inv : Invocation) (host : Host) :
    (perform (.check inv) host).exit = exitCode (check inv host).value :=
  rfl

theorem stdout_perform (inv : Invocation) (host : Host) :
    (perform (.check inv) host).stdout = report inv.json (check inv host).value :=
  rfl

/-- The log of a check. -/
def log (inv : Invocation) (host : Host) : String :=
  Library.standard.log host.environment inv.verbose (check inv host).events

theorem stderr_perform (inv : Invocation) (host : Host) :
    (perform (.check inv) host).stderr = log inv host ++ failureLine (check inv host).value :=
  rfl

/-- The form of the report plays no part in the result. -/
theorem value_check_json (inv : Invocation) (host : Host) (json : Bool) :
    (check { inv with json := json } host).value = (check inv host).value := by
  rw [value_check, value_check]
  rfl

/-- Checks with the same result print the same and end alike, however they fail. -/
theorem perform_congr {other : Invocation} {elsewhere : Host} (form : other.json = inv.json)
    (h : ∀ outcomes, (check other elsewhere).value = .ok outcomes ↔ (check inv host).value = .ok outcomes) :
    (perform (.check other) elsewhere).exit = (perform (.check inv) host).exit ∧
    (perform (.check other) elsewhere).stdout = (perform (.check inv) host).stdout := by
  rw [exit_perform, exit_perform, stdout_perform, stdout_perform, form]
  cases hv : (check inv host).value with
  | ok outcomes =>
    rw [(h outcomes).2 hv]
    exact ⟨rfl, rfl⟩
  | error failure =>
    cases ho : (check other elsewhere).value with
    | ok outcomes =>
      rw [(h outcomes).1 ho] at hv
      cases hv
    | error failure => exact ⟨rfl, rfl⟩

/-- A check without a result prints nothing on standard output. -/
theorem perform_of_failed (h : ∀ outcomes, (check inv host).value ≠ .ok outcomes) (json : Bool) :
    (perform (.check { inv with json := json }) host).exit = 2 ∧
    (perform (.check { inv with json := json }) host).stdout = "" := by
  rw [exit_perform, stdout_perform, value_check_json]
  cases hv : (check inv host).value with
  | error failure => exact ⟨rfl, rfl⟩
  | ok outcomes => exact absurd hv (h outcomes)

/-- **The exit code and the report agree.** Without a rule text or without a text of candidates the exit code
is 2 and standard output stays empty. With both there is one outcome for each candidate, in order, matched
when the rule text selects it. Standard output shows these outcomes and nothing else, in lines or as a document,
and they alone make the exit code, whatever form is asked for: 0 when one of them is matched, and 1 when none
is. On a command line `--json` asks for the other form and for nothing else. -/
theorem verdict_agrees (inv : Invocation) (host : Host) :
    ((∀ rules, ¬ RuleText host inv.rules rules) ∨ (∀ text, ¬ CandidateText host inv.candidateFile text) →
      ∀ json, (perform (.check { inv with json := json }) host).exit = 2 ∧
        (perform (.check { inv with json := json }) host).stdout = "") ∧
    (∀ rules text, RuleText host inv.rules rules → CandidateText host inv.candidateFile text →
      ∃ outcomes : List Outcome,
        outcomes.map (·.candidate) = inv.candidates ++ (Lines.ofText text).filter (!·.isEmpty) ∧
        (∀ o ∈ outcomes, o.matched = ((RuleSet.ofText rules).query o.candidate).value) ∧
        ∀ json, Shown outcomes json (perform (.check { inv with json := json }) host).stdout ∧
          ((∃ o ∈ outcomes, o.matched = true) → (perform (.check { inv with json := json }) host).exit = 0) ∧
          ((∀ o ∈ outcomes, o.matched = false) → (perform (.check { inv with json := json }) host).exit = 1)) ∧
    ∀ pre post other, [dash, dash] ∉ pre → parse (pre ++ post) = .ok (.check inv) →
      parse (pre ++ Utf8.encode "--json" :: post) = .ok (.check other) → other = { inv with json := true } := by
  refine ⟨?_, ?_, fun pre post other free plain document => (parse_json free plain document).2⟩
  · intro missing
    apply perform_of_failed
    intro outcomes h
    obtain ⟨rules, text, hr, ht, -⟩ := value_check_eq_ok_iff.1 h
    rcases missing with noRules | noText
    · exact noRules rules hr
    · exact noText text ht
  · intro rules text hr ht
    have result := value_check_eq_ok_iff.2 ⟨rules, text, hr, ht, rfl⟩
    refine ⟨judge rules (inv.candidates ++ (Lines.ofText text).filter (!·.isEmpty)), map_candidate_judge,
      fun o ho => matched_of_mem_judge ho, ?_⟩
    intro json
    rw [exit_perform, stdout_perform, value_check_json, result]
    refine ⟨shown_report json _, ?_, ?_⟩
    · intro some
      exact if_pos (by simpa using some)
    · intro none
      exact if_neg (by simpa using none)

/-- Rules in a variable, and candidates among the arguments and on standard input. -/
def sample : Invocation where
  rules := some (.envVar "RULES")
  candidateFile := some [dash]
  json := false
  verbose := true
  candidates := ["", "a/b"]

/-- Where the variable is set. -/
def sampleHost (stdin : List UInt8) : Host where
  environment := .ofList [("RULES", Utf8.encode "a.*")]
  fileAt _ := .error .notFound
  stdin := stdin

/-- The arguments that ask for this. -/
def sampleArguments : List (List UInt8) :=
  ["-vf-", "--patterns-env", "RULES"].map Utf8.encode

/-- Standard input that is not text as a whole, or that fails after a good line, leaves no output. Otherwise a match
among the arguments decides the exit code and each candidate has its line, or its object in the document; `--json`
between the arguments asks for that. -/
theorem verdict_agrees_stdin :
    ((perform (.check sample) (sampleHost [0x61, 0x0A, 0xFF])).exit = 2 ∧
      (perform (.check sample) (sampleHost [0x61, 0x0A, 0xFF])).stdout = "") ∧
    ((perform (.check sample) { sampleHost [] with stdin := ⟨[0x61, 0x0A], some .isDirectory⟩ }).exit = 2 ∧
      (perform (.check sample) { sampleHost [] with stdin := ⟨[0x61, 0x0A], some .isDirectory⟩ }).stdout = "") ∧
    ((perform (.check sample) (sampleHost [0x63, 0x0D, 0x0A, 0x0A])).exit = 0 ∧
      (perform (.check sample) (sampleHost [0x63, 0x0D, 0x0A, 0x0A])).stdout = "-\t\nMATCH\ta/b\n-\tc\n") ∧
    (∃ document, (perform (.check { sample with json := true }) (sampleHost [0x63, 0x0D, 0x0A, 0x0A])).stdout =
        document ++ "\n" ∧
      Outcome.ofDocument? document = some [⟨"", false⟩, ⟨"a/b", true⟩, ⟨"c", false⟩]) ∧
    ∃ other, parse (sampleArguments ++ ["--json", "", "a/b"].map Utf8.encode) = .ok (.check other) ∧
      other = { sample with json := true } := by
  refine ⟨?_, ?_, ?_⟩
  · exact (verdict_agrees sample (sampleHost [0x61, 0x0A, 0xFF])).1
      (.inr (not_candidateText_stdin rfl (by decide))) false
  · refine (verdict_agrees sample { sampleHost [] with stdin := ⟨[0x61, 0x0A], some .isDirectory⟩ }).1
      (.inr fun text h => ?_) false
    cases (Input.mk.inj (candidateText_stdin_iff.1 h)).2
  have rules : RuleText (sampleHost [0x63, 0x0D, 0x0A, 0x0A]) sample.rules "a.*" := .variable (by decide)
  have text : CandidateText (sampleHost [0x63, 0x0D, 0x0A, 0x0A]) sample.candidateFile "c\r\n\n" := .stdin (by decide)
  obtain ⟨outcomes, candidates, matched, printed⟩ := (verdict_agrees sample _).2.1 "a.*" _ rules text
  have each : outcomes = [⟨"", false⟩, ⟨"a/b", true⟩, ⟨"c", false⟩] := by
    rw [eq_judge matched, candidates]
    decide
  subst each
  refine ⟨⟨(printed false).2.1 (by decide), ?_⟩, ?_, ?_⟩
  · exact (shown_lines_iff.1 (printed false).1).trans (by decide)
  · exact shown_json_iff.1 (printed true).1
  · have plain : parse (sampleArguments ++ ["", "a/b"].map Utf8.encode) = .ok (.check sample) := by decide
    have document : parse (sampleArguments ++ ["--json", "", "a/b"].map Utf8.encode) =
      .ok (.check { sample with json := true }) := by decide
    exact ⟨_, document, (verdict_agrees sample (sampleHost [])).2.2 _ _ _ (by decide) plain document⟩

end SymbolRules.Command
