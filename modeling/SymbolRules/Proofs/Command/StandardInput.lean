import SymbolRules.Proofs.Command.Arguments
import SymbolRules.Proofs.Command.Verdict

/-!
# Candidates from standard input and from a file

Standard input is cut into lines that are decoded one by one, and a file is decoded as a whole. Both give
the lines of the same text, or nothing, so a check that differs in this alone has the same candidates
(`gatherCandidates_fromStdin_iff`), prints the same and ends alike.
-/

namespace SymbolRules.Command

/-- The invocation that reads more candidates from standard input. -/
def Invocation.fromStdin (inv : Invocation) : Invocation :=
  { inv with candidateFile := some [dash] }

/-- The invocation that reads more candidates from a file. -/
def Invocation.fromFile (inv : Invocation) (path : List UInt8) : Invocation :=
  { inv with candidateFile := some path }

/-- The host with the given standard input. -/
def Host.withStdin (host : Host) (input : Input) : Host :=
  { host with stdin := input }

variable {inv : Invocation} {host : Host} {path bs : List UInt8} {input : Input}

/-- No rule text stands on standard input. -/
theorem RuleText.withStdin {source : Option RuleSource} {rules : String} (input : Input)
    (h : RuleText host source rules) : RuleText (host.withStdin input) source rules := by
  rcases h with _ | h | h
  · exact .literal rules
  · exact .variable h
  · exact .file h

theorem ruleText_withStdin_iff {source : Option RuleSource} {rules : String} :
    RuleText (host.withStdin input) source rules ↔ RuleText host source rules :=
  ⟨fun h => h.withStdin host.stdin, fun h => h.withStdin input⟩

/-- A file has the text that standard input has when it holds the same bytes. -/
theorem candidateText_fromFile_iff (other : path ≠ [dash]) (holds : host.fileAt path = .ok bs)
    (unread : Input) {text : String} :
    CandidateText (host.withStdin unread) (inv.fromFile path).candidateFile text ↔
      CandidateText (host.withStdin bs) inv.fromStdin.candidateFile text := by
  show CandidateText _ (some path) text ↔ CandidateText _ (some [dash]) text
  rw [candidateText_file_iff other, candidateText_stdin_iff]
  show host.fileAt path = _ ↔ (bs : Input) = _
  rw [holds, Except.ok.injEq, Input.coe_inj]

/-- Candidates are gathered from standard input when it is text. -/
theorem gatherCandidates_fromStdin_iff {candidates : List String} :
    gatherCandidates inv.fromStdin (host.withStdin bs) = .ok candidates ↔
      ∃ text, bs = Utf8.encode text ∧ inv.candidates ++ (Lines.ofText text).filter (!·.isEmpty) = candidates := by
  rw [gatherCandidates_eq_ok_iff]
  exact exists_congr fun text => and_congr_left fun _ => candidateText_stdin_iff.trans Input.coe_inj

theorem gatherCandidates_fromFile_iff (other : path ≠ [dash]) (holds : host.fileAt path = .ok bs)
    (unread : Input) {candidates : List String} :
    gatherCandidates (inv.fromFile path) (host.withStdin unread) = .ok candidates ↔
      gatherCandidates inv.fromStdin (host.withStdin bs) = .ok candidates := by
  rw [gatherCandidates_eq_ok_iff, gatherCandidates_eq_ok_iff]
  exact exists_congr fun text => and_congr_left fun _ => candidateText_fromFile_iff other holds unread

theorem value_check_fromFile_iff (other : path ≠ [dash]) (holds : host.fileAt path = .ok bs)
    (unread : Input) {outcomes : List Outcome} :
    (check (inv.fromFile path) (host.withStdin unread)).value = .ok outcomes ↔
      (check inv.fromStdin (host.withStdin bs)).value = .ok outcomes := by
  simp only [value_check_eq_ok_iff, ruleText_withStdin_iff, candidateText_fromFile_iff other holds unread]
  exact Iff.rfl

/-- Gathering from standard input fails exactly when it is not text. -/
theorem gatherCandidates_fromStdin_error_iff :
    (∃ failure, gatherCandidates inv.fromStdin (host.withStdin bs) = .error failure) ↔ Utf8.decode? bs = none := by
  rw [exists_error_iff, Utf8.decode?_eq_none_iff]
  simp only [ne_eq, gatherCandidates_fromStdin_iff]
  constructor
  · intro fails text h
    exact fails _ ⟨text, h, rfl⟩
  · rintro notText _ ⟨text, h, -⟩
    exact notText text h

/-- **Standard input and a candidate file are read alike.** For the same bytes on either, the same
candidates are gathered, or none from either, and the check prints the same and ends alike. Gathering
fails exactly when the bytes are not text, that is when one line of them is not, and then both checks end with
exit code 2 and print nothing; otherwise the candidates are those among the arguments and the nonempty lines of the
text. Command lines that differ in this option ask for two such checks. -/
theorem stdin_like_file (inv : Invocation) (host : Host) (path bs : List UInt8) (unread : Input)
    (other : path ≠ [dash]) (holds : host.fileAt path = .ok bs) :
    (∀ candidates, gatherCandidates (inv.fromFile path) (host.withStdin unread) = .ok candidates ↔
      gatherCandidates inv.fromStdin (host.withStdin bs) = .ok candidates) ∧
    (perform (.check (inv.fromFile path)) (host.withStdin unread)).exit =
      (perform (.check inv.fromStdin) (host.withStdin bs)).exit ∧
    (perform (.check (inv.fromFile path)) (host.withStdin unread)).stdout =
      (perform (.check inv.fromStdin) (host.withStdin bs)).stdout ∧
    ((∃ failure, gatherCandidates (inv.fromFile path) (host.withStdin unread) = .error failure) ↔
      Utf8.decode? bs = none) ∧
    ((∃ failure, gatherCandidates inv.fromStdin (host.withStdin bs) = .error failure) ↔
      Utf8.decode? bs = none) ∧
    (Utf8.decode? bs = none ↔ ∃ line ∈ Lines.split 0x0A 0x0D bs, Utf8.decode? line = none) ∧
    (Utf8.decode? bs = none →
      ((perform (.check (inv.fromFile path)) (host.withStdin unread)).exit = 2 ∧
        (perform (.check (inv.fromFile path)) (host.withStdin unread)).stdout = "") ∧
      (perform (.check inv.fromStdin) (host.withStdin bs)).exit = 2 ∧
        (perform (.check inv.fromStdin) (host.withStdin bs)).stdout = "") ∧
    (∀ text, bs = Utf8.encode text → gatherCandidates inv.fromStdin (host.withStdin bs) =
      .ok (inv.candidates ++ (Lines.ofText text).filter (!·.isEmpty))) ∧
    ∀ pre post dashOption fileOption i j, [dash, dash] ∉ pre → FileOption [dash] dashOption →
      FileOption path fileOption → parse (pre ++ (dashOption ++ post)) = .ok (.check i) →
      parse (pre ++ (fileOption ++ post)) = .ok (.check j) → i.fromStdin = i ∧ i.fromFile path = j := by
  have same : ∀ candidates, gatherCandidates (inv.fromFile path) (host.withStdin unread) = .ok candidates ↔
      gatherCandidates inv.fromStdin (host.withStdin bs) = .ok candidates :=
    fun _ => gatherCandidates_fromFile_iff other holds unread
  have form : (inv.fromFile path).json = inv.fromStdin.json := rfl
  have alike := perform_congr form fun _ => value_check_fromFile_iff other holds unread
  have fails : (∃ failure, gatherCandidates inv.fromStdin (host.withStdin bs) = .error failure) ↔
      Utf8.decode? bs = none := gatherCandidates_fromStdin_error_iff
  have ends : Utf8.decode? bs = none → (perform (.check inv.fromStdin) (host.withStdin bs)).exit = 2 ∧
      (perform (.check inv.fromStdin) (host.withStdin bs)).stdout = "" := by
    intro notText
    have failed : ∀ outcomes, (check inv.fromStdin (host.withStdin bs)).value ≠ .ok outcomes := by
      intro outcomes result
      obtain ⟨rules, text, -, there, -⟩ := value_check_eq_ok_iff.1 result
      exact not_candidateText_stdin rfl notText text there
    exact perform_of_failed failed inv.fromStdin.json
  refine ⟨same, alike.1, alike.2, ?_, fails, ?_, ?_, ?_, ?_⟩
  · rw [← fails, exists_error_iff, exists_error_iff]
    exact forall_congr' fun candidates => not_congr (same candidates)
  · rw [← Lines.ofBytes?_eq_none_iff, Lines.ofBytes?, Lines.mapM_eq_none_iff]
  · intro notText
    rw [alike.1, alike.2]
    exact ⟨ends notText, ends notText⟩
  · intro text h
    exact gatherCandidates_fromStdin_iff.2 ⟨text, h, rfl⟩
  · intro pre post dashOption fileOption i j free dashes file hi hj
    obtain ⟨here, rfl⟩ := parse_file free dashes file hi hj
    exact ⟨congrArg (fun c => { i with candidateFile := c }) here.symm, rfl⟩

/-- A host with the rules of the sample and a single file. -/
def oneFile (path bs : List UInt8) : Host where
  environment := (sampleHost []).environment
  fileAt p := if p = path then .ok bs else .error .notFound
  stdin := ⟨[], some .isDirectory⟩

/-- Both line ends, a blank line and a last line with a bare carriage return; one bad line after a good one,
where a candidate among the arguments would match; and the option in two spellings. -/
theorem stdin_like_file_mixed_ends :
    gatherCandidates (sample.fromFile [0x63]) ((oneFile [0x63] (Utf8.encode "x\r\n\ny\n\r")).withStdin ⟨[], none⟩) =
      .ok ["", "a/b", "x", "y", "\r"] ∧
    (∃ failure, gatherCandidates (sample.fromFile [0x63]) ((oneFile [0x63] [0x78, 0x0A, 0xFF]).withStdin ⟨[], none⟩) =
      .error failure) ∧
    (perform (.check (sample.fromFile [0x63])) ((oneFile [0x63] [0x78, 0x0A, 0xFF]).withStdin ⟨[], none⟩)).exit = 2 ∧
    (perform (.check (sample.fromFile [0x63])) ((oneFile [0x63] [0x78, 0x0A, 0xFF]).withStdin ⟨[], none⟩)).stdout =
      (perform (.check sample.fromStdin)
        ((oneFile [0x63] [0x78, 0x0A, 0xFF]).withStdin ⟨[0x78, 0x0A, 0xFF], none⟩)).stdout ∧
    ∃ i j, parse (["-v", "--file", "-", "a"].map Utf8.encode) = .ok (.check i) ∧
      parse (["-v", "-fc", "a"].map Utf8.encode) = .ok (.check j) ∧ i.fromStdin = i ∧ i.fromFile [0x63] = j := by
  obtain ⟨-, -, sameStdout, failsFile, -, -, ends, -⟩ :=
    stdin_like_file sample (oneFile [0x63] [0x78, 0x0A, 0xFF]) [0x63] _ ⟨[], none⟩ (by decide) rfl
  refine ⟨?_, failsFile.2 (by decide), (ends (by decide)).1.1, sameStdout, ?_⟩
  · obtain ⟨same, -, -, -, -, -, -, gathered, -⟩ :=
      stdin_like_file sample (oneFile [0x63] (Utf8.encode "x\r\n\ny\n\r")) [0x63] _ ⟨[], none⟩ (by decide) rfl
    rw [same, gathered "x\r\n\ny\n\r" rfl]
    exact congrArg Except.ok (by decide)
  · have stdin : parse (["-v", "--file", "-", "a"].map Utf8.encode) =
      .ok (.check ⟨none, some [dash], false, true, ["a"]⟩) := rfl
    have file : parse (["-v", "-fc", "a"].map Utf8.encode) =
      .ok (.check ⟨none, some [0x63], false, true, ["a"]⟩) := rfl
    obtain ⟨-, -, -, -, -, -, -, -, options⟩ :=
      stdin_like_file sample (oneFile [0x63] []) [0x63] _ ⟨[], none⟩ (by decide) rfl
    exact ⟨_, _, stdin, file, options [Utf8.encode "-v"] [Utf8.encode "a"] _ _ _ _ (by decide)
      (.long [dash]) (.shortJoined [] (by decide)) stdin file⟩

end SymbolRules.Command
