import SymbolRules.Proofs.Command.Verdict
import SymbolRules.Proofs.Outcome.ReadBack

/-!
# The report of a check

What a check prints on standard output tells its outcomes: either report is read back as the list of
candidates and verdicts that it was made of.
-/

namespace SymbolRules.Command

/-- A check that does not end as failed has outcomes. -/
theorem exists_outcomes_of_exit {inv : Invocation} {host : Host} (h : (perform (.check inv) host).exit ≠ 2) :
    ∃ outcomes, (check inv host).value = .ok outcomes := by
  rw [exit_perform] at h
  cases hv : (check inv host).value with
  | ok outcomes => exact ⟨outcomes, rfl⟩
  | error failure =>
    rw [hv] at h
    exact absurd rfl h

/-- **The printed outcomes are read back.** With `--json` a check that succeeds prints a document and a line
feed, and this is read as its outcomes in order, whatever its candidates hold. Otherwise it prints lines, each
of which is read up to the first tab as the verdict and from there on as the candidate, and together as the
outcomes in order, when no candidate holds a line feed. -/
theorem report_read_back (inv : Invocation) (host : Host) (success : (perform (.check inv) host).exit ≠ 2) :
    ∃ outcomes, (check inv host).value = .ok outcomes ∧
      (inv.json = true → ∃ document, (perform (.check inv) host).stdout = document ++ "\n" ∧
        Outcome.ofDocument? document = some outcomes ∧
        Outcome.ofDocument? (perform (.check inv) host).stdout = some outcomes) ∧
      (inv.json = false → (∀ o ∈ outcomes, '\n' ∉ o.candidate.toList) →
        Outcome.ofListing? (perform (.check inv) host).stdout = some outcomes) := by
  obtain ⟨outcomes, result⟩ := exists_outcomes_of_exit success
  refine ⟨outcomes, result, ?_, ?_⟩
  · intro json
    have printed : (perform (.check inv) host).stdout = Outcome.document outcomes := by
      rw [stdout_perform, result, json]
      rfl
    rw [printed]
    exact ⟨_, rfl, Outcome.ofDocument?_of_read? (Json.read?_pretty _), Outcome.ofDocument?_document outcomes⟩
  · intro lines plain
    have printed : (perform (.check inv) host).stdout = Outcome.listing outcomes := by
      rw [stdout_perform, result, lines]
      rfl
    rw [printed]
    exact Outcome.ofListing?_listing plain

/-- A check in JSON, of candidates with quotes, a backslash, a control character, a line feed and brackets. -/
def quoted : Invocation where
  rules := some (.literal "a*")
  candidateFile := none
  json := true
  verbose := false
  candidates := ["a\"\\\x01\n", "", "],é"]

/-- A check in lines, of candidates with marks, tabs and a carriage return. -/
def tabbed : Invocation where
  rules := some (.literal "M*")
  candidateFile := none
  json := false
  verbose := true
  candidates := ["MATCH\tx\r", "", "-\t"]

/-- Both reports are read back. -/
theorem report_read_back_awkward :
    Outcome.ofDocument? (perform (.check quoted) (sampleHost [])).stdout =
      some [⟨"a\"\\\x01\n", true⟩, ⟨"", false⟩, ⟨"],é", false⟩] ∧
    Outcome.ofListing? (perform (.check tabbed) (sampleHost [])).stdout =
      some [⟨"MATCH\tx\r", true⟩, ⟨"", false⟩, ⟨"-\t", false⟩] := by
  constructor
  · have value : (check quoted (sampleHost [])).value =
      .ok [⟨"a\"\\\x01\n", true⟩, ⟨"", false⟩, ⟨"],é", false⟩] := by decide
    obtain ⟨outcomes, result, documents, -⟩ := report_read_back quoted (sampleHost []) (by decide)
    obtain ⟨-, -, -, read⟩ := documents rfl
    rw [read, Except.ok.inj (result.symm.trans value)]
  · have value : (check tabbed (sampleHost [])).value =
      .ok [⟨"MATCH\tx\r", true⟩, ⟨"", false⟩, ⟨"-\t", false⟩] := by decide
    obtain ⟨outcomes, result, -, lines⟩ := report_read_back tabbed (sampleHost []) (by decide)
    obtain rfl := Except.ok.inj (result.symm.trans value)
    exact lines rfl (by decide)

end SymbolRules.Command
