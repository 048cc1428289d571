import SymbolRules.Proofs.RuleSet.Compiled

/-!
# What a rule text selects

From a rule text to the answer in one statement, on bytes alone: a candidate is selected when some
nonempty run between delimiters, cut off at its first wildcard, agrees with the candidate up to the
writing of separators.
-/

namespace SymbolRules.RuleSet

open Pieces Rule

/-- The rules of a text, as bytes, are its nonempty maximal runs. -/
theorem exists_rule_iff_exists_run (text : String) (P : List UInt8 → Prop) :
    (∃ r ∈ rulesOf text, P (Utf8.encode r.text)) ↔
      ∃ run, run ≠ [] ∧ MaximalRun isDelimiterByte (Utf8.encode text) run ∧ P run := by
  constructor
  · rintro ⟨r, hr, h⟩
    have hrun := mem_segments_iff.1 ⟨r.text, mem_rulesOf_iff.1 hr, rfl⟩
    have hne : Utf8.encode r.text ≠ [] := by
      intro he
      exact r.text_ne_empty (Utf8.encode_injective he)
    exact ⟨Utf8.encode r.text, hne, hrun, h⟩
  · rintro ⟨run, hne, hrun, h⟩
    obtain ⟨segment, hs, rfl⟩ := mem_segments_iff.2 hrun
    have hn : segment ≠ "" := by
      rintro rfl
      exact hne Utf8.encode_empty
    exact ⟨Rule.ofText segment hn, mem_rulesOf_iff.2 hs, h⟩

/-- **What a rule text selects**: the candidates that agree with a nonempty run between delimiters, as
far as its first wildcard if it has one, and as a whole otherwise. -/
theorem selects_iff_exists_run (text candidate : String) :
    ((ofText text).query candidate).value = true ↔
      ∃ run, run ≠ [] ∧ MaximalRun isDelimiterByte (Utf8.encode text) run ∧
        ((∃ k, FirstWildcard run k ∧ k ≤ (Utf8.encode candidate).length ∧
            ((Utf8.encode candidate).take k).map norm = (run.take k).map norm) ∨
          wildcard ∉ run ∧ (Utf8.encode candidate).map norm = run.map norm) := by
  rw [value_query_ofText_iff, rules_ofText, exists_rule_iff_exists_run text fun rule => Fits rule _]
  apply exists_congr
  intro run
  apply and_congr_right
  intro _
  apply and_congr_right
  intro _
  exact fits_iff_offset

end SymbolRules.RuleSet
