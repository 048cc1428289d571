import SymbolRules.Proofs.Rule.Repaired
import SymbolRules.Proofs.RuleSet.Compiled
import SymbolRules.Symbol

/-!
# Symbols given as raw bytes

A query looks at the repaired text of a symbol. As long as no rule uses the replacement character, the
answer is that of comparing the rules with the bytes as they are.
-/

namespace SymbolRules.RuleSet

open Rule

/-- **Repair is invisible to rule sets** in which no rule holds the replacement character before its first
`*`: a symbol is selected when a rule, cut off at its first wildcard, agrees with the raw bytes up to the
writing of separators. So bytes that are not text are accepted by no rule without a wildcard, and what
stands from the wildcard on may be anything. -/
theorem selects_bytes_iff_raw (text : String) (settings : Settings) (bs : List UInt8)
    (plain : ∀ r ∈ (build text settings).value.rules, Utf8.replacement ∉ r.text.toList.takeWhile (· != '*')) :
    (((build text settings).value.querySymbol (.bytes bs)).value = true ↔
      ∃ r ∈ (build text settings).value.rules,
        (∃ k, FirstWildcard (Utf8.encode r.text) k ∧ k ≤ bs.length ∧
            (bs.take k).map norm = ((Utf8.encode r.text).take k).map norm) ∨
          wildcard ∉ Utf8.encode r.text ∧ bs.map norm = (Utf8.encode r.text).map norm) ∧
    (∀ r ∈ (build text settings).value.rules, wildcard ∉ Utf8.encode r.text → Utf8.decode? bs = none →
      r.accepts (Symbol.bytes bs).toText = false) ∧
    (∀ r ∈ (build text settings).value.rules, ∀ k, FirstWildcard (Utf8.encode r.text) k →
      ∀ other, other.take k = bs.take k →
        r.accepts (Symbol.bytes other).toText = r.accepts (Symbol.bytes bs).toText) := by
  have raw : ∀ r ∈ (build text settings).value.rules, ∀ symbol,
      r.accepts (Symbol.bytes symbol).toText = true ↔ Fits (Utf8.encode r.text) symbol := by
    intro r hr symbol
    rw [accepts_iff_fits]
    exact fits_repair_iff (plain r hr) symbol
  refine ⟨?_, ?_, ?_⟩
  · rw [querySymbol, value_query_iff]
    apply exists_congr
    intro r
    apply and_congr_right
    intro hr
    rw [raw r hr, fits_iff_offset]
  · intro r hr exact notText
    rw [Bool.eq_false_iff, Ne, raw r hr]
    intro fits
    have isText := decode?_of_fits_exact exact fits
    rw [notText] at isText
    cases isText
  · intro r hr k hk other same
    rw [Bool.eq_iff_iff, raw r hr, raw r hr]
    exact fits_congr_take hk same

/-- A character cut off right after the wildcard's place, and one cut off inside an exact rule. -/
theorem selects_bytes_iff_raw_cut :
    ((build "a.b*;é" {}).value.querySymbol (.bytes [0x61, 0x2F, 0x62, 0xC3])).value = true ∧
    ∀ r ∈ (build "a.b*;é" {}).value.rules, wildcard ∉ Utf8.encode r.text →
      r.accepts (Symbol.bytes [0xC3]).toText = false := by
  have plain : ∀ r ∈ (build "a.b*;é" {}).value.rules, Utf8.replacement ∉ r.text.toList.takeWhile (· != '*') := by
    decide
  constructor
  · apply (selects_bytes_iff_raw "a.b*;é" {} [0x61, 0x2F, 0x62, 0xC3] plain).1.2
    exact ⟨Rule.ofText "a.b*" (by decide), by decide, .inl ⟨3, ⟨by decide, by decide⟩, by decide, by decide⟩⟩
  · intro r hr exact
    exact (selects_bytes_iff_raw "a.b*;é" {} [0xC3] plain).2.1 r hr exact (by decide)

end SymbolRules.RuleSet
