import SymbolRules.Proofs.Rule.Covering
import SymbolRules.Proofs.Rule.Separators
import SymbolRules.Proofs.Text.Repair

/-!
# Rules against repaired bytes

Bytes are a text followed by what begins with no character, and repair writes the replacement character
in front of what it makes of the rest. Neither of these begins with a character that a rule uses, unless
the rule uses the replacement character, so in both the rule meets the same text and stops at the same
place (`fits_append_iff`). Hence repaired bytes fit exactly the rules that the raw bytes fit
(`fits_repair_iff`), and a rule without a wildcard is fitted by text alone (`decode?_of_fits_exact`).
-/

namespace SymbolRules.Rule

open Utf8 (BeginsNoChar replacement)

/-! ## What begins with no character -/

/-- Reading `/` as `.` makes no character of what begins with none. -/
theorem beginsNoChar_map_norm {bad : List UInt8} (h : BeginsNoChar bad) : BeginsNoChar (bad.map norm) := by
  intro c rest he
  obtain ⟨start, tail, rfl, hstart, -⟩ := List.map_eq_append_iff.1 he
  by_cases hc : c = '.'
  · -- a byte read as `.` was one of the two separators
    subst hc
    obtain ⟨b, rfl, hb⟩ : ∃ b, start = [b] ∧ norm b = 0x2E := List.map_eq_singleton_iff.1 hstart
    by_cases slash : b = 0x2F
    · exact h '/' tail (by rw [slash]; rfl)
    · rw [norm, if_neg slash] at hb
      exact h '.' tail (by rw [hb]; rfl)
  · have fixed : ∀ b ∈ start, norm b = b := by
      intro b hb
      have mem : norm b ∈ String.utf8EncodeChar c := hstart ▸ List.mem_map_of_mem hb
      have other : norm b ≠ 0x2E := ne_of_beq_false (spells_dot.absent c (beq_false_of_ne hc) _ mem)
      unfold norm at other ⊢
      split
      · rename_i slash
        rw [if_pos slash] at other
        exact absurd rfl other
      · rfl
    rw [List.map_congr_left fixed, List.map_id'] at hstart
    exact h c tail (by rw [hstart])

/-! ## The characters that a rule uses -/

/-- The characters before the first `*`, with `/` read as `.`. -/
def letters (rule : String) : List Char :=
  (rule.toList.takeWhile (· != '*')).map normChar

theorem map_norm_core (rule : String) :
    (core (Utf8.encode rule)).map norm = (letters rule).flatMap String.utf8EncodeChar := by
  rw [core_encode, map_norm_flatMap, letters]

/-- A text and what follows it fit a rule as the text does, when none of the characters that the rule
uses begins what follows. -/
theorem fits_append_iff {rule : String} {good : List Char} {rest : List UInt8}
    (h : ∀ a ∈ letters rule, ∀ more, rest.map norm ≠ String.utf8EncodeChar a ++ more) :
    Fits (Utf8.encode rule) (good.flatMap String.utf8EncodeChar ++ rest) ↔
      if wildcard ∈ Utf8.encode rule then letters rule <+: good.map normChar
      else good.map normChar = letters rule ∧ rest = [] := by
  unfold Fits
  rw [List.map_append, map_norm_flatMap]
  split
  · rw [map_norm_core]
    exact Utf8.flatMap_prefix_append_iff h
  · rename_i exact
    rw [← core_of_not_mem exact, map_norm_core, Utf8.flatMap_eq_append_iff h, List.map_eq_nil_iff]

/-- A rule uses the replacement character only when it holds it before its first `*`. -/
theorem replacement_not_mem_letters {rule : String} (h : replacement ∉ rule.toList.takeWhile (· != '*')) :
    replacement ∉ letters rule := by
  intro mem
  obtain ⟨c, hc, he⟩ := List.mem_map.1 mem
  unfold normChar at he
  split at he
  · exact absurd he (by decide)
  · exact h (he ▸ hc)

/-- **Repair is invisible to a rule** that does not use the replacement character. -/
theorem fits_repair_iff {rule : String} (h : replacement ∉ rule.toList.takeWhile (· != '*')) (bs : List UInt8) :
    Fits (Utf8.encode rule) (Utf8.encode (Utf8.repair bs)) ↔ Fits (Utf8.encode rule) bs := by
  obtain ⟨good, bad, rfl, hbad⟩ := Utf8.exists_text_append bs
  by_cases hne : bad = []
  · rw [hne, List.append_nil, ← Utf8.encode_ofList, Utf8.repair_encode]
  obtain ⟨more, hmore⟩ := Utf8.repair_append good hbad hne
  have raw : ∀ a ∈ letters rule, ∀ rest, bad.map norm ≠ String.utf8EncodeChar a ++ rest :=
    fun a _ => beginsNoChar_map_norm hbad a
  have repaired : ∀ a ∈ letters rule, ∀ rest,
      ((replacement :: more).flatMap String.utf8EncodeChar).map norm ≠ String.utf8EncodeChar a ++ rest := by
    intro a ha rest he
    rw [map_norm_flatMap, List.map_cons, List.flatMap_cons] at he
    obtain ⟨rfl, -⟩ := Utf8.encodeChar_append_inj he
    exact replacement_not_mem_letters h ha
  have written : (replacement :: more).flatMap String.utf8EncodeChar ≠ [] := by
    rw [List.flatMap_cons]
    exact List.append_ne_nil_of_left_ne_nil (by decide) _
  rw [hmore, Utf8.encode_ofList, List.flatMap_append, fits_append_iff repaired, fits_append_iff raw]
  simp only [written, hne, and_false]

/-- Bytes that are not text fit no rule without a wildcard. -/
theorem decode?_of_fits_exact {rule : String} (hw : wildcard ∉ Utf8.encode rule) {bs : List UInt8}
    (h : Fits (Utf8.encode rule) bs) : (Utf8.decode? bs).isSome = true := by
  obtain ⟨good, bad, rfl, hbad⟩ := Utf8.exists_text_append bs
  have raw : ∀ a ∈ letters rule, ∀ rest, bad.map norm ≠ String.utf8EncodeChar a ++ rest :=
    fun a _ => beginsNoChar_map_norm hbad a
  rw [fits_append_iff raw, if_neg hw] at h
  obtain ⟨-, rfl⟩ := h
  rw [List.append_nil, ← Utf8.encode_ofList, Utf8.decode?_encode]
  rfl

end SymbolRules.Rule
