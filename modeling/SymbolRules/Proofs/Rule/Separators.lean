import Mathlib.Data.List.Forall2
import SymbolRules.Proofs.Rule.Fits
import SymbolRules.Proofs.Text.CharBytes

/-!
# Texts with one separator

Every text has a dotted form, in which `/` is written as `.`. It has as many bytes as the text, with its
wildcards in the same places, and a rule accepts a candidate just when its dotted form accepts the dotted
form of the candidate (`accepts_dotted`). Texts that differ in the writing of separators alone are those
with the same dotted form (`respelled_iff`).
-/

namespace SymbolRules

namespace Rule

/-! ## Characters -/

/-- A character with `/` read as `.`. -/
def normChar (c : Char) : Char :=
  if c = '/' then '.' else c

theorem normChar_eq_iff {a b : Char} :
    normChar a = normChar b ↔ a = b ∨ (a = '.' ∧ b = '/') ∨ (a = '/' ∧ b = '.') := by
  unfold normChar
  grind

theorem spells_slash : Utf8.Spells (· == 0x2F) (· == '/') :=
  .of_char (by decide) rfl

theorem spells_dot : Utf8.Spells (· == 0x2E) (· == '.') :=
  .of_char (by decide) rfl

theorem map_norm_encodeChar (c : Char) : (String.utf8EncodeChar c).map norm = String.utf8EncodeChar (normChar c) := by
  by_cases h : c = '/'
  · subst h
    rfl
  · have fixed : ∀ b ∈ String.utf8EncodeChar c, norm b = b := by
      intro b hb
      have other := spells_slash.absent c (beq_false_of_ne h) b hb
      exact if_neg (ne_of_beq_false other)
    rw [List.map_congr_left fixed, List.map_id', normChar, if_neg h]

theorem map_norm_flatMap (cs : List Char) :
    (cs.flatMap String.utf8EncodeChar).map norm = (cs.map normChar).flatMap String.utf8EncodeChar := by
  rw [List.map_flatMap, List.flatMap_map, funext map_norm_encodeChar]

end Rule

/-! ## Texts -/

/-- A text with `/` written as `.`. -/
def dotted (s : String) : String :=
  String.ofList (s.toList.map Rule.normChar)

theorem toList_dotted (s : String) : (dotted s).toList = s.toList.map Rule.normChar :=
  String.toList_ofList

theorem encode_dotted (s : String) : Utf8.encode (dotted s) = (Utf8.encode s).map Rule.norm := by
  rw [Utf8.encode, toList_dotted, ← Rule.map_norm_flatMap, ← Utf8.encode]

theorem dotted_eq_empty_iff {s : String} : dotted s = "" ↔ s = "" := by
  rw [← String.toList_eq_nil_iff, toList_dotted, List.map_eq_nil_iff, String.toList_eq_nil_iff]

/-- `t` is `s` with some of its separators, wherever they stand, written the other way. -/
def Respelled (s t : String) : Prop :=
  List.Forall₂ (fun a b => a = b ∨ (a = '.' ∧ b = '/') ∨ (a = '/' ∧ b = '.')) s.toList t.toList

/-- Texts differ in the writing of separators alone when their dotted forms are equal. -/
theorem respelled_iff {s t : String} : Respelled s t ↔ dotted s = dotted t := by
  rw [← String.toList_inj, toList_dotted, toList_dotted, ← List.forall₂_eq_eq_eq, List.forall₂_map_left_iff,
    List.forall₂_map_right_iff]
  simp only [Rule.normChar_eq_iff, Respelled]

/-! ## Rules -/

namespace Rule

theorem norm_norm (b : UInt8) : norm (norm b) = norm b := by
  unfold norm
  grind

theorem map_norm_map_norm (bytes : List UInt8) : (bytes.map norm).map norm = bytes.map norm := by
  rw [List.map_map]
  exact List.map_congr_left fun b _ => norm_norm b

/-- No separator is a wildcard. -/
theorem norm_eq_wildcard_iff {b : UInt8} : norm b = wildcard ↔ b = wildcard := by
  unfold norm wildcard
  grind

theorem norm_beq_wildcard (b : UInt8) : (norm b == wildcard) = (b == wildcard) := by
  rw [Bool.eq_iff_iff, beq_iff_eq, beq_iff_eq, norm_eq_wildcard_iff]

theorem wildcard_mem_map_norm_iff {rule : List UInt8} : wildcard ∈ rule.map norm ↔ wildcard ∈ rule := by
  simp only [List.mem_map, norm_eq_wildcard_iff, exists_eq_right]

theorem core_map_norm (rule : List UInt8) : core (rule.map norm) = (core rule).map norm := by
  have same : (fun b => b != wildcard) ∘ norm = fun b => b != wildcard := by
    funext b
    simp only [Function.comp, bne, norm_beq_wildcard]
  rw [core, List.takeWhile_map, same, core]

/-- Whether a candidate fits a rule does not depend on how either writes its separators. -/
theorem fits_map_norm_iff {rule candidate : List UInt8} :
    Fits (rule.map norm) (candidate.map norm) ↔ Fits rule candidate := by
  simp only [Fits, wildcard_mem_map_norm_iff, core_map_norm, map_norm_map_norm]

/-- The rule of the dotted text. -/
def dotted (r : Rule) : Rule :=
  ofText (SymbolRules.dotted r.text) fun h => r.text_ne_empty (dotted_eq_empty_iff.1 h)

theorem text_dotted (r : Rule) : r.dotted.text = SymbolRules.dotted r.text :=
  rfl

theorem wildcardAt_dotted (r : Rule) : r.dotted.wildcardAt = r.wildcardAt := by
  have same : (· == wildcard) ∘ norm = (· == wildcard) := funext norm_beq_wildcard
  rw [r.wildcardAt_eq, r.dotted.wildcardAt_eq, text_dotted, encode_dotted, List.findIdx?_map, same]

theorem accepts_dotted (r : Rule) (s : String) : r.dotted.accepts (SymbolRules.dotted s) = r.accepts s := by
  rw [Bool.eq_iff_iff, accepts_iff_fits, accepts_iff_fits, text_dotted, encode_dotted, encode_dotted,
    fits_map_norm_iff]

end Rule

end SymbolRules
