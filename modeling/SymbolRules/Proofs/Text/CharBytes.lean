import SymbolRules.Proofs.Text.Pieces
import SymbolRules.Text.Utf8

/-!
# The bytes of a character

`String.utf8EncodeChar` by the size of its character, and what follows for a text: below 0x80 a
character is its own byte, and every other character has bytes from 0x80 on. A class of ASCII
characters is therefore met in the bytes exactly where it is met in the characters (`Spells`), so
splitting a text or cutting it short at such a class may be done on either side of `encode`.
-/

namespace SymbolRules.Utf8

theorem toNat_lt (c : Char) : c.toNat < 0x110000 := by
  have h : c.toNat = c.val.toNat := rfl
  rcases c.valid with h' | h' <;> omega

theorem encodeChar_one {c : Char} (h : c.toNat ≤ 0x7F) : String.utf8EncodeChar c = [UInt8.ofNat c.toNat] := by
  unfold String.utf8EncodeChar
  exact if_pos h

theorem encodeChar_two {c : Char} (h : 0x7F < c.toNat) (h' : c.toNat ≤ 0x7FF) :
    String.utf8EncodeChar c = [UInt8.ofNat (c.toNat / 64 + 0xC0), UInt8.ofNat (c.toNat % 64 + 0x80)] := by
  unfold String.utf8EncodeChar
  show (if c.toNat ≤ _ then _ else if c.toNat ≤ _ then
    [UInt8.ofNat (c.toNat / 64 % 0x20 + 0xC0), _] else _) = _
  rw [if_neg (by omega), if_pos h', Nat.mod_eq_of_lt (by omega)]
  rfl

theorem encodeChar_three {c : Char} (h : 0x7FF < c.toNat) (h' : c.toNat ≤ 0xFFFF) :
    String.utf8EncodeChar c = [UInt8.ofNat (c.toNat / 4096 + 0xE0), UInt8.ofNat (c.toNat / 64 % 64 + 0x80),
      UInt8.ofNat (c.toNat % 64 + 0x80)] := by
  unfold String.utf8EncodeChar
  show (if c.toNat ≤ _ then _ else if c.toNat ≤ _ then _ else if c.toNat ≤ _ then
    [UInt8.ofNat (c.toNat / 4096 % 0x10 + 0xE0), _, _] else _) = _
  rw [if_neg (by omega), if_neg (by omega), if_pos h', Nat.mod_eq_of_lt (by omega)]
  rfl

theorem encodeChar_four {c : Char} (h : 0xFFFF < c.toNat) :
    String.utf8EncodeChar c = [UInt8.ofNat (c.toNat / 262144 + 0xF0), UInt8.ofNat (c.toNat / 4096 % 64 + 0x80),
      UInt8.ofNat (c.toNat / 64 % 64 + 0x80), UInt8.ofNat (c.toNat % 64 + 0x80)] := by
  have := toNat_lt c
  unfold String.utf8EncodeChar
  show (if c.toNat ≤ _ then _ else if c.toNat ≤ _ then _ else if c.toNat ≤ _ then _ else
    [UInt8.ofNat (c.toNat / 262144 % 8 + 0xF0), _, _, _]) = _
  rw [if_neg (by omega), if_neg (by omega), if_neg (by omega), Nat.mod_eq_of_lt (by omega)]
  rfl

/-- No byte of a longer character is an ASCII byte. -/
theorem le_of_mem_encodeChar {c : Char} (h : 0x7F < c.toNat) {b : UInt8} (hb : b ∈ String.utf8EncodeChar c) :
    0x80 ≤ b.toNat := by
  have := toNat_lt c
  by_cases h2 : c.toNat ≤ 0x7FF
  · simp only [encodeChar_two h h2, List.mem_cons, List.not_mem_nil, or_false] at hb
    rcases hb with rfl | rfl <;> rw [UInt8.toNat_ofNat'] <;> omega
  have h2' : 0x7FF < c.toNat := by omega
  by_cases h3 : c.toNat ≤ 0xFFFF
  · simp only [encodeChar_three h2' h3, List.mem_cons, List.not_mem_nil, or_false] at hb
    rcases hb with rfl | rfl | rfl <;> rw [UInt8.toNat_ofNat'] <;> omega
  have h3' : 0xFFFF < c.toNat := by omega
  simp only [encodeChar_four h3', List.mem_cons, List.not_mem_nil, or_false] at hb
  rcases hb with rfl | rfl | rfl | rfl <;> rw [UInt8.toNat_ofNat'] <;> omega

@[simp] theorem encode_empty : encode "" = [] := rfl

theorem encode_ofList (cs : List Char) : encode (String.ofList cs) = cs.flatMap String.utf8EncodeChar := by
  rw [encode, String.toList_ofList]

/-- `q` holds of the one byte of each character of `p`, and of no byte of another character. -/
structure Spells (q : UInt8 → Bool) (p : Char → Bool) : Prop where
  single : ∀ c, p c = true → ∃ b, String.utf8EncodeChar c = [b] ∧ q b = true
  absent : ∀ c, p c = false → ∀ b ∈ String.utf8EncodeChar c, q b = false

/-- Classes of ASCII that agree below 0x80 and are empty from there on. -/
theorem Spells.of_ascii {q : UInt8 → Bool} {p : Char → Bool} (low : ∀ n < 0x80, q (UInt8.ofNat n) = p (Char.ofNat n))
    (bytes : ∀ b, q b = true → b.toNat < 0x80) (chars : ∀ c, p c = true → c.toNat < 0x80) : Spells q p where
  single c hc := by
    have hlt := chars c hc
    refine ⟨UInt8.ofNat c.toNat, encodeChar_one (by omega), ?_⟩
    rw [low c.toNat hlt, Char.ofNat_toNat, hc]
  absent c hc b hb := by
    by_cases hlt : c.toNat ≤ 0x7F
    · rw [encodeChar_one hlt, List.mem_singleton] at hb
      rw [hb, low c.toNat (by omega), Char.ofNat_toNat, hc]
    · have high := le_of_mem_encodeChar (by omega) hb
      cases hq : q b with
      | false => rfl
      | true =>
        have small := bytes b hq
        omega

/-- A single ASCII character and its byte. -/
theorem Spells.of_char {c : Char} {b : UInt8} (h : c.toNat < 0x80) (hb : String.utf8EncodeChar c = [b]) :
    Spells (· == b) (· == c) where
  single d hd := by
    rw [eq_of_beq hd]
    exact ⟨b, hb, beq_self_eq_true b⟩
  absent d hd x hx := by
    rw [encodeChar_one (by omega), List.singleton_inj] at hb
    rw [beq_eq_false_iff_ne] at hd ⊢
    rintro rfl
    by_cases small : d.toNat ≤ 0x7F
    · rw [encodeChar_one small, List.mem_singleton, ← hb] at hx
      have values := congrArg UInt8.toNat hx
      rw [UInt8.toNat_ofNat', UInt8.toNat_ofNat'] at values
      have same : c.toNat = d.toNat := by omega
      exact hd (Char.toNat_inj.1 same.symm)
    · have high := le_of_mem_encodeChar (by omega) hx
      rw [← hb, UInt8.toNat_ofNat'] at high
      omega

namespace Spells

variable {q : UInt8 → Bool} {p : Char → Bool}

/-- A text without a character of the class has no byte of it. -/
theorem free_flatMap (h : Spells q p) {cs : List Char} (free : Pieces.Free p cs) :
    Pieces.Free q (cs.flatMap String.utf8EncodeChar) := by
  intro b hb
  obtain ⟨c, hc, hb⟩ := List.mem_flatMap.1 hb
  exact h.absent c (free c hc) b hb

/-- Splitting the bytes of a text gives the bytes of the pieces of the text. -/
theorem splitOnP_flatMap (h : Spells q p) (cs : List Char) :
    (cs.flatMap String.utf8EncodeChar).splitOnP q = (cs.splitOnP p).map (·.flatMap String.utf8EncodeChar) := by
  induction cs with
  | nil => simp
  | cons c cs ih =>
    rw [List.flatMap_cons, List.splitOnP_cons_eq_if_modifyHead]
    cases hc : p c with
    | true =>
      obtain ⟨b, hb, hq⟩ := h.single c hc
      rw [hb, List.singleton_append, List.splitOnP_cons_eq_if_modifyHead, ih]
      simp [hq]
    | false =>
      rw [Pieces.splitOnP_append (h.absent c hc), ih]
      obtain ⟨piece, pieces, hp⟩ := List.exists_cons_of_ne_nil (List.splitOnP_ne_nil p cs)
      simp [hp]

/-- Cutting the bytes of a text short gives the bytes of the text cut short. -/
theorem takeWhile_flatMap (h : Spells q p) (cs : List Char) :
    (cs.flatMap String.utf8EncodeChar).takeWhile (!q ·) = (cs.takeWhile (!p ·)).flatMap String.utf8EncodeChar := by
  induction cs with
  | nil => rfl
  | cons c cs ih =>
    rw [List.flatMap_cons]
    cases hc : p c with
    | true =>
      obtain ⟨b, hb, hq⟩ := h.single c hc
      simp [hb, hq, hc]
    | false =>
      rw [List.takeWhile_append_of_pos (by simpa using h.absent c hc), ih]
      simp [hc]

end Spells

end SymbolRules.Utf8
