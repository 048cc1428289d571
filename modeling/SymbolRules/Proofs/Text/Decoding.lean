import SymbolRules.Proofs.Text.CharBytes

/-!
# The reading machine inverts `encode`

`Utf8.run` one character at a time. Forward: the machine reads the bytes of a character as that
character, whatever follows (`run_encodeChar`). Backward: where it does not begin with an ill-formed
part, what it reads first is a character whose bytes stand there (`exists_char_of_run`). So every byte
string is a text followed by bytes that begin with no character (`exists_text_append`), and the byte
strings that `decode?` accepts are the encodings of texts, each of its own text (`decode?_eq_some_iff`).
-/

namespace SymbolRules.Utf8

theorem ofNat_eq {n : Nat} {b : UInt8} (h : n = b.toNat) : UInt8.ofNat n = b := by
  rw [h, UInt8.ofNat_toNat]

theorem toNat_ofNat_of_lt {n : Nat} (h : n < 0x100) : (UInt8.ofNat n).toNat = n := by
  rw [UInt8.toNat_ofNat', Nat.mod_eq_of_lt h]

theorem toNat_charOfNat {n : Nat} (h : n.isValidChar) : (Char.ofNat n).toNat = n := by
  unfold Char.ofNat
  rw [dif_pos h]
  rfl

theorem contains_iff {r : ByteRange} {b : UInt8} :
    r.contains b = true ↔ r.low.toNat ≤ b.toNat ∧ b.toNat ≤ r.high.toNat := by
  simp only [ByteRange.contains, Bool.and_eq_true, decide_eq_true_eq, UInt8.le_iff_toNat_le]

theorem continuation_contains_iff {b : UInt8} :
    continuation.contains b = true ↔ 0x80 ≤ b.toNat ∧ b.toNat ≤ 0xBF :=
  contains_iff

/-! ## Leading bytes -/

/-- Where the byte after a leading byte must lie. -/
def second (b : UInt8) : ByteRange :=
  if b = 0xE0 then ⟨0xA0, 0xBF⟩
  else if b = 0xED then ⟨0x80, 0x9F⟩
  else if b = 0xF0 then ⟨0x90, 0xBF⟩
  else if b = 0xF4 then ⟨0x80, 0x8F⟩
  else continuation

/-- After a leading byte of three, the second byte keeps the value at 0x800 or above and off the
surrogates. -/
theorem second_contains_three {b c : UInt8} (h : 0xE0 ≤ b.toNat) (h' : b.toNat ≤ 0xEF) :
    (second b).contains c = true ↔ (0x80 ≤ c.toNat ∧ c.toNat ≤ 0xBF) ∧
      0x20 ≤ (b.toNat - 0xE0) * 64 + (c.toNat - 0x80) ∧
      ¬ (0x360 ≤ (b.toNat - 0xE0) * 64 + (c.toNat - 0x80) ∧ (b.toNat - 0xE0) * 64 + (c.toNat - 0x80) < 0x380) := by
  unfold second
  simp only [← UInt8.toNat_inj, UInt8.reduceToNat]
  split
  · simp only [contains_iff, UInt8.reduceToNat]; omega
  split
  · simp only [contains_iff, UInt8.reduceToNat]; omega
  rw [if_neg (by omega), if_neg (by omega), continuation_contains_iff]
  omega

/-- After a leading byte of four, the second byte keeps the value at 0x10000 or above and below
0x110000. -/
theorem second_contains_four {b c : UInt8} (h : 0xF0 ≤ b.toNat) (h' : b.toNat ≤ 0xF4) :
    (second b).contains c = true ↔ (0x80 ≤ c.toNat ∧ c.toNat ≤ 0xBF) ∧
      0x10 ≤ (b.toNat - 0xF0) * 64 + (c.toNat - 0x80) ∧ (b.toNat - 0xF0) * 64 + (c.toNat - 0x80) < 0x110 := by
  unfold second
  simp only [← UInt8.toNat_inj, UInt8.reduceToNat]
  rw [if_neg (by omega), if_neg (by omega)]
  split
  · simp only [contains_iff, UInt8.reduceToNat]; omega
  split
  · simp only [contains_iff, UInt8.reduceToNat]; omega
  rw [continuation_contains_iff]
  omega

theorem first_one {b : UInt8} (h : b.toNat ≤ 0x7F) : first b = ([some (Char.ofNat b.toNat)], none) :=
  if_pos (UInt8.le_iff_toNat_le.2 h)

/-- What a leading byte of two or more leaves begun. -/
theorem first_begun {b : UInt8} (h : 0xC2 ≤ b.toNat) (h' : b.toNat ≤ 0xF4) :
    first b = ([], some (if b.toNat ≤ 0xDF then ⟨b.toNat - 0xC0, continuation, 0⟩
      else if b.toNat ≤ 0xEF then ⟨b.toNat - 0xE0, second b, 1⟩ else ⟨b.toNat - 0xF0, second b, 2⟩)) := by
  simp only [first, second, UInt8.le_iff_toNat_le, UInt8.lt_iff_toNat_lt, ← UInt8.toNat_inj]
  simp only [UInt8.reduceToNat]
  grind

theorem first_refused {b : UInt8} (h : 0x7F < b.toNat) (h' : b.toNat < 0xC2 ∨ 0xF4 < b.toNat) :
    first b = ([none], none) := by
  simp only [first, UInt8.le_iff_toNat_le, UInt8.lt_iff_toNat_lt, ← UInt8.toNat_inj]
  simp only [UInt8.reduceToNat]
  grind

/-! ## Steps of a run -/

theorem run_one {b : UInt8} (h : b.toNat ≤ 0x7F) (bs : List UInt8) :
    run none (b :: bs) = some (Char.ofNat b.toNat) :: run none bs := by
  rw [run, step, first_one h]; rfl

theorem run_two {b : UInt8} (h : 0xC2 ≤ b.toNat) (h' : b.toNat ≤ 0xDF) (bs : List UInt8) :
    run none (b :: bs) = run (some ⟨b.toNat - 0xC0, continuation, 0⟩) bs := by
  rw [run, step, first_begun h (by omega), if_pos h']; rfl

theorem run_three {b : UInt8} (h : 0xE0 ≤ b.toNat) (h' : b.toNat ≤ 0xEF) (bs : List UInt8) :
    run none (b :: bs) = run (some ⟨b.toNat - 0xE0, second b, 1⟩) bs := by
  rw [run, step, first_begun (by omega) (by omega), if_neg (by omega), if_pos h']; rfl

theorem run_four {b : UInt8} (h : 0xF0 ≤ b.toNat) (h' : b.toNat ≤ 0xF4) (bs : List UInt8) :
    run none (b :: bs) = run (some ⟨b.toNat - 0xF0, second b, 2⟩) bs := by
  rw [run, step, first_begun (by omega) h', if_neg (by omega), if_neg (by omega)]; rfl

/-- The last byte of a character. -/
theorem run_last {v : Nat} {next : ByteRange} {b : UInt8} (h : next.contains b = true) (bs : List UInt8) :
    run (some ⟨v, next, 0⟩) (b :: bs) = some (Char.ofNat (v * 64 + (b.toNat - 0x80))) :: run none bs := by
  rw [run, step, if_pos h]; rfl

/-- A byte inside a character. -/
theorem run_more {v n : Nat} {next : ByteRange} {b : UInt8} (h : next.contains b = true) (bs : List UInt8) :
    run (some ⟨v, next, n + 1⟩) (b :: bs) = run (some ⟨v * 64 + (b.toNat - 0x80), continuation, n⟩) bs := by
  rw [run, step, if_pos h]; rfl

/-- A begun character that is not cut short has its next byte. -/
theorem next_of_run {p : Begun} {bs : List UInt8} (h : (run (some p) bs).head? ≠ some none) :
    ∃ b rest, bs = b :: rest ∧ p.next.contains b = true := by
  cases bs with
  | nil => exact absurd rfl h
  | cons b rest =>
    refine ⟨b, rest, rfl, ?_⟩
    by_contra hb
    rw [run, step, if_neg hb] at h
    exact h rfl

/-! ## Reading what `encode` writes -/

theorem isValidChar_iff {n : Nat} : n.isValidChar ↔ n < 0xD800 ∨ 0xDFFF < n ∧ n < 0x110000 :=
  Iff.rfl

theorem toNat_isValidChar (c : Char) : c.toNat.isValidChar :=
  c.valid

/-- The machine reads the bytes of a character as that character. -/
theorem run_encodeChar (c : Char) (rest : List UInt8) :
    run none (String.utf8EncodeChar c ++ rest) = some c :: run none rest := by
  have valid := isValidChar_iff.1 (toNat_isValidChar c)
  -- the value that the machine has at the end is the character's
  have back : ∀ v, v = c.toNat → some (Char.ofNat v) = some c := by
    rintro v rfl; rw [Char.ofNat_toNat]
  by_cases h1 : c.toNat ≤ 0x7F
  · have e0 : (UInt8.ofNat c.toNat).toNat = c.toNat := toNat_ofNat_of_lt (by omega)
    rw [encodeChar_one h1, List.singleton_append, run_one (by omega), e0, Char.ofNat_toNat]
  have eLast : (UInt8.ofNat (c.toNat % 64 + 0x80)).toNat = c.toNat % 64 + 0x80 := toNat_ofNat_of_lt (by omega)
  have eMid : (UInt8.ofNat (c.toNat / 64 % 64 + 0x80)).toNat = c.toNat / 64 % 64 + 0x80 :=
    toNat_ofNat_of_lt (by omega)
  by_cases h2 : c.toNat ≤ 0x7FF
  · have e0 : (UInt8.ofNat (c.toNat / 64 + 0xC0)).toNat = c.toNat / 64 + 0xC0 := toNat_ofNat_of_lt (by omega)
    rw [encodeChar_two (by omega) h2, List.cons_append, run_two (by omega) (by omega), List.singleton_append,
      run_last (continuation_contains_iff.2 (by omega)), eLast, e0, back _ (by omega)]
  by_cases h3 : c.toNat ≤ 0xFFFF
  · have e0 : (UInt8.ofNat (c.toNat / 4096 + 0xE0)).toNat = c.toNat / 4096 + 0xE0 :=
      toNat_ofNat_of_lt (by omega)
    rw [encodeChar_three (by omega) h3, List.cons_append, run_three (by omega) (by omega), List.cons_append,
      run_more ((second_contains_three (by omega) (by omega)).2 (by omega)), List.singleton_append,
      run_last (continuation_contains_iff.2 (by omega)), eLast, eMid, e0, back _ (by omega)]
  · have e0 : (UInt8.ofNat (c.toNat / 262144 + 0xF0)).toNat = c.toNat / 262144 + 0xF0 :=
      toNat_ofNat_of_lt (by omega)
    have e1 : (UInt8.ofNat (c.toNat / 4096 % 64 + 0x80)).toNat = c.toNat / 4096 % 64 + 0x80 :=
      toNat_ofNat_of_lt (by omega)
    rw [encodeChar_four (by omega), List.cons_append, run_four (by omega) (by omega), List.cons_append,
      run_more ((second_contains_four (by omega) (by omega)).2 (by omega)), List.cons_append,
      run_more (continuation_contains_iff.2 (by omega)), List.singleton_append,
      run_last (continuation_contains_iff.2 (by omega)), eLast, eMid, e1, e0, back _ (by omega)]

/-- The machine reads the bytes of a text as its characters, whatever follows. -/
theorem run_flatMap (cs : List Char) (rest : List UInt8) :
    run none (cs.flatMap String.utf8EncodeChar ++ rest) = cs.map some ++ run none rest := by
  induction cs with
  | nil => rfl
  | cons c cs ih => rw [List.flatMap_cons, List.append_assoc, run_encodeChar, ih]; rfl

theorem characters_encode (s : String) : characters (encode s) = s.toList.map some := by
  have h := run_flatMap s.toList []
  rwa [List.append_nil, run, List.append_nil] at h

/-! ## Writing what was read -/

/-- The character that one byte is read as has that byte. -/
theorem encodeChar_read_one {b : UInt8} (h : b.toNat ≤ 0x7F) : String.utf8EncodeChar (Char.ofNat b.toNat) = [b] := by
  have valid : b.toNat.isValidChar := isValidChar_iff.2 (by omega)
  have v := toNat_charOfNat valid
  rw [encodeChar_one (by omega), v, UInt8.ofNat_toNat]

/-- The character that two bytes are read as has those bytes. -/
theorem encodeChar_read_two {b b1 : UInt8} (h : 0xC2 ≤ b.toNat) (h' : b.toNat ≤ 0xDF)
    (h1 : continuation.contains b1 = true) :
    String.utf8EncodeChar (Char.ofNat ((b.toNat - 0xC0) * 64 + (b1.toNat - 0x80))) = [b, b1] := by
  have r1 := continuation_contains_iff.1 h1
  have valid : ((b.toNat - 0xC0) * 64 + (b1.toNat - 0x80)).isValidChar := isValidChar_iff.2 (by omega)
  have v := toNat_charOfNat valid
  rw [encodeChar_two (by omega) (by omega), v, ofNat_eq (b := b) (by omega), ofNat_eq (b := b1) (by omega)]

/-- The character that three bytes are read as has those bytes. -/
theorem encodeChar_read_three {b b1 b2 : UInt8} (h : 0xE0 ≤ b.toNat) (h' : b.toNat ≤ 0xEF)
    (h1 : (second b).contains b1 = true) (h2 : continuation.contains b2 = true) :
    String.utf8EncodeChar (Char.ofNat (((b.toNat - 0xE0) * 64 + (b1.toNat - 0x80)) * 64 + (b2.toNat - 0x80))) =
      [b, b1, b2] := by
  have r1 := (second_contains_three h h').1 h1
  have r2 := continuation_contains_iff.1 h2
  have valid : (((b.toNat - 0xE0) * 64 + (b1.toNat - 0x80)) * 64 + (b2.toNat - 0x80)).isValidChar :=
    isValidChar_iff.2 (by omega)
  have v := toNat_charOfNat valid
  rw [encodeChar_three (by omega) (by omega), v, ofNat_eq (b := b) (by omega), ofNat_eq (b := b1) (by omega),
    ofNat_eq (b := b2) (by omega)]

/-- The character that four bytes are read as has those bytes. -/
theorem encodeChar_read_four {b b1 b2 b3 : UInt8} (h : 0xF0 ≤ b.toNat) (h' : b.toNat ≤ 0xF4)
    (h1 : (second b).contains b1 = true) (h2 : continuation.contains b2 = true)
    (h3 : continuation.contains b3 = true) :
    String.utf8EncodeChar (Char.ofNat ((((b.toNat - 0xF0) * 64 + (b1.toNat - 0x80)) * 64 + (b2.toNat - 0x80)) * 64
      + (b3.toNat - 0x80))) = [b, b1, b2, b3] := by
  have r1 := (second_contains_four h h').1 h1
  have r2 := continuation_contains_iff.1 h2
  have r3 := continuation_contains_iff.1 h3
  have valid : ((((b.toNat - 0xF0) * 64 + (b1.toNat - 0x80)) * 64 + (b2.toNat - 0x80)) * 64
      + (b3.toNat - 0x80)).isValidChar := isValidChar_iff.2 (by omega)
  have v := toNat_charOfNat valid
  rw [encodeChar_four (by omega), v, ofNat_eq (b := b) (by omega), ofNat_eq (b := b1) (by omega),
    ofNat_eq (b := b2) (by omega), ofNat_eq (b := b3) (by omega)]

/-- Where nothing ill-formed is read first, a character is, and its bytes stand there. -/
theorem exists_char_of_run {b : UInt8} {bs : List UInt8} (h : (run none (b :: bs)).head? ≠ some none) :
    ∃ c rest, b :: bs = String.utf8EncodeChar c ++ rest := by
  by_cases h1 : b.toNat ≤ 0x7F
  · exact ⟨_, bs, by rw [encodeChar_read_one h1, List.singleton_append]⟩
  by_cases hr : b.toNat < 0xC2 ∨ 0xF4 < b.toNat
  · -- a byte that begins nothing is read as ill-formed
    rw [run, step, first_refused (by omega) hr] at h
    exact absurd rfl h
  by_cases h2 : b.toNat ≤ 0xDF
  · rw [run_two (by omega) h2] at h
    obtain ⟨b1, rest, rfl, hc1⟩ := next_of_run h
    have bytes := encodeChar_read_two (by omega) h2 hc1
    exact ⟨_, rest, by rw [bytes]; rfl⟩
  by_cases h3 : b.toNat ≤ 0xEF
  · rw [run_three (by omega) h3] at h
    obtain ⟨b1, bs, rfl, hc1⟩ := next_of_run h
    rw [run_more hc1] at h
    obtain ⟨b2, rest, rfl, hc2⟩ := next_of_run h
    have bytes := encodeChar_read_three (by omega) h3 hc1 hc2
    exact ⟨_, rest, by rw [bytes]; rfl⟩
  · rw [run_four (by omega) (by omega)] at h
    obtain ⟨b1, bs, rfl, hc1⟩ := next_of_run h
    rw [run_more hc1] at h
    obtain ⟨b2, bs, rfl, hc2⟩ := next_of_run h
    rw [run_more hc2] at h
    obtain ⟨b3, rest, rfl, hc3⟩ := next_of_run h
    have bytes := encodeChar_read_four (by omega) (by omega) hc1 hc2 hc3
    exact ⟨_, rest, by rw [bytes]; rfl⟩

/-- The bytes of no character stand first. -/
def BeginsNoChar (bs : List UInt8) : Prop :=
  ∀ c rest, bs ≠ String.utf8EncodeChar c ++ rest

/-- What begins with no character is read as ill-formed first. -/
theorem run_of_beginsNoChar {bs : List UInt8} (h : BeginsNoChar bs) (hne : bs ≠ []) :
    ∃ more, run none bs = none :: more := by
  obtain ⟨b, bs, rfl⟩ := List.exists_cons_of_ne_nil hne
  have refused : (run none (b :: bs)).head? = some none := by
    by_contra read
    obtain ⟨c, rest, hbs⟩ := exists_char_of_run read
    exact h c rest hbs
  exact List.head?_eq_some_iff.1 refused

/-- **Every byte string is a text followed by bytes that begin with no character.** -/
theorem exists_text_append (bs : List UInt8) :
    ∃ (good : List Char) (bad : List UInt8), bs = good.flatMap String.utf8EncodeChar ++ bad ∧ BeginsNoChar bad := by
  induction hn : bs.length using Nat.strongRecOn generalizing bs with
  | ind n ih =>
    by_cases h : BeginsNoChar bs
    · exact ⟨[], bs, rfl, h⟩
    · obtain ⟨c, rest, rfl⟩ : ∃ c rest, bs = String.utf8EncodeChar c ++ rest := by
        simpa [BeginsNoChar] using h
      have shorter : rest.length < n := by
        rw [List.length_append, String.length_utf8EncodeChar] at hn
        have := c.utf8Size_pos
        omega
      obtain ⟨good, bad, rfl, hbad⟩ := ih rest.length shorter rest rfl
      exact ⟨c :: good, bad, by rw [List.flatMap_cons, List.append_assoc], hbad⟩

/-- Bytes in which nothing ill-formed is read are the bytes of a text. -/
theorem exists_text_of_run {bs : List UInt8} (h : ∀ x ∈ run none bs, x.isSome = true) :
    ∃ cs : List Char, bs = cs.flatMap String.utf8EncodeChar := by
  obtain ⟨good, bad, rfl, hbad⟩ := exists_text_append bs
  refine ⟨good, ?_⟩
  by_cases hne : bad = []
  · rw [hne, List.append_nil]
  · obtain ⟨more, hmore⟩ := run_of_beginsNoChar hbad hne
    rw [run_flatMap, hmore] at h
    exact absurd (h none (by simp)) (by simp)

theorem decode?_encode (s : String) : decode? (encode s) = some s := by
  have all : (s.toList.map some).all Option.isSome = true := by simp
  rw [decode?, characters_encode, if_pos all]
  simp

/-- **The byte strings that can be decoded are the encodings**, each of its own text. -/
theorem decode?_eq_some_iff {bs : List UInt8} {s : String} : decode? bs = some s ↔ bs = encode s := by
  constructor
  · intro h
    have all : (characters bs).all Option.isSome = true := by
      by_contra hall
      rw [decode?, if_neg hall] at h
      cases h
    obtain ⟨cs, rfl⟩ := exists_text_of_run (List.all_eq_true.1 all)
    rw [← encode_ofList, decode?_encode] at h
    rw [← encode_ofList, Option.some.inj h]
  · rintro rfl
    exact decode?_encode s

theorem decode?_eq_none_iff {bs : List UInt8} : decode? bs = none ↔ ∀ s, bs ≠ encode s := by
  rw [Option.eq_none_iff_forall_ne_some]
  exact forall_congr' fun s => not_congr decode?_eq_some_iff

theorem encode_injective : Function.Injective encode := by
  intro s t h
  have hs := decode?_encode s
  rw [h, decode?_encode] at hs
  exact (Option.some.inj hs).symm

end SymbolRules.Utf8
