import SymbolRules.Json.Lexer

/-!
# Tokens are read from their characters

`ReadAs cs ts` says that the characters `cs` are read as the tokens `ts` wherever they stand, as long as no
word runs on after them. Each token is read from its characters (`readAs_chars`): a string one escape at a
time, a word or number up to where it stops. Blanks add nothing (`ReadAs.blank`), and what is read piece by
piece is read so as a whole (`ReadAs.append`), but for two words with nothing between them.
-/

namespace SymbolRules.Json

/-- No character of a word stands first. -/
def Apart (cs : List Char) : Prop :=
  ∀ c, cs.head? = some c → isWordChar c = false

/-- The characters are read as the tokens, and reading goes on with what stands apart after them. -/
def ReadAs (cs : List Char) (ts : List Token) : Prop :=
  ∀ rest, Apart rest → lex .between (cs ++ rest) = (lex .between rest).map (ts ++ ·)

theorem apart_nil : Apart [] :=
  nofun

theorem apart_cons {c : Char} (h : isWordChar c = false) (cs : List Char) : Apart (c :: cs) := by
  rintro d ⟨⟩
  exact h

theorem Apart.append {cs rest : List Char} (h : Apart cs) (h' : Apart rest) : Apart (cs ++ rest) := by
  cases cs with
  | nil => exact h'
  | cons c cs => exact apart_cons (h c rfl) _

/-! ## Steps -/

section Step

variable {state next : LexState} {c : Char}

theorem lex_cons {ts : List Token} (h : state.step c = some (ts, next)) (cs : List Char) :
    lex state (c :: cs) = (lex next cs).map (ts ++ ·) := by
  simp only [lex, h, Option.bind_eq_bind, Option.bind_some]
  cases lex next cs <;> rfl

/-- A character that completes no token. -/
theorem lex_silent (h : state.step c = some ([], next)) (cs : List Char) : lex state (c :: cs) = lex next cs := by
  rw [lex_cons h]
  simp

end Step

/-! ## Strings -/

/-- A character is written with a letter after a backslash, as its code point, or as itself. -/
theorem escape_cases (c : Char) :
    (∃ letter, escape c = ['\\', letter] ∧ letter ≠ 'u' ∧ unescape? letter = some c) ∨
    (c.toNat < 0x20 ∧ escape c = ['\\', 'u', '0', '0', hexDigit (c.toNat / 16), hexDigit (c.toNat % 16)]) ∨
    (c ≠ '"' ∧ c ≠ '\\' ∧ 0x20 ≤ c.toNat ∧ escape c = [c]) := by
  by_cases quote : c = '"'
  · subst quote
    exact .inl ⟨'"', rfl, by decide, rfl⟩
  by_cases back : c = '\\'
  · subst back
    exact .inl ⟨'\\', rfl, by decide, rfl⟩
  by_cases backspace : c = '\x08'
  · subst backspace
    exact .inl ⟨'b', rfl, by decide, rfl⟩
  by_cases formFeed : c = '\x0c'
  · subst formFeed
    exact .inl ⟨'f', rfl, by decide, rfl⟩
  by_cases lineFeed : c = '\n'
  · subst lineFeed
    exact .inl ⟨'n', rfl, by decide, rfl⟩
  by_cases ret : c = '\r'
  · subst ret
    exact .inl ⟨'r', rfl, by decide, rfl⟩
  by_cases tab : c = '\t'
  · subst tab
    exact .inl ⟨'t', rfl, by decide, rfl⟩
  -- no letter stands for any other character
  rw [escape, if_neg quote, if_neg back, if_neg backspace, if_neg formFeed, if_neg lineFeed, if_neg ret, if_neg tab]
  by_cases control : c.toNat < 0x20
  · rw [if_pos control]
    exact .inr (.inl ⟨control, rfl⟩)
  · rw [if_neg control]
    exact .inr (.inr ⟨quote, back, by omega, rfl⟩)

theorem hexValue?_hexDigit : ∀ n < 16, hexValue? (hexDigit n) = some n := by
  decide

section Code

variable {read : List Char} {value more d : Nat}

theorem lex_code (h : d < 16) (rest : List Char) :
    lex (.code read value (more + 1)) (hexDigit d :: rest) = lex (.code read (value * 16 + d) more) rest := by
  apply lex_silent
  rw [LexState.step, hexValue?_hexDigit d h]
  rfl

/-- The last digit completes the code point of a character. -/
theorem lex_code_last (h : d < 16) {c : Char} (hc : value * 16 + d = c.toNat) (rest : List Char) :
    lex (.code read value 0) (hexDigit d :: rest) = lex (.string (c :: read)) rest := by
  have valid : c.toNat.isValidChar := c.valid
  apply lex_silent
  rw [LexState.step, hexValue?_hexDigit d h]
  simp [character?, hc, valid]

end Code

/-- The written form of a character is read as the character. -/
theorem lex_escape (c : Char) (read rest : List Char) :
    lex (.string read) (escape c ++ rest) = lex (.string (c :: read)) rest := by
  have opens : (LexState.string read).step '\\' = some ([], .escaped read) := rfl
  rcases escape_cases c with ⟨letter, hc, plain, means⟩ | ⟨control, hc⟩ | ⟨quote, back, large, hc⟩
  · have closes : (LexState.escaped read).step letter = some ([], .string (c :: read)) := by
      rw [LexState.step, if_neg plain, means]
      rfl
    rw [hc]
    exact (lex_silent opens _).trans (lex_silent closes rest)
  · have begins : (LexState.escaped read).step 'u' = some ([], .code read 0 3) := rfl
    have zero : hexDigit 0 = '0' := rfl
    rw [hc]
    show lex (.string read) ('\\' :: 'u' :: '0' :: '0' :: _ :: _ :: rest) = _
    rw [lex_silent opens, lex_silent begins, ← zero, lex_code (by omega), lex_code (by omega), lex_code (by omega)]
    exact lex_code_last (by omega) (by omega) rest
  · have plain : (LexState.string read).step c = some ([], .string (c :: read)) := by
      rw [LexState.step, if_neg quote, if_neg back, if_neg (by omega)]
    rw [hc]
    exact lex_silent plain rest

theorem lex_flatMap_escape (cs read rest : List Char) :
    lex (.string read) (cs.flatMap escape ++ rest) = lex (.string (cs.reverse ++ read)) rest := by
  induction cs generalizing read with
  | nil => rfl
  | cons c cs ih =>
    rw [List.flatMap_cons, List.append_assoc, lex_escape, ih, List.reverse_cons, List.append_assoc]
    rfl

theorem readAs_quote (s : String) : ReadAs (quote s) [.str s] := by
  intro rest _
  have opens : LexState.between.step '"' = some ([], .string []) := rfl
  have closes : (LexState.string s.toList.reverse).step '"' = some ([.str s], .between) := by
    rw [LexState.step, if_pos rfl, List.reverse_reverse, String.ofList_toList]
  rw [quote, List.cons_append, lex_silent opens, List.append_assoc, lex_flatMap_escape, List.append_nil,
    List.singleton_append]
  exact lex_cons closes rest

/-! ## Words -/

theorem isBlank_of_isWordChar {c : Char} (h : isWordChar c = true) : isBlank c = false := by
  rw [Bool.eq_false_iff]
  intro blank
  simp only [isBlank, Bool.or_eq_true, beq_iff_eq] at blank
  rcases blank with ((rfl | rfl) | rfl) | rfl <;> exact absurd h (by decide)

theorem isWordChar_of_isBlank {c : Char} (h : isBlank c = true) : isWordChar c = false := by
  rw [Bool.eq_false_iff]
  intro word
  rw [isBlank_of_isWordChar word] at h
  cases h

theorem isWordChar_of_punctuation {c : Char} {t : Token} (h : punctuation? c = some t) : isWordChar c = false := by
  unfold punctuation? at h
  split at h <;> cases h <;> rfl

theorem start_of_isWordChar {c : Char} (h : isWordChar c = true) : LexState.start c = some ([], .word [c]) := by
  have quote : c ≠ '"' := by
    rintro rfl
    exact absurd h (by decide)
  rw [LexState.start, isBlank_of_isWordChar h, if_neg Bool.false_ne_true, if_neg quote, if_pos h]

/-- A word is read to its end. -/
theorem lex_word {word : List Char} (h : ∀ c ∈ word, isWordChar c = true) (read rest : List Char) :
    lex (.word read) (word ++ rest) = lex (.word (word.reverse ++ read)) rest := by
  induction word generalizing read with
  | nil => rfl
  | cons c word ih =>
    have more : (LexState.word read).step c = some ([], .word (c :: read)) := by
      rw [LexState.step, if_pos (h c List.mem_cons_self)]
    rw [List.cons_append, lex_silent more, ih (fun d hd => h d (List.mem_cons_of_mem c hd)), List.reverse_cons,
      List.append_assoc]
    rfl

/-- A word ends where none of its characters follows, and what follows is read as if the word were not there. -/
theorem lex_word_end {read rest : List Char} {t : Token} (h : word? read.reverse = some t) (apart : Apart rest) :
    lex (.word read) rest = (lex .between rest).map (t :: ·) := by
  cases rest with
  | nil =>
    show LexState.finish (.word read) = _
    rw [LexState.finish, h]
    rfl
  | cons c rest =>
    have ends : isWordChar c ≠ true := by
      rw [apart c rfl]
      exact Bool.false_ne_true
    simp only [lex, LexState.step, if_neg ends, h]
    cases LexState.start c with
    | none => rfl
    | some effect =>
      obtain ⟨ts, state⟩ := effect
      simp only [Option.bind_eq_bind, Option.bind_some, Option.pure_def]
      cases lex state rest <;> rfl

theorem readAs_word {word : List Char} {t : Token} (hne : word ≠ []) (chars : ∀ c ∈ word, isWordChar c = true)
    (h : word? word = some t) : ReadAs word [t] := by
  intro rest apart
  cases word with
  | nil => exact absurd rfl hne
  | cons c word =>
    have first : LexState.between.step c = some ([], .word [c]) := start_of_isWordChar (chars c List.mem_cons_self)
    have spelled : word? (word.reverse ++ [c]).reverse = some t := by
      rw [List.reverse_append, List.reverse_reverse]
      exact h
    rw [List.cons_append, lex_silent first, lex_word fun d hd => chars d (List.mem_cons_of_mem c hd),
      lex_word_end spelled apart]
    rfl

/-! ## Numbers -/

theorem digitChar_ne_zero : ∀ n < 10, n ≠ 0 → n.digitChar ≠ '0' := by
  decide

/-- A number that is not zero begins with another digit than zero. -/
theorem head?_toDigits {n : Nat} (h : n ≠ 0) : (Nat.toDigits 10 n).head? ≠ some '0' := by
  induction n using Nat.strongRecOn with
  | ind n ih =>
    by_cases small : n < 10
    · rw [Nat.toDigits_of_lt_base small]
      exact fun zero => digitChar_ne_zero n small h (Option.some.inj zero)
    · have front := ih (n / 10) (by omega) (by omega)
      obtain ⟨d, ds, hd⟩ := List.exists_cons_of_ne_nil (Nat.toDigits_ne_nil (b := 10) (n := n / 10))
      rw [Nat.toDigits_eq_if (by decide), if_neg small, hd]
      rwa [hd] at front

theorem natural?_toDigits (n : Nat) : natural? (Nat.toDigits 10 n) = some n := by
  have digits : (Nat.toDigits 10 n).all Char.isDigit = true :=
    List.all_eq_true.2 fun c hc => Nat.isDigit_of_mem_toDigits (by decide) (by decide) hc
  have lead : (Nat.toDigits 10 n).head? ≠ some '0' ∨ (Nat.toDigits 10 n).length = 1 := by
    by_cases zero : n = 0
    · subst zero
      exact .inr rfl
    · exact .inl (head?_toDigits zero)
  have value : (Nat.toDigits 10 n).foldl (fun n c => n * 10 + (c.toNat - 0x30)) 0 = n := by
    have back : Nat.ofDigitChars 10 (Nat.toDigits 10 n) 0 = n := Nat.ofDigitChars_toDigits (by decide) (by decide)
    simp only [Nat.mul_comm _ 10]
    exact back
  rw [natural?, if_pos (by simpa [digits] using lead), value]

theorem word?_toDigits (n : Nat) : word? (Nat.toDigits 10 n) = some (.nat n) := by
  -- no digit stands in the words that are no numbers
  have other : ∀ word : List Char, (∃ c ∈ word, c.isDigit = false) → Nat.toDigits 10 n ≠ word := by
    rintro word ⟨c, hc, letter⟩ rfl
    rw [Nat.isDigit_of_mem_toDigits (by decide) (by decide) hc] at letter
    cases letter
  rw [word?, if_neg (other _ ⟨'n', by decide, rfl⟩), if_neg (other _ ⟨'t', by decide, rfl⟩),
    if_neg (other _ ⟨'f', by decide, rfl⟩), natural?_toDigits]
  rfl

theorem isWordChar_of_isDigit {c : Char} (h : c.isDigit = true) : isWordChar c = true := by
  rw [isWordChar, Char.isAlphanum, h, Bool.or_true]

/-! ## Tokens one after another -/

namespace ReadAs

variable {cs ds : List Char} {ts us : List Token} {c : Char} {t : Token}

theorem nil : ReadAs [] [] := by
  intro rest _
  simp

theorem blank (hc : isBlank c = true) (h : ReadAs cs ts) : ReadAs (c :: cs) ts := by
  intro rest apart
  have skips : LexState.between.step c = some ([], .between) := if_pos hc
  rw [List.cons_append, lex_silent skips, h rest apart]

/-- Blanks are read as nothing. -/
theorem blanks {gap : List Char} (hg : ∀ b ∈ gap, isBlank b = true) (h : ReadAs cs ts) : ReadAs (gap ++ cs) ts := by
  induction gap with
  | nil => exact h
  | cons b gap ih => exact .blank (hg b List.mem_cons_self) (ih fun d hd => hg d (List.mem_cons_of_mem b hd))

/-- What stands apart from what is before it is read on its own. -/
theorem append (h : ReadAs cs ts) (h' : ReadAs ds us) (apart : Apart ds) : ReadAs (cs ++ ds) (ts ++ us) := by
  intro rest apart'
  rw [List.append_assoc, h _ (apart.append apart'), h' rest apart', Option.map_map]
  simp only [Function.comp_def, List.append_assoc]

/-- After a punctuation mark anything may stand. -/
theorem mark (hc : punctuation? c = some t) (h : ReadAs cs ts) : ReadAs (c :: cs) (t :: ts) := by
  intro rest apart
  have single : LexState.between.step c = some ([t], .between) := by
    unfold punctuation? at hc
    split at hc <;> cases hc <;> rfl
  rw [List.cons_append, lex_cons single, h rest apart, Option.map_map]
  rfl

end ReadAs

/-- **A token is read from its characters.** -/
theorem readAs_chars (t : Token) : ReadAs t.chars [t] := by
  cases t with
  | openArray => exact .mark rfl .nil
  | closeArray => exact .mark rfl .nil
  | openObject => exact .mark rfl .nil
  | closeObject => exact .mark rfl .nil
  | comma => exact .mark rfl .nil
  | colon => exact .mark rfl .nil
  | null => exact readAs_word (by decide) (List.all_eq_true.1 (by decide)) (by decide)
  | bool b => cases b <;> exact readAs_word (by decide) (List.all_eq_true.1 (by decide)) (by decide)
  | nat n =>
    refine readAs_word Nat.toDigits_ne_nil (fun c hc => ?_) (word?_toDigits n)
    exact isWordChar_of_isDigit (Nat.isDigit_of_mem_toDigits (by decide) (by decide) hc)
  | str s => exact readAs_quote s

end SymbolRules.Json
