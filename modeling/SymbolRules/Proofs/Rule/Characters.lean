import SymbolRules.Proofs.Rule.Covering
import SymbolRules.Proofs.Rule.Separators
import SymbolRules.Proofs.Text.Repair

/-!
# Walking over characters

A rule is compared with a candidate byte by byte. Comparing them character by character, with positions and
lengths that count characters, gives the same answer (`matchesText_eq_matchesChars`), although the walk over
bytes may stop inside a character and counts otherwise. The bytes of a character begin those of no other, and
a separator or a wildcard is a character of its own, so the walk over the bytes of two characters passes
when the characters agree and stops when they do not (`fits_encodeChar_append_iff`).
-/

namespace SymbolRules.Rule

/-- Two characters agree when they are equal, or one is `.` and the other `/`. -/
def agreeChar (p c : Char) : Bool :=
  p == c || (p == '.' && c == '/') || (p == '/' && c == '.')

/-- Compares the characters of a rule with those of a candidate from a position on. A wildcard matches at once,
and a rule without one must have as many characters as the candidate. -/
def matchesCharsFrom (rule candidate : List Char) (i : Nat) : Bool :=
  if h : i < rule.length then
    if rule[i] = '*' then true
    else match candidate[i]? with
      | none => false
      | some c => if agreeChar rule[i] c then matchesCharsFrom rule candidate (i + 1) else false
  else candidate.length == rule.length
termination_by rule.length - i

/-- Whether a rule text, possibly empty, matches a candidate, by their characters. -/
def matchesChars (rule candidate : String) : Bool :=
  matchesCharsFrom rule.toList candidate.toList 0

/-! ## One character -/

theorem agreeChar_iff {p c : Char} : agreeChar p c = true ↔ normChar p = normChar c := by
  simp only [agreeChar, normChar_eq_iff, Bool.or_eq_true, Bool.and_eq_true, beq_iff_eq, or_assoc]

theorem fits_append_append {a b rule candidate : List UInt8} (plain : wildcard ∉ a) (same : a.map norm = b.map norm) :
    Fits (a ++ rule) (b ++ candidate) ↔ Fits rule candidate := by
  induction a generalizing b with
  | nil =>
    obtain rfl := List.map_eq_nil_iff.1 same.symm
    exact Iff.rfl
  | cons x a ih =>
    obtain ⟨y, b, rfl, hy, hb⟩ := List.map_eq_cons_iff.1 same.symm
    have hx : x ≠ wildcard := fun e => plain (e ▸ List.mem_cons_self)
    rw [List.cons_append, List.cons_append, fits_cons_cons hx, ih (fun h => plain (List.mem_cons_of_mem x h)) hb.symm]
    exact and_iff_right hy

theorem prefix_of_fits_append {a rule candidate : List UInt8} (plain : wildcard ∉ a) (h : Fits (a ++ rule) candidate) :
    a.map norm <+: candidate.map norm := by
  have longer : a <+: core (a ++ rule) := by
    rw [core, List.takeWhile_append_of_pos fun b hb => by simpa using ne_of_mem_of_not_mem hb plain]
    exact List.prefix_append _ _
  exact (longer.map norm).trans (core_prefix_of_fits h)

/-- The bytes of one character are compared as the character is. -/
theorem fits_encodeChar_append_iff {p c : Char} {rule candidate : List UInt8} (hp : p ≠ '*') :
    Fits (String.utf8EncodeChar p ++ rule) (String.utf8EncodeChar c ++ candidate) ↔
      agreeChar p c = true ∧ Fits rule candidate := by
  have plain := wildcard_not_mem_encodeChar hp
  rw [agreeChar_iff]
  constructor
  · intro h
    have begins := prefix_of_fits_append plain h
    rw [List.map_append, map_norm_encodeChar, map_norm_encodeChar] at begins
    obtain ⟨more, hmore⟩ := begins
    have same := (Utf8.encodeChar_append_inj hmore).1
    refine ⟨same, (fits_append_append plain ?_).1 h⟩
    rw [map_norm_encodeChar, map_norm_encodeChar, same]
  · rintro ⟨same, h⟩
    refine (fits_append_append plain ?_).2 h
    rw [map_norm_encodeChar, map_norm_encodeChar, same]

/-- A rule that goes on with another character than a wildcard is not fitted by a candidate that has ended. -/
theorem not_fits_encodeChar_nil {p : Char} {rule : List UInt8} (hp : p ≠ '*') :
    ¬ Fits (String.utf8EncodeChar p ++ rule) [] := by
  intro h
  have begins := prefix_of_fits_append (wildcard_not_mem_encodeChar hp) h
  rw [List.map_nil, List.prefix_nil, List.map_eq_nil_iff] at begins
  exact String.utf8EncodeChar_ne_nil begins

/-! ## From a position on -/

/-- From a position inside both texts, the characters left are compared as their bytes are. -/
theorem matchesCharsFrom_iff {rule candidate : List Char} {i : Nat} (hr : i ≤ rule.length) (hc : i ≤ candidate.length) :
    matchesCharsFrom rule candidate i = true ↔
      Fits ((rule.drop i).flatMap String.utf8EncodeChar) ((candidate.drop i).flatMap String.utf8EncodeChar) := by
  fun_induction matchesCharsFrom rule candidate i with
  | case1 i inside star =>
    rw [List.drop_eq_getElem_cons inside, List.flatMap_cons, star]
    exact iff_of_true rfl (fits_wildcard _ _)
  | case2 i inside star ended =>
    have ended : candidate.drop i = [] := List.drop_eq_nil_iff.2 (List.getElem?_eq_none_iff.1 ended)
    rw [List.drop_eq_getElem_cons inside, List.flatMap_cons, ended]
    exact iff_of_false nofun (not_fits_encodeChar_nil star)
  | case3 i inside star c there agrees ih =>
    obtain ⟨more, rfl⟩ := List.getElem?_eq_some_iff.1 there
    rw [List.drop_eq_getElem_cons inside, List.drop_eq_getElem_cons more, List.flatMap_cons, List.flatMap_cons,
      fits_encodeChar_append_iff star, and_iff_right agrees]
    exact ih inside more
  | case4 i inside star c there differs =>
    obtain ⟨more, rfl⟩ := List.getElem?_eq_some_iff.1 there
    rw [List.drop_eq_getElem_cons inside, List.drop_eq_getElem_cons more, List.flatMap_cons, List.flatMap_cons,
      fits_encodeChar_append_iff star]
    exact iff_of_false nofun fun h => differs h.1
  | case5 i ended =>
    -- the rule has been read, and the candidate has been read as far
    have read : i = rule.length := by omega
    rw [read, List.drop_length, List.flatMap_nil, fits_nil, List.flatMap_eq_nil_iff, beq_iff_eq]
    constructor
    · intro same
      rw [← same, List.drop_length]
      intro c hc
      exact absurd hc List.not_mem_nil
    · intro none
      have nothing : candidate.drop rule.length = [] :=
        List.eq_nil_iff_forall_not_mem.2 fun c hc => String.utf8EncodeChar_ne_nil (none c hc)
      have := List.drop_eq_nil_iff.1 nothing
      omega

/-- **Walking over bytes is walking over characters**, whatever characters the rule and the candidate hold. -/
theorem matchesText_eq_matchesChars (rule candidate : String) :
    matchesText rule candidate = matchesChars rule candidate := by
  rw [Bool.eq_iff_iff, matchesText, accepts_walk_iff, matchesChars,
    matchesCharsFrom_iff (Nat.zero_le _) (Nat.zero_le _), List.drop_zero, List.drop_zero]
  rfl

end SymbolRules.Rule
