import SymbolRules.Proofs.Rule.Fits
import SymbolRules.Proofs.Segment

/-!
# Rules that cover each other

A rule covers another when everything that fits the other fits it (`Covers.fits`). Among rules without
delimiters one candidate settles it: a rule with a wildcard selects its core followed by a delimiter,
and what else fits this candidate must cover the rule (`covers_of_fits_sample`).
-/

namespace SymbolRules.Rule

open Pieces

theorem spells_wildcard : Utf8.Spells (· == wildcard) (· == '*') :=
  .of_char (by decide) rfl

theorem wildcard_not_mem_encodeChar {c : Char} (h : c ≠ '*') : wildcard ∉ String.utf8EncodeChar c := by
  intro mem
  have absent := spells_wildcard.absent c (beq_false_of_ne h) _ mem
  simp at absent

/-- The byte of a wildcard stands for a wildcard alone. -/
theorem wildcard_mem_encode_iff {text : String} : wildcard ∈ Utf8.encode text ↔ '*' ∈ text.toList := by
  rw [Utf8.encode, List.mem_flatMap]
  constructor
  · rintro ⟨c, hc, mem⟩
    by_contra absent
    exact wildcard_not_mem_encodeChar (ne_of_mem_of_not_mem hc absent) mem
  · intro h
    exact ⟨'*', h, List.mem_singleton_self wildcard⟩

theorem isSome_wildcardAt (r : Rule) : r.wildcardAt.isSome = decide ('*' ∈ r.text.toList) := by
  rw [Bool.eq_iff_iff, decide_eq_true_iff, ← wildcard_mem_encode_iff, Option.isSome_iff_ne_none, ne_eq,
    wildcardAt_eq_none_iff, not_not]

/-- The core of a text is the text before its first `*`. -/
theorem core_encode (text : String) :
    core (Utf8.encode text) = (text.toList.takeWhile (· != '*')).flatMap String.utf8EncodeChar :=
  spells_wildcard.takeWhile_flatMap text.toList

/-- `p` covers `q`: the core of `p`, which has a wildcard, begins the core of `q`, or neither has a
wildcard and they agree. -/
def Covers (p q : Rule) : Prop :=
  (wildcard ∈ Utf8.encode p.text ∧
    (core (Utf8.encode p.text)).map norm <+: (core (Utf8.encode q.text)).map norm) ∨
  (wildcard ∉ Utf8.encode p.text ∧ wildcard ∉ Utf8.encode q.text ∧
    (Utf8.encode p.text).map norm = (Utf8.encode q.text).map norm)

theorem Covers.refl (r : Rule) : r.Covers r := by
  by_cases h : wildcard ∈ Utf8.encode r.text
  · exact .inl ⟨h, List.prefix_refl _⟩
  · exact .inr ⟨h, h, rfl⟩

/-- What fits a rule begins with its core. -/
theorem core_prefix_of_fits {rule candidate : List UInt8} (h : Fits rule candidate) :
    (core rule).map norm <+: candidate.map norm := by
  unfold Fits at h
  split at h
  · exact h
  · rename_i hm
    have same : (core rule).map norm = candidate.map norm := by rw [core_of_not_mem hm, h]
    exact same ▸ List.prefix_refl _

/-- What fits a covered rule fits the covering one. -/
theorem Covers.fits {p q : Rule} (h : p.Covers q) {candidate : List UInt8}
    (hq : Fits (Utf8.encode q.text) candidate) : Fits (Utf8.encode p.text) candidate := by
  rcases h with ⟨hp, hpre⟩ | ⟨hp, hq', heq⟩
  · rw [Fits, if_pos hp]
    exact hpre.trans (core_prefix_of_fits hq)
  · rw [Fits, if_neg hq'] at hq
    rw [Fits, if_neg hp, hq, heq]

/-! ## A candidate that tells rules apart -/

/-- A candidate that fits a rule, and no rule without delimiters but those that cover it. -/
def sample (r : Rule) : String :=
  if r.wildcardAt.isSome then String.ofList (r.text.toList.takeWhile (· != '*') ++ [',']) else r.text

theorem encode_sample (r : Rule) :
    Utf8.encode r.sample =
      if wildcard ∈ Utf8.encode r.text then core (Utf8.encode r.text) ++ [0x2C] else Utf8.encode r.text := by
  rw [sample, r.wildcardAt_eq, findIdx?_wildcard]
  by_cases h : wildcard ∈ Utf8.encode r.text
  · rw [if_pos h, if_pos h, Option.isSome_some, if_pos rfl, Utf8.encode_ofList, List.flatMap_append, core_encode]
    rfl
  · rw [if_neg h, if_neg h]
    rfl

theorem fits_sample (r : Rule) : Fits (Utf8.encode r.text) (Utf8.encode r.sample) := by
  rw [encode_sample, Fits]
  split
  · rw [List.map_append]
    exact List.prefix_append _ _
  · rfl

/-- Reading `/` as `.` makes no delimiter. -/
theorem comma_not_mem_map_norm {bytes : List UInt8} (free : Free isDelimiterByte bytes) : 0x2C ∉ bytes.map norm := by
  intro h
  obtain ⟨b, hb, he⟩ := List.mem_map.1 h
  refine norm_ne ?_ (by decide) he
  rintro rfl
  exact absurd (free _ hb) (by decide)

theorem covers_of_fits_sample {p q : Rule} (free : Free isDelimiterByte (Utf8.encode p.text))
    (h : Fits (Utf8.encode p.text) (Utf8.encode q.sample)) : p.Covers q := by
  have hcomma := comma_not_mem_map_norm free
  rw [encode_sample] at h
  by_cases hp : wildcard ∈ Utf8.encode p.text
  · rw [Fits, if_pos hp] at h
    refine .inl ⟨hp, ?_⟩
    split at h
    · -- the core of `p` cannot reach the delimiter after the core of `q`
      rw [List.map_append, List.map_singleton] at h
      rcases List.prefix_concat_iff.1 h with heq | hpre
      · refine absurd ?_ (comma_not_mem_map_norm fun b hb => free b (mem_of_mem_core hb))
        rw [heq]
        simp [norm]
      · exact hpre
    · rename_i hq
      rwa [core_of_not_mem hq]
  · rw [Fits, if_neg hp] at h
    split at h
    · refine absurd ?_ hcomma
      rw [← h]
      simp [norm]
    · rename_i hq
      exact .inr ⟨hp, hq, h.symm⟩

/-- A rule begins with a wildcard when it has one and nothing stands before it. -/
theorem head?_eq_wildcard_iff (r : Rule) :
    r.text.toList.head? = some '*' ↔ wildcard ∈ Utf8.encode r.text ∧ core (Utf8.encode r.text) = [] := by
  rw [core_encode]
  cases h : r.text.toList with
  | nil => simp [Utf8.encode, h]
  | cons c cs =>
    by_cases hc : c = '*'
    · subst hc
      simp only [Utf8.encode, h, List.flatMap_cons, List.mem_append]
      exact ⟨fun _ => ⟨.inl (by decide), by simp⟩, fun _ => rfl⟩
    · simp [hc]

end SymbolRules.Rule
