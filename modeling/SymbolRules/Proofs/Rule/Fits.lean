import Mathlib.Data.List.TakeWhile
import SymbolRules.Rule

/-!
# What a rule asks of a candidate

A rule uses the bytes before its first wildcard, its core, and reads `/` as `.` (`norm`). With a
wildcard the candidate must begin with the core, and without one it must be the core: `Fits`. Walking
along the candidate decides this (`accepts_walk_iff`), and the look at the lengths beforehand refuses
nothing that fits (`accepts_iff_fits`).
-/

namespace SymbolRules.Rule

/-- A byte with `/` read as `.`. -/
def norm (b : UInt8) : UInt8 :=
  if b = 0x2F then 0x2E else b

/-- The bytes before the first wildcard. -/
def core (rule : List UInt8) : List UInt8 :=
  rule.takeWhile (· != wildcard)

/-- A candidate fits a rule, both given as bytes. -/
def Fits (rule candidate : List UInt8) : Prop :=
  if wildcard ∈ rule then (core rule).map norm <+: candidate.map norm else candidate.map norm = rule.map norm

/-! ## Separators -/

theorem agree_iff {p c : UInt8} : agree p c = true ↔ norm c = norm p := by
  simp only [agree, norm, Bool.or_eq_true, Bool.and_eq_true, beq_iff_eq]
  grind

theorem norm_ne {b d : UInt8} (h : b ≠ d) (hd : d ≠ 0x2E) : norm b ≠ d := by
  unfold norm
  split
  · exact fun e => hd e.symm
  · exact h

/-! ## Cores -/

theorem core_of_not_mem {rule : List UInt8} (h : wildcard ∉ rule) : core rule = rule := by
  unfold core
  rw [List.takeWhile_eq_self_iff]
  intro b hb
  simp only [bne_iff_ne]
  rintro rfl
  exact h hb

theorem wildcard_not_mem_core (rule : List UInt8) : wildcard ∉ core rule := by
  intro h
  simpa using List.mem_takeWhile_imp h

theorem mem_of_mem_core {rule : List UInt8} {b : UInt8} (h : b ∈ core rule) : b ∈ rule :=
  (List.takeWhile_prefix _).subset h

/-- A rule with a wildcard is its core, the wildcard and a tail. -/
theorem exists_tail {rule : List UInt8} (h : wildcard ∈ rule) : ∃ tail, rule = core rule ++ wildcard :: tail := by
  induction rule with
  | nil => cases h
  | cons b rule ih =>
    by_cases hb : b = wildcard
    · exact ⟨rule, by simp [core, hb]⟩
    · obtain ⟨tail, ht⟩ := ih ((List.mem_cons.1 h).resolve_left fun e => hb e.symm)
      refine ⟨tail, ?_⟩
      rw [core, List.takeWhile_cons_of_pos (by simpa using hb), List.cons_append, ← core, ← ht]

/-! ## Walking -/

theorem fits_nil {candidate : List UInt8} : Fits [] candidate ↔ candidate = [] := by
  simp [Fits]

theorem fits_wildcard (rule candidate : List UInt8) : Fits (wildcard :: rule) candidate := by
  simp [Fits, core]

theorem not_fits_cons_nil {b : UInt8} {rule : List UInt8} (hb : b ≠ wildcard) : ¬ Fits (b :: rule) [] := by
  unfold Fits
  split <;> simp [core, hb]

theorem fits_cons_cons {b c : UInt8} {rule candidate : List UInt8} (hb : b ≠ wildcard) :
    Fits (b :: rule) (c :: candidate) ↔ norm c = norm b ∧ Fits rule candidate := by
  have mem : wildcard ∈ b :: rule ↔ wildcard ∈ rule := by simp [hb.symm]
  have cut : core (b :: rule) = b :: core rule := List.takeWhile_cons_of_pos (by simpa using hb)
  simp only [Fits, mem, cut, List.map_cons, List.cons_prefix_cons, List.cons.injEq]
  split
  · rw [eq_comm (a := norm b)]
  · exact Iff.rfl

/-- **Walking along a candidate tells whether it fits.** -/
theorem accepts_walk_iff {rule candidate : List UInt8} :
    (walk rule candidate).accepts = true ↔ Fits rule candidate := by
  induction rule generalizing candidate with
  | nil => simp [walk, Stop.accepts, fits_nil]
  | cons b rule ih =>
    by_cases hb : b = wildcard
    · subst hb
      simp [walk, Stop.accepts, fits_wildcard]
    · cases candidate with
      | nil => simp [walk, Stop.accepts, hb, not_fits_cons_nil hb]
      | cons c candidate =>
        rw [fits_cons_cons hb, ← ih, ← agree_iff, walk, if_neg (by simpa using hb)]
        cases agree b c <;> simp [Stop.accepts]

/-! ## Lengths -/

/-- The first wildcard stands where the core ends. -/
theorem findIdx?_wildcard (rule : List UInt8) :
    rule.findIdx? (· == wildcard) = if wildcard ∈ rule then some (core rule).length else none := by
  induction rule with
  | nil => rfl
  | cons b rule ih =>
    by_cases hb : b = wildcard
    · simp [List.findIdx?_cons, hb, core]
    · have cut : core (b :: rule) = b :: core rule := List.takeWhile_cons_of_pos (by simpa using hb)
      rw [List.findIdx?_cons, ih, cut]
      by_cases hm : wildcard ∈ rule <;> simp [hb, hm, Ne.symm hb]

/-- A candidate that fits is long enough, so the look at the lengths does not refuse it. -/
theorem admits_of_fits {r : Rule} {candidate : List UInt8} (h : Fits (Utf8.encode r.text) candidate) :
    r.admits candidate.length = true := by
  unfold Fits at h
  rw [admits, r.wildcardAt_eq, findIdx?_wildcard]
  split at h
  · rename_i hm
    have long := h.length_le
    simpa [hm] using long
  · rename_i hm
    have same := congrArg List.length h
    simpa [hm, size, ← Utf8.length_encode] using same

/-- **A rule accepts the candidates that fit it.** -/
theorem accepts_iff_fits {r : Rule} {candidate : String} :
    r.accepts candidate = true ↔ Fits (Utf8.encode r.text) (Utf8.encode candidate) := by
  rw [accepts, acceptsBytes, Bool.and_eq_true, accepts_walk_iff]
  constructor
  · intro h
    exact h.2
  · intro h
    exact ⟨admits_of_fits h, h⟩

/-! ## Offsets -/

/-- The first wildcard stands at an offset. -/
def FirstWildcard (rule : List UInt8) (k : Nat) : Prop :=
  rule[k]? = some wildcard ∧ wildcard ∉ rule.take k

theorem take_length_core (rule : List UInt8) : rule.take (core rule).length = core rule :=
  (List.prefix_iff_eq_take.1 (List.takeWhile_prefix _)).symm

theorem firstWildcard_core {rule : List UInt8} (h : wildcard ∈ rule) : FirstWildcard rule (core rule).length := by
  constructor
  · obtain ⟨tail, ht⟩ := exists_tail h
    have stands : (core rule ++ wildcard :: tail)[(core rule).length]? = some wildcard := by simp
    rwa [← ht] at stands
  · rw [take_length_core]
    exact wildcard_not_mem_core rule

theorem FirstWildcard.eq {rule : List UInt8} {k : Nat} (h : FirstWildcard rule k) : k = (core rule).length := by
  have hm := List.mem_of_getElem? h.1
  have hc := firstWildcard_core hm
  -- each of two first wildcards would stand before the other
  rcases Nat.lt_trichotomy k (core rule).length with hlt | heq | hgt
  · exact absurd (List.mem_of_getElem? ((List.getElem?_take_of_lt hlt).trans h.1)) hc.2
  · exact heq
  · exact absurd (List.mem_of_getElem? ((List.getElem?_take_of_lt hgt).trans hc.1)) h.2

/-- A rule keeps the place of the first wildcard in its text. -/
theorem wildcardAt_eq_some_iff {r : Rule} {k : Nat} :
    r.wildcardAt = some k ↔ FirstWildcard (Utf8.encode r.text) k := by
  rw [r.wildcardAt_eq, findIdx?_wildcard]
  constructor
  · intro h
    obtain ⟨hm, place⟩ := Option.ite_none_right_eq_some.1 h
    rw [← Option.some.inj place]
    exact firstWildcard_core hm
  · intro h
    rw [if_pos (List.mem_of_getElem? h.1), ← h.eq]

theorem wildcardAt_eq_none_iff {r : Rule} : r.wildcardAt = none ↔ wildcard ∉ Utf8.encode r.text := by
  rw [r.wildcardAt_eq, findIdx?_wildcard, ite_eq_right_iff]
  simp

/-- The look at the lengths: without a wildcard they must be equal, and with one the candidate must reach it. -/
theorem admits_iff {r : Rule} {n : Nat} :
    r.admits n = true ↔
      wildcard ∉ Utf8.encode r.text ∧ n = (Utf8.encode r.text).length ∨
      ∃ k, FirstWildcard (Utf8.encode r.text) k ∧ k ≤ n := by
  simp only [← wildcardAt_eq_none_iff, ← wildcardAt_eq_some_iff, admits]
  cases r.wildcardAt with
  | none => simp [size, ← Utf8.length_encode]
  | some k => simp

/-- Fitting, said with the offset of the first wildcard. -/
theorem fits_iff_offset {rule candidate : List UInt8} :
    Fits rule candidate ↔
      (∃ k, FirstWildcard rule k ∧ k ≤ candidate.length ∧ (candidate.take k).map norm = (rule.take k).map norm) ∨
      wildcard ∉ rule ∧ candidate.map norm = rule.map norm := by
  by_cases hm : wildcard ∈ rule
  · have prefix_iff : (core rule).map norm <+: candidate.map norm ↔
        (core rule).length ≤ candidate.length ∧
          (candidate.take (core rule).length).map norm = (core rule).map norm := by
      rw [List.map_take, List.prefix_iff_eq_take, List.length_map, eq_comm]
      constructor
      · intro h
        have sizes := congrArg List.length h
        simp only [List.length_take, List.length_map] at sizes
        exact ⟨by omega, h⟩
      · intro h
        exact h.2
    rw [Fits, if_pos hm, prefix_iff]
    constructor
    · rintro ⟨hle, heq⟩
      refine .inl ⟨_, firstWildcard_core hm, hle, ?_⟩
      rw [take_length_core]
      exact heq
    · rintro (⟨k, hk, hle, heq⟩ | ⟨hn, -⟩)
      · obtain rfl := hk.eq
        rw [take_length_core] at heq
        exact ⟨hle, heq⟩
      · exact absurd hm hn
  · rw [Fits, if_neg hm]
    constructor
    · exact fun h => .inr ⟨hm, h⟩
    · rintro (⟨k, hk, -⟩ | ⟨-, h⟩)
      · exact absurd (List.mem_of_getElem? hk.1) hm
      · exact h

/-- What stands from the first wildcard on plays no part. -/
theorem fits_congr_take {rule a b : List UInt8} {k : Nat} (hk : FirstWildcard rule k) (h : a.take k = b.take k) :
    Fits rule a ↔ Fits rule b := by
  have cut : ∀ c : List UInt8, Fits rule c ↔ (core rule).map norm = (c.take k).map norm := by
    intro c
    rw [Fits, if_pos (List.mem_of_getElem? hk.1), List.prefix_iff_eq_take, List.length_map, ← hk.eq, List.map_take]
  rw [cut, cut, h]

end SymbolRules.Rule
