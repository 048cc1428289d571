import SymbolRules.Proofs.Rule.Fits

/-!
# The positions of a walk

`Reaches` says that a walk along a candidate comes to a position, `Reads` that it reads the candidate there, and
`StopsAt` how it may stop at a position (`exists_stopsAt`). So a walk runs out of the candidate just when it reads
where there is no byte (`walk_eq_exhausted_iff`), and comes to the end of the rule just when it reaches its length
(`walk_eq_complete_iff`). Once the lengths have been looked at neither goes wrong: a position that is read lies before
the first wildcard if there is one, and the end of the rule is reached only if there is none.
-/

namespace SymbolRules.Rule

variable {rule candidate : List UInt8} {i j k : Nat} {p c : UInt8} {r : Rule} {left : Nat}

/-- A walk comes to a position. Before it stand bytes of the rule, none of them a wildcard, and bytes of the
candidate that agree with them. -/
inductive Reaches (rule candidate : List UInt8) : Nat → Prop where
  | start : Reaches rule candidate 0
  | pass {i : Nat} {p c : UInt8} (before : Reaches rule candidate i) (stands : rule[i]? = some p)
    (plain : p ≠ wildcard) (there : candidate[i]? = some c) (agrees : agree p c = true) : Reaches rule candidate (i + 1)

/-- A walk reads the candidate at a position: it comes there, and the rule goes on with another byte than a wildcard. -/
structure Reads (rule candidate : List UInt8) (i : Nat) : Prop where
  reached : Reaches rule candidate i
  plain : ∃ p, rule[i]? = some p ∧ p ≠ wildcard

/-- How a walk that comes to a position may stop there. -/
inductive StopsAt (rule candidate : List UInt8) (i : Nat) : Stop → Prop where
  | wildcard (stands : rule[i]? = some wildcard) : StopsAt rule candidate i .wildcard
  | exhausted {p : UInt8} (stands : rule[i]? = some p) (plain : p ≠ Rule.wildcard) (ended : candidate[i]? = none) :
    StopsAt rule candidate i .exhausted
  | mismatch {p c : UInt8} (stands : rule[i]? = some p) (plain : p ≠ Rule.wildcard) (there : candidate[i]? = some c)
    (differs : agree p c = false) : StopsAt rule candidate i .mismatch
  | complete {left : Nat} (ended : i = rule.length) (rest : candidate.length = i + left) :
    StopsAt rule candidate i (.complete left)

/-! ## One position -/

theorem walk_cons_cons (plain : p ≠ wildcard) (agrees : agree p c = true) :
    walk (p :: rule) (c :: candidate) = walk rule candidate := by
  rw [walk, if_neg (by simpa using plain), if_pos agrees]

theorem Reaches.cons (h : Reaches rule candidate i) (plain : p ≠ wildcard) (agrees : agree p c = true) :
    Reaches (p :: rule) (c :: candidate) (i + 1) := by
  induction h with
  | start => exact .pass .start rfl plain rfl agrees
  | pass _ stands plain' there agrees' ih => exact .pass ih stands plain' there agrees'

theorem StopsAt.cons {s : Stop} (h : StopsAt rule candidate i s) : StopsAt (p :: rule) (c :: candidate) (i + 1) s := by
  cases h with
  | wildcard stands => exact .wildcard stands
  | exhausted stands plain ended => exact .exhausted stands plain ended
  | mismatch stands plain there differs => exact .mismatch stands plain there differs
  | complete ended rest =>
    refine .complete (congrArg Nat.succ ended) ?_
    rw [List.length_cons, rest, Nat.succ_add]

/-- A walk stops at some position that it comes to. -/
theorem exists_stopsAt (rule candidate : List UInt8) :
    ∃ i, Reaches rule candidate i ∧ StopsAt rule candidate i (walk rule candidate) := by
  fun_induction walk rule candidate with
  | case1 candidate => exact ⟨0, .start, .complete rfl (Nat.zero_add _).symm⟩
  | case2 candidate p rule star => exact ⟨0, .start, .wildcard (by simpa using star)⟩
  | case3 p rule plain => exact ⟨0, .start, .exhausted rfl (by simpa using plain) rfl⟩
  | case4 p rule plain c candidate agrees ih =>
    obtain ⟨i, reached, stopped⟩ := ih
    exact ⟨i + 1, reached.cons (by simpa using plain) agrees, stopped.cons⟩
  | case5 p rule plain c candidate differs =>
    exact ⟨0, .start, .mismatch rfl (by simpa using plain) rfl (by simpa using differs)⟩

/-- From a position that it reaches a walk goes on as one that begins there. -/
theorem Reaches.walk_eq (h : Reaches rule candidate i) : walk rule candidate = walk (rule.drop i) (candidate.drop i) := by
  induction h with
  | start => rfl
  | pass before stands plain there agrees ih =>
    obtain ⟨inside, rfl⟩ := List.getElem?_eq_some_iff.1 stands
    obtain ⟨more, rfl⟩ := List.getElem?_eq_some_iff.1 there
    rw [ih, List.drop_eq_getElem_cons inside, List.drop_eq_getElem_cons more, walk_cons_cons plain agrees]

/-- No wildcard stands before a position that a walk reaches. -/
theorem Reaches.plain_before (h : Reaches rule candidate i) (hj : j < i) : ∃ p, rule[j]? = some p ∧ p ≠ wildcard := by
  induction h with
  | start => exact absurd hj (Nat.not_lt_zero j)
  | pass before stands plain there agrees ih =>
    rcases Nat.lt_succ_iff_lt_or_eq.1 hj with earlier | rfl
    · exact ih earlier
    · exact ⟨_, stands, plain⟩

/-! ## How a walk ends -/

/-- A walk runs out of the candidate just when it reads where there is no byte. -/
theorem walk_eq_exhausted_iff :
    walk rule candidate = .exhausted ↔ ∃ i, Reads rule candidate i ∧ candidate[i]? = none := by
  constructor
  · intro h
    obtain ⟨i, reached, stopped⟩ := exists_stopsAt rule candidate
    rw [h] at stopped
    cases stopped with
    | exhausted stands plain ended => exact ⟨i, ⟨reached, _, stands, plain⟩, ended⟩
  · rintro ⟨i, ⟨reached, p, stands, plain⟩, ended⟩
    obtain ⟨inside, rfl⟩ := List.getElem?_eq_some_iff.1 stands
    rw [reached.walk_eq, List.drop_eq_getElem_cons inside, List.drop_eq_nil_iff.2 (List.getElem?_eq_none_iff.1 ended), walk,
      if_neg (by simpa using plain)]

/-- A walk comes to the end of the rule just when it reaches the length of the rule. -/
theorem walk_eq_complete_iff :
    walk rule candidate = .complete left ↔
      Reaches rule candidate rule.length ∧ candidate.length = rule.length + left := by
  constructor
  · intro h
    obtain ⟨i, reached, stopped⟩ := exists_stopsAt rule candidate
    rw [h] at stopped
    cases stopped with
    | complete ended rest =>
      subst ended
      exact ⟨reached, rest⟩
  · rintro ⟨reached, rest⟩
    rw [reached.walk_eq, List.drop_length, walk, List.length_drop, rest, Nat.add_sub_cancel_left]

/-! ## After the look at the lengths -/

theorem text_of_ofSegment {segment : String} (made : ofSegment segment = .ok r) : r.text = segment := by
  rw [ofSegment] at made
  split at made
  · cases made
  · cases made
    rfl

/-- A position that is read lies before the first wildcard. -/
theorem Reads.lt_firstWildcard (h : Reads rule candidate i) (first : FirstWildcard rule k) : i < k := by
  by_contra beyond
  -- the wildcard at `k` would have been passed, or would be the byte that is read now
  have plain : ∃ p, rule[k]? = some p ∧ p ≠ wildcard := by
    rcases Nat.lt_or_eq_of_le (Nat.le_of_not_lt beyond) with before | rfl
    · exact h.reached.plain_before before
    · exact h.plain
  obtain ⟨p, stands, plain⟩ := plain
  rw [first.1] at stands
  exact plain (Option.some.inj stands).symm

/-- A walk comes to the end of a rule only if it has no wildcard. -/
theorem Reaches.not_firstWildcard (h : Reaches rule candidate rule.length) : ¬ FirstWildcard rule k := by
  intro first
  obtain ⟨p, stands, plain⟩ := h.plain_before (List.getElem?_eq_some_iff.1 first.1).1
  rw [first.1] at stands
  exact plain (Option.some.inj stands).symm

/-- A walk reads no further than an admitted candidate goes. -/
theorem Reads.lt_length (h : Reads (Utf8.encode r.text) candidate i) (admitted : r.admits candidate.length = true) :
    i < candidate.length := by
  rcases admits_iff.1 admitted with ⟨-, same⟩ | ⟨k, first, long⟩
  · obtain ⟨p, stands, -⟩ := h.plain
    rw [same]
    exact (List.getElem?_eq_some_iff.1 stands).1
  · exact Nat.lt_of_lt_of_le (h.lt_firstWildcard first) long

/-- A walk that comes to the end of a rule has come to the end of an admitted candidate. -/
theorem Reaches.length_eq (h : Reaches (Utf8.encode r.text) candidate (Utf8.encode r.text).length)
    (admitted : r.admits candidate.length = true) : candidate.length = (Utf8.encode r.text).length := by
  rcases admits_iff.1 admitted with ⟨-, same⟩ | ⟨k, first, -⟩
  · exact same
  · exact absurd first h.not_firstWildcard

theorem walk_ne_exhausted (admitted : r.admits candidate.length = true) :
    walk (Utf8.encode r.text) candidate ≠ .exhausted := by
  intro h
  obtain ⟨i, reads, ended⟩ := walk_eq_exhausted_iff.1 h
  have inside := reads.lt_length admitted
  have := List.getElem?_eq_none_iff.1 ended
  omega

/-- **The look at the lengths makes the walk safe.** Along a candidate that it admits, the walk finds a byte wherever it
reads and does not run out of the candidate, and where it comes to the end of the rule the lengths are equal and the
candidate is accepted. No candidate that the walk accepts is refused for its length. -/
theorem admitted_walk_stays_inside {segment : String} {r : Rule} (made : ofSegment segment = .ok r) (candidate : String) :
    (r.admits (Utf8.encode candidate).length = true →
      (∀ i, Reads (Utf8.encode segment) (Utf8.encode candidate) i → ∃ c, (Utf8.encode candidate)[i]? = some c) ∧
      walk (Utf8.encode segment) (Utf8.encode candidate) ≠ .exhausted ∧
      (Reaches (Utf8.encode segment) (Utf8.encode candidate) (Utf8.encode segment).length →
        (Utf8.encode candidate).length = (Utf8.encode segment).length) ∧
      ∀ left, walk (Utf8.encode segment) (Utf8.encode candidate) = .complete left →
        (Stop.complete left).accepts = true) ∧
    ((walk (Utf8.encode segment) (Utf8.encode candidate)).accepts = true →
      r.admits (Utf8.encode candidate).length = true) := by
  obtain rfl := text_of_ofSegment made
  refine ⟨fun admitted => ⟨?_, walk_ne_exhausted admitted, fun ended => ended.length_eq admitted, ?_⟩, ?_⟩
  · intro i reads
    exact ⟨_, List.getElem?_eq_getElem (reads.lt_length admitted)⟩
  · intro left h
    obtain ⟨ended, rest⟩ := walk_eq_complete_iff.1 h
    have same := ended.length_eq admitted
    have none : left = 0 := by omega
    rw [none]
    rfl
  · intro accepted
    exact admits_of_fits (accepts_walk_iff.1 accepted)

/-- A candidate that just reaches the wildcard after a character of two bytes, with more of the rule to come. -/
theorem admitted_walk_stays_inside_short :
    ∃ r, ofSegment "é*bc" = .ok r ∧ r.admits (Utf8.encode "é").length = true ∧
      (∃ c, (Utf8.encode "é")[1]? = some c) ∧ walk (Utf8.encode "é*bc") (Utf8.encode "é") ≠ .exhausted := by
  have made : ofSegment "é*bc" = .ok (ofText "é*bc" (by decide)) := rfl
  have admitted : (ofText "é*bc" (by decide)).admits (Utf8.encode "é").length = true := by decide
  have reads : Reads (Utf8.encode "é*bc") (Utf8.encode "é") 1 :=
    ⟨.pass .start rfl (by decide) rfl (by decide), _, rfl, by decide⟩
  obtain ⟨safe, -⟩ := admitted_walk_stays_inside made "é"
  obtain ⟨inside, lasts, -⟩ := safe admitted
  exact ⟨_, made, admitted, inside 1 reads, lasts⟩

end SymbolRules.Rule
