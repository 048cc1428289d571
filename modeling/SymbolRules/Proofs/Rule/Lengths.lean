import SymbolRules.Proofs.Rule.Covering

/-!
# Lengths and kinds

Before it walks along a candidate a rule looks at the lengths. This refuses nothing that the walk accepts
(`accepts_eq_matchesText`), and of every length that it admits some candidate is accepted
(`admits_iff_exists_accepted`), so no look at lengths could refuse more. To refuse what is more than one byte
shorter than the rule would change answers, just for the rules with text after their first wildcard
(`exists_accepted_shorter_iff`).
-/

namespace SymbolRules.Rule

variable {r : Rule}

theorem size_eq (r : Rule) : r.size = (Utf8.encode r.text).length :=
  (Utf8.length_encode r.text).symm

/-! ## Kinds -/

theorem kind_of_wildcardAt {k : Nat} (h : r.wildcardAt = some k) :
    r.kind = if k + 1 = r.size then .leading else .truncated := by
  rw [kind, h]

/-- An exact rule has no wildcard. -/
theorem kind_eq_exact_iff : r.kind = .exact ↔ wildcard ∉ Utf8.encode r.text := by
  rw [← wildcardAt_eq_none_iff]
  cases h : r.wildcardAt with
  | none => simp [kind, h]
  | some k =>
    rw [kind_of_wildcardAt h]
    split <;> simp

/-- The first wildcard of a leading rule is its last byte. -/
theorem kind_eq_leading_iff :
    r.kind = .leading ↔ ∃ k, FirstWildcard (Utf8.encode r.text) k ∧ k + 1 = (Utf8.encode r.text).length := by
  simp only [← wildcardAt_eq_some_iff, ← size_eq]
  cases h : r.wildcardAt with
  | none => simp [kind, h]
  | some k =>
    rw [kind_of_wildcardAt h]
    split <;> simp_all

/-- More bytes follow the first wildcard of a truncated rule. -/
theorem kind_eq_truncated_iff :
    r.kind = .truncated ↔ ∃ k, FirstWildcard (Utf8.encode r.text) k ∧ k + 1 < (Utf8.encode r.text).length := by
  have inside : ∀ {k}, FirstWildcard (Utf8.encode r.text) k → k < (Utf8.encode r.text).length := by
    intro k hk
    exact (List.getElem?_eq_some_iff.1 hk.1).1
  constructor
  · intro h
    cases place : r.wildcardAt with
    | none => simp [kind, place] at h
    | some k =>
      have first := wildcardAt_eq_some_iff.1 place
      have last : k + 1 ≠ r.size := by
        intro e
        rw [kind_of_wildcardAt place, if_pos e] at h
        cases h
      have := inside first
      rw [size_eq] at last
      exact ⟨k, first, by omega⟩
  · rintro ⟨k, first, more⟩
    rw [kind_of_wildcardAt (wildcardAt_eq_some_iff.2 first), if_neg]
    rw [size_eq]
    omega

theorem FirstWildcard.idxOf_eq {rule : List UInt8} {k : Nat} (h : FirstWildcard rule k) : rule.idxOf wildcard = k := by
  have found := findIdx?_wildcard rule
  rw [if_pos (List.mem_of_getElem? h.1), ← h.eq, List.findIdx?_eq_some_iff_findIdx_eq] at found
  exact found.2

/-- The word for how much of its text a rule uses: no `*` stands in it, the first one is its last byte, or more
follows. -/
def kindWord (text : String) : String :=
  if wildcard ∉ Utf8.encode text then "exact"
  else if (Utf8.encode text).idxOf wildcard + 1 = (Utf8.encode text).length then "prefix"
  else "prefix(truncated)"

theorem name_kind (r : Rule) : r.kind.name = kindWord r.text := by
  cases kind : r.kind with
  | exact => rw [kindWord, if_pos (kind_eq_exact_iff.1 kind), Kind.name]
  | leading =>
    obtain ⟨k, first, last⟩ := kind_eq_leading_iff.1 kind
    rw [kindWord, if_neg (not_not_intro (List.mem_of_getElem? first.1)), first.idxOf_eq, if_pos last, Kind.name]
  | truncated =>
    obtain ⟨k, first, more⟩ := kind_eq_truncated_iff.1 kind
    rw [kindWord, if_neg (not_not_intro (List.mem_of_getElem? first.1)), first.idxOf_eq, if_neg (by omega), Kind.name]

/-! ## The look at the lengths -/

/-- A rule answers as the walk along its text does. -/
theorem accepts_eq (r : Rule) (candidate : String) : r.accepts candidate = matchesText r.text candidate := by
  rw [Bool.eq_iff_iff, accepts_iff_fits, matchesText, accepts_walk_iff]

/-- **The look at the lengths changes no answer.** A nonempty segment is made into a rule, and whatever the
lengths of the segment and of a candidate are, the rule accepts the candidate when the walk alone does. -/
theorem accepts_eq_matchesText (segment : String) (h : segment ≠ "") :
    ∃ r, ofSegment segment = .ok r ∧ r.text = segment ∧
      ∀ candidate, r.accepts candidate = matchesText segment candidate :=
  ⟨ofText segment h, dif_neg h, rfl, accepts_eq (ofText segment h)⟩

/-- With text after the wildcard, a candidate that just reaches the wildcard is accepted although it is more
than one byte shorter than the rule, and one byte less is refused. -/
theorem accepts_eq_matchesText_short :
    "a*bc" ≠ "" ∧ ∃ r, ofSegment "a*bc" = .ok r ∧ "a".utf8ByteSize + 1 < r.text.utf8ByteSize ∧
      r.accepts "a" = true ∧ r.accepts "" = false := by
  obtain ⟨r, made, text, same⟩ := accepts_eq_matchesText "a*bc" (by decide)
  refine ⟨by decide, r, made, ?_, ?_, ?_⟩
  · rw [text]
    decide
  · rw [same]
    decide
  · rw [same]
    decide

/-- A candidate that reaches the wildcard and has the given bytes more. -/
theorem exists_longer {k : Nat} (first : FirstWildcard (Utf8.encode r.text) k) (more : Nat) :
    ∃ candidate : String, candidate.utf8ByteSize = k + more ∧ r.accepts candidate = true := by
  refine ⟨String.ofList (r.text.toList.takeWhile (· != '*') ++ List.replicate more '\x00'), ?_, ?_⟩
  · rw [← Utf8.length_encode, Utf8.encode_ofList, List.flatMap_append, ← core_encode, List.length_append, ← first.eq]
    have one : '\x00'.utf8Size = 1 := rfl
    simp [one]
  · rw [accepts_iff_fits, Fits, if_pos (List.mem_of_getElem? first.1), Utf8.encode_ofList, List.flatMap_append,
      ← core_encode, List.map_append]
    exact List.prefix_append _ _

/-- **The look at the lengths is sharp**: the lengths that are admitted are those of accepted candidates. -/
theorem admits_iff_exists_accepted {n : Nat} :
    r.admits n = true ↔ ∃ candidate : String, candidate.utf8ByteSize = n ∧ r.accepts candidate = true := by
  constructor
  · intro h
    rcases admits_iff.1 h with ⟨exact, rfl⟩ | ⟨k, first, long⟩
    · exact ⟨r.text, size_eq r, by rw [accepts_iff_fits, Fits, if_neg exact]⟩
    · obtain ⟨candidate, size, accepted⟩ := exists_longer first (n - k)
      exact ⟨candidate, by omega, accepted⟩
  · rintro ⟨candidate, rfl, accepted⟩
    rw [← Utf8.length_encode]
    exact admits_of_fits (accepts_iff_fits.1 accepted)

/-- Candidates more than one byte shorter than its text are accepted by a rule when text follows the first
wildcard, and by no other rule. -/
theorem exists_accepted_shorter_iff :
    (∃ candidate : String, r.accepts candidate = true ∧ candidate.utf8ByteSize + 1 < r.size) ↔
      r.kind = .truncated := by
  rw [kind_eq_truncated_iff, size_eq]
  constructor
  · rintro ⟨candidate, accepted, short⟩
    have admitted : r.admits candidate.utf8ByteSize = true := admits_iff_exists_accepted.2 ⟨candidate, rfl, accepted⟩
    rcases admits_iff.1 admitted with ⟨-, same⟩ | ⟨k, first, long⟩
    · omega
    · exact ⟨k, first, by omega⟩
  · rintro ⟨k, first, more⟩
    obtain ⟨candidate, size, accepted⟩ := exists_longer first 0
    exact ⟨candidate, accepted, by omega⟩

end SymbolRules.Rule
