import Mathlib.Data.List.Induction
import SymbolRules.Proofs.RuleSet.Compiled

/-!
# Compiling in one pass

A rule text can be compiled in one pass over its segments that counts as it goes and appends each rule to a
store with room for as many rules as there are segments. `Tallies` is what every step of the pass keeps: the
counters add up and the rules are the nonempty segments taken so far. So no segment breaks the promise made to
the maker of rules (`exists_run`), the store is never too small, and the pass ends with the compiled rule set
(`Tallies.rules_eq`, `Tallies.stats_eq`).
-/

namespace SymbolRules.RuleSet

/-- A pass under way: what it has counted, and the rules it has made. -/
structure Pass where
  segments : Nat
  dropped : Nat
  withWildcard : Nat
  rules : List Rule

namespace Pass

/-- Before the first segment. -/
def start : Pass := ⟨0, 0, 0, []⟩

/-- An empty segment is counted twice and leaves no rule. -/
def drop (p : Pass) : Pass :=
  { p with segments := p.segments + 1, dropped := p.dropped + 1 }

/-- A rule is appended, and counted once more if it has a wildcard. -/
def keep (p : Pass) (r : Rule) : Pass :=
  { p with
    segments := p.segments + 1
    withWildcard := if r.wildcardAt.isSome then p.withWildcard + 1 else p.withWildcard
    rules := p.rules ++ [r] }

/-- Takes the next segment. A segment that is not empty is promised to make a rule. -/
def take (p : Pass) (segment : String) : Except Violation Pass :=
  if segment.isEmpty then .ok p.drop else (Rule.ofSegment segment).map p.keep

/-- Takes segments one after another. -/
def run (taken : List String) : Except Violation Pass :=
  taken.foldlM take start

/-- The counts at the end of a pass. -/
def stats (p : Pass) : Stats :=
  ⟨p.segments, p.rules.length, p.dropped, p.withWildcard⟩

/-- The state of a pass agrees with the segments that it has taken. -/
structure Tallies (p : Pass) (taken : List String) : Prop where
  segments : p.segments = taken.length
  parts : p.rules.length + p.dropped = p.segments
  withWildcard : p.withWildcard = p.rules.countP ('*' ∈ ·.text.toList)
  texts : p.rules.map (·.text) = taken.filter (· ≠ "")

variable {p : Pass} {taken : List String} {text : String}

/-! ## One segment -/

theorem tallies_start : Tallies start [] := by
  constructor <;> simp [start]

theorem Tallies.drop (h : Tallies p taken) : Tallies p.drop (taken ++ [""]) where
  segments := by simp [Pass.drop, h.segments]
  parts := by
    have := h.parts
    simp only [Pass.drop]
    omega
  withWildcard := h.withWildcard
  texts := by simp [Pass.drop, h.texts]

theorem Tallies.keep (h : Tallies p taken) (r : Rule) : Tallies (p.keep r) (taken ++ [r.text]) where
  segments := by simp [Pass.keep, h.segments]
  parts := by
    have := h.parts
    simp only [Pass.keep, List.length_append, List.length_singleton]
    omega
  withWildcard := by
    have before := h.withWildcard
    simp only [Pass.keep, Rule.isSome_wildcardAt, List.countP_append, List.countP_singleton, before]
    split <;> rfl
  texts := by simp [Pass.keep, h.texts, r.text_ne_empty]

/-- Taking a segment breaks no promise and keeps the counters in agreement. -/
theorem Tallies.take (h : Tallies p taken) (segment : String) :
    ∃ q, p.take segment = .ok q ∧ Tallies q (taken ++ [segment]) := by
  by_cases empty : segment = ""
  · subst empty
    exact ⟨p.drop, rfl, h.drop⟩
  · have made : Rule.ofSegment segment = .ok (Rule.ofText segment empty) := dif_neg empty
    refine ⟨p.keep (Rule.ofText segment empty), ?_, h.keep (Rule.ofText segment empty)⟩
    rw [Pass.take, if_neg (by simpa using empty), made]
    rfl

/-! ## All segments -/

/-- A pass breaks no promise, whatever the segments are. -/
theorem exists_run (taken : List String) : ∃ p, run taken = .ok p ∧ Tallies p taken := by
  -- the invariant speaks of the segments taken, so the last of them is set apart
  induction taken using List.reverseRecOn with
  | nil => exact ⟨start, rfl, tallies_start⟩
  | append_singleton taken segment ih =>
    obtain ⟨p, ran, h⟩ := ih
    obtain ⟨q, took, next⟩ := h.take segment
    refine ⟨q, ?_, next⟩
    rw [run] at ran
    rw [run, List.foldlM_append, ran]
    show [segment].foldlM Pass.take p = .ok q
    rw [List.foldlM_cons, took]
    rfl

/-- There are no more rules than segments taken. -/
theorem Tallies.length_rules_le (h : Tallies p taken) : p.rules.length ≤ taken.length := by
  have := h.segments
  have := h.parts
  omega

/-- A pass over the segments of a text makes its rules. -/
theorem Tallies.rules_eq (h : Tallies p (SymbolRules.segments text)) : p.rules = rulesOf text := by
  apply map_text_injective
  rw [map_text_rulesOf]
  exact h.texts

theorem Tallies.stats_eq (h : Tallies p (SymbolRules.segments text)) : p.stats = statsOf text := by
  have kept : (SymbolRules.segments text).countP (· ≠ "") = p.rules.length := by
    rw [List.countP_eq_length_filter, ← h.texts, List.length_map]
  have dropped : p.dropped = (SymbolRules.segments text).countP (· = "") := by
    have all := List.length_eq_countP_add_countP (· = "") (l := SymbolRules.segments text)
    have := h.segments
    have := h.parts
    simp only [decide_eq_true_eq, ← ne_eq] at all
    omega
  rw [statsOf_eq, ← h.rules_eq, ← h.withWildcard, ← h.segments, ← dropped]
  rfl

end Pass

/-! ## What a compiled set has counted -/

/-- **Compiling keeps every nonempty segment and counts all of them.** The rules are the nonempty segments as they
stand, in order; none holds a delimiter, and each knows the byte of its first `*`. There is a segment more than
there are delimiters, each segment is kept or dropped, and the counts of rules and of those with a wildcard are
true. The same comes out of one pass over the segments, which makes a rule of no empty segment and at no time has
more rules than there is room for. -/
theorem build_tallies (text : String) (settings : Settings) :
    (build text settings).value.rules.map (·.text) = (segments text).filter (· ≠ "") ∧
    (∀ r ∈ (build text settings).value.rules, r.text ≠ "" ∧ ',' ∉ r.text.toList ∧ ';' ∉ r.text.toList ∧
      (∀ k, r.wildcardAt = some k ↔ Rule.FirstWildcard (Utf8.encode r.text) k) ∧
      (r.wildcardAt = none ↔ '*' ∉ r.text.toList)) ∧
    (build text settings).value.stats.segments = text.toList.count ',' + text.toList.count ';' + 1 ∧
    (build text settings).value.stats.segments =
      (build text settings).value.stats.kept + (build text settings).value.stats.dropped ∧
    (build text settings).value.stats.kept = (build text settings).value.rules.length ∧
    (build text settings).value.stats.withWildcard =
      (build text settings).value.rules.countP ('*' ∈ ·.text.toList) ∧
    segmentCount text = (build text settings).value.stats.segments ∧
    (∃ p, Pass.run (segments text) = .ok p ∧ p.rules = (build text settings).value.rules ∧
      p.stats = (build text settings).value.stats) ∧
    ∀ taken rest, segments text = taken ++ rest →
      ∃ p, Pass.run taken = .ok p ∧ p.rules.length ≤ segmentCount text := by
  obtain ⟨p, ran, tallies⟩ := Pass.exists_run (segments text)
  have stats : p.stats = (build text settings).value.stats := tallies.stats_eq
  have rules : p.rules = (build text settings).value.rules := tallies.rules_eq
  have counted : segmentCount text = p.segments := by
    rw [← length_segments, tallies.segments]
  rw [← stats, ← rules]
  refine ⟨tallies.texts, ?_, ?_, tallies.parts.symm, rfl, tallies.withWildcard, counted, ⟨p, ran, rfl, rfl⟩, ?_⟩
  · intro r hr
    have free := free_of_mem_rulesOf (tallies.rules_eq ▸ hr)
    refine ⟨r.text_ne_empty, ?_, ?_, fun k => Rule.wildcardAt_eq_some_iff, ?_⟩
    · intro comma
      exact absurd (free ',' comma) (by decide)
    · intro semicolon
      exact absurd (free ';' semicolon) (by decide)
    · rw [Rule.wildcardAt_eq_none_iff, Rule.wildcard_mem_encode_iff]
  · show p.segments = _
    rw [← counted, segmentCount_eq]
  · intro taken rest split
    obtain ⟨q, ran, tallies⟩ := Pass.exists_run taken
    have fits := tallies.length_rules_le
    have total := congrArg List.length split
    rw [length_segments, List.length_append] at total
    exact ⟨q, ran, by omega⟩

/-- Empty segments at both ends and in the middle, and a wildcard after a character of two bytes. -/
theorem build_tallies_edges :
    segments ";é*,,a;" = ["", "é*", ""] ++ ["a", ""] ∧
    (∃ p, Pass.run ["", "é*", ""] = .ok p ∧ p.rules.length ≤ 5) ∧
    (build ";é*,,a;" {}).value.stats.segments = 5 ∧
    ∃ r ∈ (build ";é*,,a;" {}).value.rules, r.wildcardAt = some 2 := by
  have split : segments ";é*,,a;" = ["", "é*", ""] ++ ["a", ""] := by decide
  obtain ⟨-, each, delimiters, -, -, -, -, -, room⟩ := build_tallies ";é*,,a;" {}
  refine ⟨split, room _ _ split, ?_, ?_⟩
  · rw [delimiters]
    decide
  · have mem : Rule.ofText "é*" (by decide) ∈ (build ";é*,,a;" {}).value.rules := by decide
    obtain ⟨-, -, -, place, -⟩ := each _ mem
    exact ⟨_, mem, (place 2).2 ⟨by decide, by decide⟩⟩

end SymbolRules.RuleSet
