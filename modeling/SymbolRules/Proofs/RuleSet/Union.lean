import SymbolRules.Proofs.RuleSet.Compiled

/-!
# Joined rule texts

A delimiter between two rule texts ends the last segment of the one and leaves the segments of the other
as they are (`segments_append`). So the rules of a joined text are those of its parts one after another,
its counts are the sums, and it selects what either part selects.
-/

namespace SymbolRules

/-- Counts added field by field. -/
instance : Add Stats where
  add x y := ⟨x.segments + y.segments, x.kept + y.kept, x.dropped + y.dropped, x.withWildcard + y.withWildcard⟩

/-- A delimiter splits a text in two, whatever stands on either side of it. -/
theorem segments_append (a b : String) {d : Char} (hd : isDelimiter d = true) :
    segments (a ++ String.singleton d ++ b) = segments a ++ segments b := by
  have characters : (a ++ String.singleton d ++ b).toList = a.toList ++ d :: b.toList := by
    rw [String.toList_append, String.toList_append, String.toList_singleton, List.append_assoc]
    rfl
  rw [segments, characters, List.splitOnP_append_cons _ _ hd, List.map_append, ← segments, ← segments]

namespace RuleSet

variable {a b : String} {d : Char}

theorem rulesOf_append (hd : isDelimiter d = true) :
    rulesOf (a ++ String.singleton d ++ b) = rulesOf a ++ rulesOf b := by
  rw [rulesOf, segments_append a b hd, List.filterMap_append, ← rulesOf, ← rulesOf]

theorem statsOf_append (hd : isDelimiter d = true) :
    statsOf (a ++ String.singleton d ++ b) = statsOf a + statsOf b := by
  rw [statsOf, rulesOf_append hd, segments_append a b hd]
  simp only [List.length_append, List.countP_append]
  rfl

/-- A set that has the rules of two sets selects what either selects. -/
theorem value_query_of_rules_append {union left right : RuleSet} (h : union.rules = left.rules ++ right.rules)
    (s : String) : (union.query s).value = ((left.query s).value || (right.query s).value) := by
  rw [Bool.eq_iff_iff, Bool.or_eq_true, value_query_iff, value_query_iff, value_query_iff, h]
  simp only [List.mem_append, or_and_right, exists_or]

/-- **Joining rule texts is union.** With a delimiter between them, the rules are those of the one followed
by those of the other, each count is the sum, and a candidate is selected when either text selects it. -/
theorem build_append_union (a b : String) (d : Char) (hd : d = ',' ∨ d = ';') (settings : Settings) :
    (build (a ++ String.singleton d ++ b) settings).value.rules =
      (build a settings).value.rules ++ (build b settings).value.rules ∧
    (build (a ++ String.singleton d ++ b) settings).value.stats =
      (build a settings).value.stats + (build b settings).value.stats ∧
    ∀ s, ((ofText (a ++ String.singleton d ++ b)).query s).value =
      (((ofText a).query s).value || ((ofText b).query s).value) := by
  have delimiter : isDelimiter d = true := by
    rcases hd with rfl | rfl <;> rfl
  refine ⟨rulesOf_append delimiter, statsOf_append delimiter, ?_⟩
  exact value_query_of_rules_append (rulesOf_append delimiter)

/-- A text that ends with a delimiter, and the empty text after it: the seam makes two empty segments. -/
theorem build_append_union_seam :
    (build ("a*;" ++ String.singleton ',' ++ "") {}).value.stats = ⟨3, 1, 2, 1⟩ ∧
    (build ("a*;" ++ String.singleton ',' ++ "") {}).value.rules =
      (build "a*;" {}).value.rules ++ (build "" {}).value.rules := by
  have joined := build_append_union "a*;" "" ',' (.inl rfl) {}
  constructor
  · rw [joined.2.1]
    decide
  · exact joined.1

end RuleSet

end SymbolRules
