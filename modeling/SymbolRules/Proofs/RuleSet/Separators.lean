import SymbolRules.Proofs.Rule.Separators
import SymbolRules.Proofs.RuleSet.Compiled

/-!
# The writing of separators

No separator is a delimiter or a wildcard, so the dotted form of a rule text has the dotted forms of the
segments and of the rules, with the same counts (`rulesOf_dotted`, `statsOf_dotted`), and it answers for
the dotted form of a candidate as the text answers for the candidate (`value_query_dotted`). Hence `.` and
`/` may be exchanged anywhere, in the rules and in the candidate, each on its own.
-/

namespace SymbolRules

/-- No separator is a delimiter. -/
theorem isDelimiter_normChar (c : Char) : isDelimiter (Rule.normChar c) = isDelimiter c := by
  unfold Rule.normChar
  split
  · rename_i slash
    rw [slash]
    rfl
  · rfl

theorem segments_dotted (text : String) : segments (dotted text) = (segments text).map dotted := by
  have written : String.ofList ∘ List.map Rule.normChar = dotted ∘ String.ofList := by
    funext cs
    rw [Function.comp, Function.comp, dotted, String.toList_ofList]
  rw [segments, toList_dotted, Pieces.splitOnP_map isDelimiter_normChar, List.map_map, written, ← List.map_map,
    ← segments]

namespace RuleSet

theorem ofSegment?_dotted (segment : String) :
    Rule.ofSegment? (dotted segment) = (Rule.ofSegment? segment).map Rule.dotted := by
  by_cases h : segment = ""
  · have written : dotted segment = "" := dotted_eq_empty_iff.2 h
    rw [Rule.ofSegment?, Rule.ofSegment?, dif_pos h, dif_pos written]
    rfl
  · have written : dotted segment ≠ "" := fun he => h (dotted_eq_empty_iff.1 he)
    rw [Rule.ofSegment?, Rule.ofSegment?, dif_neg h, dif_neg written]
    rfl

theorem rulesOf_dotted (text : String) : rulesOf (dotted text) = (rulesOf text).map Rule.dotted := by
  rw [rulesOf, segments_dotted, List.filterMap_map, rulesOf, List.map_filterMap]
  exact congrArg (List.filterMap · _) (funext ofSegment?_dotted)

theorem map_wildcardAt_rulesOf_dotted (text : String) :
    (rulesOf (dotted text)).map (·.wildcardAt) = (rulesOf text).map (·.wildcardAt) := by
  rw [rulesOf_dotted, List.map_map]
  exact List.map_congr_left fun r _ => r.wildcardAt_dotted

theorem statsOf_dotted (text : String) : statsOf (dotted text) = statsOf text := by
  have empty : (String.isEmpty ∘ dotted) = String.isEmpty := by
    funext segment
    rw [Bool.eq_iff_iff, Function.comp, String.isEmpty_iff, String.isEmpty_iff, dotted_eq_empty_iff]
  have wild : (fun r : Rule => r.wildcardAt.isSome) ∘ Rule.dotted = fun r => r.wildcardAt.isSome := by
    funext r
    rw [Function.comp, r.wildcardAt_dotted]
  simp only [statsOf, rulesOf_dotted, segments_dotted, List.length_map, List.countP_map, empty, wild]

/-- The dotted forms of a rule text and of a candidate have the verdict of these. -/
theorem value_query_dotted (text s : String) :
    ((ofText (dotted text)).query (dotted s)).value = ((ofText text).query s).value := by
  rw [Bool.eq_iff_iff, value_query_iff, value_query_iff, rules_ofText, rules_ofText, rulesOf_dotted]
  simp only [List.mem_map, exists_exists_and_eq_and, Rule.accepts_dotted]

/-- **Separators are interchangeable.** Rule texts that differ in the writing of separators alone have as
many rules as each other, with the wildcards in the same places, and the same counts; and they have the same
verdict on candidates that differ in the writing of separators alone. -/
theorem separators_interchangeable (text text' s s' : String) (rules : Respelled text text')
    (candidates : Respelled s s') :
    ((ofText text).query s).value = ((ofText text').query s').value ∧
    (ofText text).size = (ofText text').size ∧ (ofText text).stats = (ofText text').stats ∧
    (ofText text).rules.map (·.wildcardAt) = (ofText text').rules.map (·.wildcardAt) := by
  have sameText := respelled_iff.1 rules
  have sameCandidate := respelled_iff.1 candidates
  -- each side is that of the dotted forms, and these are the same
  have places : (ofText text).rules.map (·.wildcardAt) = (ofText text').rules.map (·.wildcardAt) := by
    rw [rules_ofText, rules_ofText, ← map_wildcardAt_rulesOf_dotted, sameText, map_wildcardAt_rulesOf_dotted]
  refine ⟨?_, ?_, ?_, places⟩
  · rw [← value_query_dotted, ← value_query_dotted text', sameText, sameCandidate]
  · simpa [size] using congrArg List.length places
  · rw [stats_ofText, stats_ofText, ← statsOf_dotted, ← statsOf_dotted text', sameText]

/-- Separators exchanged in one rule of two, and elsewhere in the candidate. -/
theorem separators_interchangeable_mixed :
    Respelled "a.b/C;é/*" "a/b.C;é/*" ∧ Respelled "é.x/y" "é/x/y" ∧
    ((ofText "a.b/C;é/*").query "é.x/y").value = ((ofText "a/b.C;é/*").query "é/x/y").value ∧
    (ofText "a.b/C;é/*").stats = (ofText "a/b.C;é/*").stats := by
  have rules : Respelled "a.b/C;é/*" "a/b.C;é/*" := respelled_iff.2 (by decide)
  have candidates : Respelled "é.x/y" "é/x/y" := respelled_iff.2 (by decide)
  have same := separators_interchangeable _ _ _ _ rules candidates
  exact ⟨rules, candidates, same.1, same.2.2.1⟩

end RuleSet

end SymbolRules
