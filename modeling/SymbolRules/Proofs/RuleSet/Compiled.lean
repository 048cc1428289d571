import SymbolRules.Proofs.Rule.Covering
import SymbolRules.RuleSet

/-!
# What a compiled rule set holds

The rules of a rule text are its nonempty segments (`map_text_rulesOf`), so no rule holds a delimiter
(`free_of_mem_rulesOf`), as characters or as bytes. The counts taken are those of the segments and of the rules
(`statsOf_eq`). A query answers whether some rule accepts (`value_query_iff`), and reports the first one that
does (`events_query`).
-/

namespace SymbolRules.RuleSet

open Pieces

/-- The rule set of a text, with the settings that hold when none are given. -/
def ofText (text : String) : RuleSet :=
  (build text {}).value

theorem rules_ofText (text : String) : (ofText text).rules = rulesOf text :=
  rfl

theorem stats_ofText (text : String) : (ofText text).stats = statsOf text :=
  rfl

theorem map_text_ofSegment? (segment : String) :
    (Rule.ofSegment? segment).map (·.text) = Option.guard (· ≠ "") segment := by
  by_cases h : segment = "" <;> simp [Rule.ofSegment?, Rule.ofText, Option.guard, h]

/-- The rules are the nonempty segments, in order. -/
theorem map_text_rulesOf (text : String) : (rulesOf text).map (·.text) = (segments text).filter (· ≠ "") := by
  rw [rulesOf, List.map_filterMap, funext map_text_ofSegment?, List.filterMap_eq_filter]

/-- Rules are known by their texts, and so are lists of rules. -/
theorem map_text_injective : Function.Injective (List.map fun r : Rule => r.text) :=
  List.map_injective_iff.2 fun _ _ => Rule.ext

theorem mem_rulesOf_iff {text : String} {r : Rule} : r ∈ rulesOf text ↔ r.text ∈ segments text := by
  constructor
  · intro h
    have written : r.text ∈ (rulesOf text).map (·.text) := List.mem_map.2 ⟨r, h, rfl⟩
    rw [map_text_rulesOf] at written
    exact (List.mem_filter.1 written).1
  · intro h
    have written : r.text ∈ (rulesOf text).map (·.text) := by
      rw [map_text_rulesOf, List.mem_filter]
      exact ⟨h, by simpa using r.text_ne_empty⟩
    obtain ⟨q, hq, he⟩ := List.mem_map.1 written
    rwa [Rule.ext he] at hq

/-- No rule holds a delimiter. -/
theorem free_of_mem_rulesOf {text : String} {r : Rule} (h : r ∈ rulesOf text) : Free isDelimiter r.text.toList :=
  free_of_mem_segments (mem_rulesOf_iff.1 h)

theorem free_encode_of_mem_rulesOf {text : String} {r : Rule} (h : r ∈ rulesOf text) :
    Free isDelimiterByte (Utf8.encode r.text) := by
  obtain ⟨-, -, -, free, -⟩ := mem_segments_iff.1 ⟨r.text, mem_rulesOf_iff.1 h, rfl⟩
  exact free

/-- The counts over a rule text: its segments, the rules, the empty segments, and the rules with a `*`. -/
theorem statsOf_eq (text : String) :
    statsOf text = ⟨(segments text).length, (rulesOf text).length, (segments text).countP (· = ""),
      (rulesOf text).countP ('*' ∈ ·.text.toList)⟩ := by
  have dropped : (segments text).countP (·.isEmpty) = (segments text).countP (· = "") := by
    apply List.countP_congr
    intro segment _
    simp
  rw [statsOf, dropped, funext Rule.isSome_wildcardAt]

/-! ## Queries -/

/-- A query looks at the rules alone. -/
theorem query_congr {A B : RuleSet} (h : A.rules = B.rules) (s : String) : A.query s = B.query s := by
  rw [query, firstHit?, h, query, firstHit?]

/-- The settings play no part in a query. -/
theorem query_build (text : String) (settings : Settings) (s : String) :
    (build text settings).value.query s = (ofText text).query s :=
  query_congr rfl s

theorem value_query (set : RuleSet) (candidate : String) :
    (set.query candidate).value = (set.firstHit? candidate).isSome := by
  rw [query]
  cases set.firstHit? candidate <;> rfl

/-- A query answers whether some rule accepts the candidate. -/
theorem value_query_iff {set : RuleSet} {candidate : String} :
    (set.query candidate).value = true ↔ ∃ r ∈ set.rules, r.accepts candidate = true := by
  rw [value_query, firstHit?, List.find?_isSome]

/-- The first of some rules that accepts a candidate. -/
def IsFirstHit (rules : List Rule) (candidate : String) (r : Rule) : Prop :=
  ∃ before after, rules = before ++ r :: after ∧ r.accepts candidate = true ∧
    ∀ q ∈ before, q.accepts candidate = false

theorem firstHit?_eq_some_iff {set : RuleSet} {candidate : String} {r : Rule} :
    set.firstHit? candidate = some r ↔ IsFirstHit set.rules candidate r := by
  rw [firstHit?, List.find?_eq_some_iff_append]
  constructor
  · rintro ⟨accepts, before, after, split, refuse⟩
    exact ⟨before, after, split, accepts, fun q hq => by simpa using refuse q hq⟩
  · rintro ⟨before, after, split, accepts, refuse⟩
    exact ⟨accepts, before, after, split, fun q hq => by simpa using refuse q hq⟩

/-- A query reports the first rule that accepts the candidate, and nothing when there is none. -/
theorem events_query (set : RuleSet) (candidate : String) :
    (set.query candidate).events = ((set.firstHit? candidate).map (Event.hit candidate)).toList := by
  rw [query]
  cases set.firstHit? candidate <;> rfl

/-- A query in terms of the bytes. -/
theorem value_query_iff_fits {set : RuleSet} {candidate : String} :
    (set.query candidate).value = true ↔
      ∃ r ∈ set.rules, Rule.Fits (Utf8.encode r.text) (Utf8.encode candidate) := by
  rw [value_query_iff]
  apply exists_congr
  intro r
  apply and_congr_right
  intro _
  exact Rule.accepts_iff_fits

/-- A query of a set that was compiled from a text, in terms of the bytes. -/
theorem value_query_ofText_iff {text candidate : String} :
    ((ofText text).query candidate).value = true ↔
      ∃ r ∈ (ofText text).rules, Rule.Fits (Utf8.encode r.text) (Utf8.encode candidate) :=
  value_query_iff_fits

end SymbolRules.RuleSet
