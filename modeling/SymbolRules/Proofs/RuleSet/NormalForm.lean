import SymbolRules.Proofs.RuleSet.Compiled

/-!
# Normal forms of rule sets

The text of a rule set joins its rules with `,`, so it keeps no `;` and no empty segment. No rule holds a
delimiter, hence compiling that text gives the same rules again (`rulesOf_intercalate`), with counts in
which nothing was dropped. The empty set has the empty text, which is one segment and is dropped.
-/

namespace SymbolRules.RuleSet

open Pieces

/-- A rule set that a text compiles to, or the one that is compiled from nothing. -/
inductive Obtained : RuleSet → Prop where
  | compiled (text : String) (settings : Settings) : Obtained (build text settings).value
  | empty : Obtained .empty

/-- The rule set that the text of a rule set compiles to, under its own category. -/
def reparse (set : RuleSet) : RuleSet :=
  (build set.text { category := set.category }).value

/-- The counts of a rule set whose text is in normal form. -/
def normalStats (rules : List Rule) : Stats :=
  if rules = [] then ⟨1, 0, 1, 0⟩ else ⟨rules.length, rules.length, 0, rules.countP (·.wildcardAt.isSome)⟩

/-- No rule holds a delimiter. -/
theorem Obtained.free {set : RuleSet} (h : Obtained set) : ∀ r ∈ set.rules, Free isDelimiter r.text.toList := by
  cases h with
  | compiled text settings =>
    intro r hr
    have mem : r ∈ rulesOf text := hr
    exact free_of_mem_rulesOf mem
  | empty =>
    intro r hr
    cases hr

/-! ## Rules joined and split again -/

section Joined

variable {rules : List Rule}

theorem segments_joined (hne : rules ≠ []) (free : ∀ r ∈ rules, Free isDelimiter r.text.toList) :
    segments (",".intercalate (rules.map (·.text))) = rules.map (·.text) := by
  refine segments_intercalate (by simpa using hne) fun part hp => ?_
  obtain ⟨r, hr, rfl⟩ := List.mem_map.1 hp
  exact free r hr

/-- Rules joined with `,` are compiled again. -/
theorem rulesOf_intercalate (free : ∀ r ∈ rules, Free isDelimiter r.text.toList) :
    rulesOf (",".intercalate (rules.map (·.text))) = rules := by
  by_cases hne : rules = []
  · rw [hne]
    rfl
  · apply map_text_injective
    have kept : ∀ part ∈ rules.map (·.text), part ≠ "" := by
      intro part hp
      obtain ⟨r, -, rfl⟩ := List.mem_map.1 hp
      exact r.text_ne_empty
    rw [map_text_rulesOf, segments_joined hne free, List.filter_eq_self]
    exact fun part hp => decide_eq_true (kept part hp)

theorem statsOf_intercalate (free : ∀ r ∈ rules, Free isDelimiter r.text.toList) :
    statsOf (",".intercalate (rules.map (·.text))) = normalStats rules := by
  by_cases hne : rules = []
  · rw [hne]
    rfl
  · have dropped : (rules.map (·.text)).countP (·.isEmpty) = 0 := by
      rw [List.countP_eq_zero]
      intro part hp
      obtain ⟨r, -, rfl⟩ := List.mem_map.1 hp
      simpa using r.text_ne_empty
    rw [statsOf, rulesOf_intercalate free, segments_joined hne free, dropped, List.length_map, normalStats,
      if_neg hne]

end Joined

/-! ## Reparsing -/

section Reparse

variable {set : RuleSet}

theorem rules_reparse (h : Obtained set) : set.reparse.rules = set.rules :=
  rulesOf_intercalate h.free

theorem stats_reparse (h : Obtained set) : set.reparse.stats = normalStats set.rules :=
  statsOf_intercalate h.free

theorem text_reparse (h : Obtained set) : set.reparse.text = set.text := by
  rw [text, rules_reparse h, text]

theorem toJson_reparse (h : Obtained set) : set.reparse.toJson = set.toJson := by
  have category : set.reparse.category = set.category := rfl
  rw [toJson, rules_reparse h, category, toJson]

theorem query_reparse (h : Obtained set) (s : String) : set.reparse.query s = set.query s :=
  query_congr (rules_reparse h) s

/-- A set that was reparsed is reparsed to itself, its counts included. -/
theorem reparse_reparse (h : Obtained set) : set.reparse.reparse = set.reparse := by
  rw [reparse, text_reparse h]
  rfl

end Reparse

/-- **Writing a rule set and compiling its text are inverse up to normal form.** The rules, the category,
both texts and every verdict stay, the counts become those of a text without empty segments, and from
then on nothing changes. -/
theorem reparse_normal_form (set : RuleSet) (h : Obtained set) :
    set.reparse.rules = set.rules ∧ set.reparse.category = set.category ∧ set.reparse.text = set.text ∧
    set.reparse.toJson.compact = set.toJson.compact ∧ (∀ s, set.reparse.query s = set.query s) ∧
    (set.rules ≠ [] → set.reparse.stats =
      ⟨set.size, set.size, 0, set.rules.countP (·.wildcardAt.isSome)⟩) ∧
    (set.rules = [] → set.reparse.stats = ⟨1, 0, 1, 0⟩) ∧
    set.reparse.reparse = set.reparse := by
  refine ⟨rules_reparse h, rfl, text_reparse h, ?_, query_reparse h, ?_, ?_, reparse_reparse h⟩
  · rw [toJson_reparse h]
  · intro hne
    rw [stats_reparse h, normalStats, if_neg hne, size]
  · intro hempty
    rw [stats_reparse h, normalStats, if_pos hempty]

/-- A text with both delimiters and an empty segment, and one that has nothing but empty segments. -/
theorem reparse_normal_form_mixed :
    (build "a/b;,c.*" {}).value.reparse.stats = ⟨2, 2, 0, 1⟩ ∧
    (build ";" {}).value.reparse.stats = ⟨1, 0, 1, 0⟩ := by
  refine ⟨?_, ?_⟩
  · exact (reparse_normal_form _ (.compiled "a/b;,c.*" {})).2.2.2.2.2.1 (by decide)
  · exact (reparse_normal_form _ (.compiled ";" {})).2.2.2.2.2.2.1 (by decide)

end SymbolRules.RuleSet
