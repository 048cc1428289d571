import SymbolRules.Proofs.Rule.Covering
import SymbolRules.Proofs.RuleSet.Compiled

/-!
# Containment of rule sets

Whether one rule text selects everything that another does is decided rule by rule: each rule of the
other must be covered by a single rule of the one (`contains_iff`). What a rule text selects
therefore depends on its nonempty segments as a set, and a covered rule may be left out.
-/

namespace SymbolRules.RuleSet

open Rule

/-- Every candidate that `B` selects is selected by `A`, as rule texts. -/
def Contains (A B : String) : Prop :=
  ∀ s, ((ofText B).query s).value = true → ((ofText A).query s).value = true

/-- Containment is decided rule by rule. -/
theorem contains_iff {A B : String} :
    Contains A B ↔ ∀ q ∈ (ofText B).rules, ∃ p ∈ (ofText A).rules, p.Covers q := by
  simp only [Contains, value_query_ofText_iff]
  constructor
  · intro h q hq
    obtain ⟨p, hp, fits⟩ := h q.sample ⟨q, hq, fits_sample q⟩
    exact ⟨p, hp, covers_of_fits_sample (free_encode_of_mem_rulesOf hp) fits⟩
  · rintro h s ⟨q, hq, fits⟩
    obtain ⟨p, hp, covers⟩ := h q hq
    exact ⟨p, hp, covers.fits fits⟩

/-- Texts that contain each other select alike. -/
theorem value_query_eq_of_contains {A B : String} (h : Contains A B) (h' : Contains B A) (s : String) :
    ((ofText A).query s).value = ((ofText B).query s).value :=
  Bool.eq_iff_iff.2 ⟨h' s, h s⟩

/-- A text contains another when it has its nonempty segments. -/
theorem contains_of_segments {A B : String} (h : ∀ segment ≠ "", segment ∈ segments B → segment ∈ segments A) :
    Contains A B := by
  rw [contains_iff]
  intro q hq
  have segment := h q.text q.text_ne_empty (mem_rulesOf_iff.1 hq)
  exact ⟨q, mem_rulesOf_iff.2 segment, .refl q⟩

/-- A text contains another that has a rule more, when that rule is covered. -/
theorem contains_of_covered {A B : String} {before after : List Rule} {q : Rule}
    (hB : (ofText B).rules = before ++ q :: after) (hA : (ofText A).rules = before ++ after)
    (h : ∃ p ∈ before ++ after, p.Covers q) : Contains A B := by
  rw [contains_iff, hA]
  intro r hr
  rw [hB, List.mem_append, List.mem_cons, or_left_comm] at hr
  rcases hr with rfl | hr
  · exact h
  · exact ⟨r, List.mem_append.2 hr, .refl r⟩

/-- A text that leaves rules out is contained. -/
theorem contains_of_subset {A B : String} (h : (ofText B).rules ⊆ (ofText A).rules) : Contains A B := by
  rw [contains_iff]
  intro q hq
  exact ⟨q, h hq, .refl q⟩

/-- The rule that every candidate fits. -/
def star : Rule :=
  Rule.ofText "*" (by decide)

theorem mem_rules_star_iff {q : Rule} : q ∈ (ofText "*").rules ↔ q = star := by
  have rules : (ofText "*").rules = [star] := rfl
  rw [rules, List.mem_singleton]

theorem contains_star_iff {A : String} : Contains A "*" ↔ ∀ s, ((ofText A).query s).value = true := by
  have all : ∀ s, ((ofText "*").query s).value = true := by
    intro s
    rw [value_query_ofText_iff]
    exact ⟨star, mem_rules_star_iff.2 rfl, fits_wildcard [] _⟩
  constructor
  · intro h s
    exact h s (all s)
  · intro h s _
    exact h s

theorem covers_star_iff {p : Rule} : p.Covers star ↔ p.text.toList.head? = some '*' := by
  have empty : core (Utf8.encode star.text) = [] := rfl
  have wild : wildcard ∈ Utf8.encode star.text := List.mem_singleton_self wildcard
  rw [Covers, empty, p.head?_eq_wildcard_iff, List.map_nil, List.prefix_nil, List.map_eq_nil_iff]
  exact or_iff_left fun h => h.2.1 wild

/-- A text selects everything when one of its rules begins with `*`. -/
theorem selects_everything_iff {A : String} :
    (∀ s, ((ofText A).query s).value = true) ↔ ∃ p ∈ (ofText A).rules, p.text.toList.head? = some '*' := by
  rw [← contains_star_iff, contains_iff]
  simp only [mem_rules_star_iff, forall_eq, covers_star_iff]

/-- **Containment is decided rule by rule.** Hence what a text selects depends on its nonempty segments
as a set, a covered rule may be left out, and everything is selected exactly by a rule that begins with
a wildcard. -/
theorem contains_iff_covered (A B : String) :
    ((∀ s, ((ofText B).query s).value = true → ((ofText A).query s).value = true) ↔
      ∀ q ∈ (ofText B).rules, ∃ p ∈ (ofText A).rules, p.Covers q) ∧
    ((∀ segment ≠ "", segment ∈ segments A ↔ segment ∈ segments B) →
      ∀ s, ((ofText A).query s).value = ((ofText B).query s).value) ∧
    (∀ before q after, (ofText A).rules = before ++ q :: after → (ofText B).rules = before ++ after →
      (∃ p ∈ before ++ after, p.Covers q) → ∀ s, ((ofText A).query s).value = ((ofText B).query s).value) ∧
    ((∀ s, ((ofText A).query s).value = true) ↔ ∃ p ∈ (ofText A).rules, p.text.toList.head? = some '*') := by
  refine ⟨contains_iff, ?_, ?_, selects_everything_iff⟩
  · intro same
    have forth : Contains A B := contains_of_segments fun segment hs => (same segment hs).2
    have back : Contains B A := contains_of_segments fun segment hs => (same segment hs).1
    exact value_query_eq_of_contains forth back
  · intro before q after hA hB covered
    have fewer : (ofText B).rules ⊆ (ofText A).rules := by
      rw [hA, hB]
      intro r hr
      simp only [List.mem_append, List.mem_cons] at hr ⊢
      tauto
    exact value_query_eq_of_contains (contains_of_subset fewer) (contains_of_covered hA hB covered)

/-- Of `a.b;a/*` the first rule is covered, and the order and the delimiters do not matter. -/
theorem contains_iff_covered_dotted :
    (∀ s, ((ofText "a.b;a/*").query s).value = ((ofText "a/*").query s).value) ∧
    ∀ s, ((ofText "a.b;a/*").query s).value = ((ofText ",a/*,a.b,a/*").query s).value := by
  constructor
  · have covered : ∃ p ∈ ([] : List Rule) ++ [Rule.ofText "a/*" (by decide)],
        p.Covers (Rule.ofText "a.b" (by decide)) :=
      ⟨_, List.mem_singleton_self _, .inl ⟨by decide, by decide⟩⟩
    exact (contains_iff_covered "a.b;a/*" "a/*").2.2.1 [] _ _ rfl rfl covered
  · apply (contains_iff_covered "a.b;a/*" ",a/*,a.b,a/*").2.1
    intro segment hs
    have left : segments "a.b;a/*" = ["a.b", "a/*"] := by decide
    have right : segments ",a/*,a.b,a/*" = ["", "a/*", "a.b", "a/*"] := by decide
    rw [left, right]
    simp only [List.mem_cons, List.not_mem_nil, or_false]
    grind

end SymbolRules.RuleSet
