import SymbolRules.Proofs.Rule.Lengths
import SymbolRules.Proofs.RuleSet.Compiled
import SymbolRules.Symbol

/-!
# What a query reports

A query goes along the rules and stops at the first one that matches (`query_cons`). So it reports nothing, or one
hit that names the candidate and the rule at the least index among those that match (`traced_query`). Another order
of the rules may put another rule first; whether there is one does not depend on the order.
-/

namespace SymbolRules.RuleSet

open Rule (matchesText)

/-- What a query of some rules answers and reports. -/
inductive Traced (rules : List Rule) (candidate : String) : Logged Bool → Prop where
  /-- No rule matches, and nothing is reported. -/
  | silent (refuse : ∀ r ∈ rules, matchesText r.text candidate = false) : Traced rules candidate ⟨false, []⟩
  /-- The rule at an index matches, no rule before it does, and its hit is all that is reported. -/
  | hit {i : Nat} {r : Rule} (stands : rules[i]? = some r) (matched : matchesText r.text candidate = true)
    (refuse : ∀ j < i, ∀ q, rules[j]? = some q → matchesText q.text candidate = false) :
    Traced rules candidate ⟨true, [.hit candidate r]⟩

variable {rules : List Rule} {candidate : String} {answer : Logged Bool} {r : Rule}

/-! ## One rule -/

/-- A rule that matches ends the query. -/
theorem Traced.here (matched : matchesText r.text candidate = true) :
    Traced (r :: rules) candidate ⟨true, [.hit candidate r]⟩ := by
  apply Traced.hit (i := 0) rfl matched
  intro j hj
  omega

/-- A rule that does not match leaves the query to the rules after it. -/
theorem Traced.later (refused : matchesText r.text candidate = false) (h : Traced rules candidate answer) :
    Traced (r :: rules) candidate answer := by
  cases h with
  | silent refuse =>
    apply Traced.silent
    intro q hq
    rcases List.mem_cons.1 hq with rfl | hq
    · exact refused
    · exact refuse q hq
  | @hit i first stands matched refuse =>
    apply Traced.hit (i := i + 1) stands matched
    intro j hj q hq
    cases j with
    | zero =>
      obtain rfl := Option.some.inj hq
      exact refused
    | succ j => exact refuse j (by omega) q hq

theorem query_nil (category : Category) (stats : Stats) (candidate : String) :
    (RuleSet.mk [] category stats).query candidate = ⟨false, []⟩ :=
  rfl

/-- A query looks at the first rule, and at the others only if that one refuses. -/
theorem query_cons (r : Rule) (rules : List Rule) (category : Category) (stats : Stats) (candidate : String) :
    (RuleSet.mk (r :: rules) category stats).query candidate =
      if r.accepts candidate then ⟨true, [.hit candidate r]⟩
      else (RuleSet.mk rules category stats).query candidate := by
  rw [query, query, firstHit?, firstHit?, List.find?_cons]
  cases r.accepts candidate <;> rfl

/-! ## All rules -/

/-- **A query reports the first hit and nothing else.** -/
theorem traced_query (set : RuleSet) (candidate : String) : Traced set.rules candidate (set.query candidate) := by
  obtain ⟨rules, category, stats⟩ := set
  induction rules with
  | nil =>
    rw [query_nil]
    apply Traced.silent
    simp
  | cons r rules ih =>
    rw [query_cons, Rule.accepts_eq]
    cases matched : matchesText r.text candidate with
    | true => exact .here matched
    | false => exact .later matched ih

/-- There is one event for the answer yes, and none for the answer no. -/
theorem Traced.length_events (h : Traced rules candidate answer) : answer.events.length = answer.value.toNat := by
  cases h <;> rfl

/-- The order of the rules plays no part in the answer. -/
theorem value_query_of_perm {set other : RuleSet} (h : set.rules.Perm other.rules) (candidate : String) :
    (set.query candidate).value = (other.query candidate).value := by
  rw [Bool.eq_iff_iff, value_query_iff, value_query_iff]
  simp only [h.mem_iff]

/-- Segments in another order make the rules in another order. -/
theorem perm_rulesOf {a b : String} (h : (segments a).Perm (segments b)) : (rulesOf a).Perm (rulesOf b) :=
  h.filterMap Rule.ofSegment?

/-- **A query names the first rule that matches.** It reports nothing when it answers no, and when it answers yes it
reports a single hit, which is traced with the candidate and the rule at the least index that matches. A query about
a symbol does so with the text of the symbol. Rules in another order give the same answer and as many events, though
the rule that is named may be another. -/
theorem query_names_first_hit :
    (∀ (set : RuleSet) (candidate : String), Traced set.rules candidate (set.query candidate)) ∧
    (∀ (set : RuleSet) (symbol : Symbol), Traced set.rules symbol.toText (set.querySymbol symbol)) ∧
    (∀ (candidate : String) (r : Rule), (Event.hit candidate r).level = .trace ∧
      (Event.hit candidate r).message = "符号" ++ candidate ++ "命中规则" ++ r.text) ∧
    (∀ set other : RuleSet, set.rules.Perm other.rules → ∀ candidate,
      (set.query candidate).value = (other.query candidate).value ∧
      (set.query candidate).events.length = (other.query candidate).events.length) ∧
    (∀ a b settings other, (segments a).Perm (segments b) →
      (build a settings).value.rules.Perm (build b other).value.rules) ∧
    ∃ a b candidate, (segments a).Perm (segments b) ∧
      ((ofText a).query candidate).events ≠ ((ofText b).query candidate).events := by
  refine ⟨traced_query, ?_, fun _ _ => ⟨rfl, rfl⟩, ?_, ?_, "a*,ab", "ab,a*", "ab", ?_, ?_⟩
  · intro set symbol
    exact traced_query set symbol.toText
  · intro set other perm candidate
    have same := value_query_of_perm perm candidate
    refine ⟨same, ?_⟩
    rw [(traced_query set candidate).length_events, (traced_query other candidate).length_events, same]
  · intro a b _ _ perm
    exact perm_rulesOf perm
  · decide
  · decide

/-- Two rules that match the same candidate, the one first and then the other. -/
theorem query_names_first_hit_swapped :
    (segments "a*;b,ab").Perm (segments "ab,a*,b") ∧
    (ofText "a*;b,ab").rules.Perm (ofText "ab,a*,b").rules ∧
    ((ofText "a*;b,ab").query "ab").value = ((ofText "ab,a*,b").query "ab").value ∧
    ((ofText "a*;b,ab").query "ab").events.length = ((ofText "ab,a*,b").query "ab").events.length := by
  have swapped : (segments "a*;b,ab").Perm (segments "ab,a*,b") := by decide
  obtain ⟨-, -, -, reordered, segmentwise, -⟩ := query_names_first_hit
  have perm : (ofText "a*;b,ab").rules.Perm (ofText "ab,a*,b").rules := segmentwise _ _ {} {} swapped
  exact ⟨swapped, perm, reordered _ _ perm "ab"⟩

end SymbolRules.RuleSet
