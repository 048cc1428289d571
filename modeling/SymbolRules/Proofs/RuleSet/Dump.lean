import SymbolRules.Proofs.Json.ReadBack
import SymbolRules.Proofs.Result
import SymbolRules.Proofs.RuleSet.NormalForm
import SymbolRules.RuleSet.Dump

/-!
# Dumps are read back

The object of a rule set is read as its dump (`ofJson?_toJson`), and so is the document that is written of
it, whatever the rules hold. The dump has all of the rule set but its counts: what is compiled from it is what
the text of the rule set is compiled to (`rebuild_ofRuleSet`), and rule sets with one document have the same
rules and the same category.
-/

namespace SymbolRules

open Rule (FirstWildcard wildcard)

namespace Dump

theorem offset?_ofNat? (place : Option Nat) : offset? (.ofNat? place) = some place := by
  cases place <;> rfl

theorem rule?_toJson (r : Rule) : rule? r.toJson = some (r.text, r.wildcardAt) := by
  rw [Rule.toJson, rule?, offset?_ofNat?]
  rfl

/-- The object of a rule set holds its dump. -/
theorem ofJson?_toJson (set : RuleSet) : ofJson? set.toJson = some (ofRuleSet set) := by
  rw [RuleSet.toJson, ofJson?, mapM_map_eq_some rule?_toJson, Category.ofName?_name]
  rfl

/-- The document of a rule set is read as its dump. -/
theorem read_toJson (set : RuleSet) :
    (Json.read? set.toJson.compact).bind ofJson? = some (ofRuleSet set) := by
  rw [Json.read?_compact, Option.bind_some, ofJson?_toJson]

/-- A dump tells the rules and the category, and nothing else. -/
theorem ofRuleSet_eq_iff {S T : RuleSet} :
    ofRuleSet S = ofRuleSet T ↔ S.rules = T.rules ∧ S.category = T.category := by
  have injective : Function.Injective (List.map fun r : Rule => (r.text, r.wildcardAt)) :=
    List.map_injective_iff.2 fun p q h => Rule.ext (congrArg Prod.fst h)
  rw [ofRuleSet, ofRuleSet, Dump.mk.injEq, injective.eq_iff]

/-- What is compiled from a dump is what is compiled from the text of the rule set. -/
theorem rebuild_ofRuleSet (set : RuleSet) : (ofRuleSet set).rebuild = set.reparse := by
  have texts : (ofRuleSet set).rules.map (·.1) = set.rules.map (·.text) := List.map_map
  rw [rebuild, texts]
  rfl

end Dump

namespace RuleSet

/-- Rule sets are written alike when their rules and categories are the same. -/
theorem compact_toJson_eq_iff {S T : RuleSet} :
    S.toJson.compact = T.toJson.compact ↔ S.rules = T.rules ∧ S.category = T.category := by
  constructor
  · intro h
    have dumps : some (Dump.ofRuleSet S) = some (Dump.ofRuleSet T) := by
      rw [← Dump.read_toJson, h, Dump.read_toJson]
    exact Dump.ofRuleSet_eq_iff.1 (Option.some.inj dumps)
  · rintro ⟨rules, category⟩
    rw [toJson, rules, category, toJson]

/-- **A document of a rule set tells its rules and its category.** It is read as an object with the text of
each rule and the offset of its first wildcard, in order, and with the name of the category. The texts joined
with `,` are compiled to the same rules under the same category, so two rule sets have one document exactly
when they have the same rules and the same category; the counts play no part. -/
theorem dump_faithful (S : RuleSet) (hS : Obtained S) :
    Json.read? S.toJson.compact = some (.obj
      [("patterns", .arr (S.rules.map fun r => .obj [("text", .str r.text), ("wildcard_at", .ofNat? r.wildcardAt)])),
        ("category", .str S.category.name)]) ∧
    (∀ r ∈ S.rules, (r.wildcardAt = none ↔ wildcard ∉ Utf8.encode r.text) ∧
      ∀ k, r.wildcardAt = some k ↔ FirstWildcard (Utf8.encode r.text) k) ∧
    (∃ dump, (Json.read? S.toJson.compact).bind Dump.ofJson? = some dump ∧
      dump.rules = S.rules.map (fun r => (r.text, r.wildcardAt)) ∧ dump.category = S.category ∧
      dump.rebuild.rules = S.rules ∧ dump.rebuild.category = S.category) ∧
    ∀ T : RuleSet, S.toJson.compact = T.toJson.compact ↔ S.rules = T.rules ∧ S.category = T.category := by
  refine ⟨Json.read?_compact _, ?_, ?_, fun T => compact_toJson_eq_iff⟩
  · intro r _
    exact ⟨Rule.wildcardAt_eq_none_iff, fun k => Rule.wildcardAt_eq_some_iff⟩
  · refine ⟨Dump.ofRuleSet S, Dump.read_toJson S, rfl, rfl, ?_, rfl⟩
    rw [Dump.rebuild_ofRuleSet, rules_reparse hS]

/-- Rules with a quote, a backslash, control characters and a bracket. -/
def escaped : RuleSet :=
  (build "\"*;\\\x01\t],é*" { category := .logging }).value

/-- The same rules between empty segments. -/
def spaced : RuleSet :=
  (build ",\"*,,\\\x01\t];é*;" { category := .logging }).value

/-- Other counts, and the same document. -/
theorem dump_faithful_awkward :
    escaped.stats ≠ spaced.stats ∧ escaped.toJson.compact = spaced.toJson.compact ∧
    (∃ dump, (Json.read? escaped.toJson.compact).bind Dump.ofJson? = some dump ∧
      dump.rules = [("\"*", some 1), ("\\\x01\t]", none), ("é*", some 2)] ∧ dump.category = .logging ∧
      dump.rebuild.rules = escaped.rules) := by
  have obtained : Obtained escaped := .compiled _ _
  obtain ⟨-, -, ⟨dump, read, rules, category, rebuilt, -⟩, alike⟩ := dump_faithful escaped obtained
  have written : escaped.rules.map (fun r => (r.text, r.wildcardAt)) =
    [("\"*", some 1), ("\\\x01\t]", none), ("é*", some 2)] := by decide
  refine ⟨by decide, ?_, dump, read, rules.trans written, category, rebuilt⟩
  exact (alike spaced).2 (by decide)

end RuleSet

end SymbolRules
