import SymbolRules.Json.Reader
import SymbolRules.RuleSet

/-!
# Dumps of rule sets

What the JSON object of a rule set holds: the category, and for each rule its text and the place of its
first wildcard. A rule set can be compiled again from its dump.
-/

namespace SymbolRules

/-- The content of a dump. -/
structure Dump where
  rules : List (String × Option Nat)
  category : Category
deriving DecidableEq, Repr

namespace Dump

/-- The dump of a rule set. -/
def ofRuleSet (set : RuleSet) : Dump :=
  ⟨set.rules.map fun r => (r.text, r.wildcardAt), set.category⟩

/-- The place of a wildcard, or `null`. -/
def offset? : Json → Option (Option Nat)
  | .null => some none
  | .nat n => some (some n)
  | _ => none

/-- The text and the place of the wildcard that a rule's object holds. -/
def rule? : Json → Option (String × Option Nat)
  | .obj [("text", .str text), ("wildcard_at", place)] => (offset? place).map fun k => (text, k)
  | _ => none

/-- The dump that a JSON object holds. -/
def ofJson? : Json → Option Dump
  | .obj [("patterns", .arr rules), ("category", .str name)] => do
    return ⟨← rules.mapM rule?, ← Category.ofName? name⟩
  | _ => none

/-- The rule set that is compiled from the texts of a dump. -/
def rebuild (d : Dump) : RuleSet :=
  RuleSet.compile (",".intercalate (d.rules.map (·.1))) { category := d.category }

end Dump

end SymbolRules
