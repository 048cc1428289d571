import SymbolRules.Logged
import SymbolRules.Segment

/-!
# Rule sets

A rule text is compiled by splitting it into segments and keeping each nonempty one as a rule, in order.
A candidate is selected when some rule accepts it, and the first that does is reported.
-/

namespace SymbolRules

/-- A compiled rule set. -/
structure RuleSet where
  rules : List Rule
  category : Category
  stats : Stats
deriving DecidableEq

namespace RuleSet

/-- The rule set that is compiled from nothing: no rules, and nothing counted. -/
def empty : RuleSet := ⟨[], .classLoading, ⟨0, 0, 0, 0⟩⟩

/-- The rules of a rule text: its nonempty segments in order. -/
def rulesOf (text : String) : List Rule :=
  (segments text).filterMap Rule.ofSegment?

/-- The counts taken over a rule text. -/
def statsOf (text : String) : Stats where
  segments := (segments text).length
  kept := (rulesOf text).length
  dropped := (segments text).countP (·.isEmpty)
  withWildcard := (rulesOf text).countP (·.wildcardAt.isSome)

/-- The rule set of a rule text. -/
def compile (text : String) (settings : Settings) : RuleSet :=
  ⟨rulesOf text, settings.category, statsOf text⟩

/-- What compiling a rule set reports: its counts, and every rule when that is asked for. -/
def compileEvents (set : RuleSet) (verbose : Bool) : List Event :=
  .compiled set.stats set.category ::
    if verbose then set.rules.mapIdx Event.listed else []

/-- Compiles a rule text and reports it. -/
def build (text : String) (settings : Settings) : Logged RuleSet := do
  let set := compile text settings
  Logged.emitAll (set.compileEvents settings.verbose)
  return set

/-- Compiles a rule text that the caller promises is there. -/
def buildRequired (text : Option String) : Except Violation (Logged RuleSet) :=
  match text with
  | none => .error .absentText
  | some text => .ok (build text {})

/-- The number of rules. -/
def size (set : RuleSet) : Nat := set.rules.length

/-- Whether there are no rules. -/
def isEmpty (set : RuleSet) : Bool := set.rules.isEmpty

/-- The first rule that accepts a candidate. -/
def firstHit? (set : RuleSet) (candidate : String) : Option Rule :=
  set.rules.find? (·.accepts candidate)

/-- Whether some rule accepts a candidate, reporting the first one that does. -/
def query (set : RuleSet) (candidate : String) : Logged Bool :=
  match set.firstHit? candidate with
  | none => return false
  | some rule => do
    Logged.emit (.hit candidate rule)
    return true

/-- The rules written one after another. -/
def text (set : RuleSet) : String :=
  ",".intercalate (set.rules.map (·.text))

/-- The rules and the category as a JSON object; the counts play no part in it. -/
def toJson (set : RuleSet) : Json :=
  .obj [("patterns", .arr (set.rules.map Rule.toJson)), ("category", .str set.category.name)]

end RuleSet

end SymbolRules
