import SymbolRules.Source
import SymbolRules.Symbol

/-!
# The installed rule set

A program usually keeps one rule set. The first installation that succeeds puts it in place, and later
ones leave it there and report it again. A registry is the state that such a program keeps, together with
its environment variables, and `step` is what one request does to it.
-/

namespace SymbolRules

/-- The environment and the rule set in place. -/
structure Registry where
  environment : Environment
  installed : Option RuleSet
deriving DecidableEq

namespace Registry

/-- Before the first installation. -/
def initial : Registry := ⟨.empty, none⟩

/-- Puts the rule set of a text in place unless there is one, and reports the one in place. -/
def install (r : Registry) (text : String) (settings : Settings) : Logged Registry := do
  let set ← match r.installed with
    | some set => pure set
    | none => RuleSet.build text settings
  Logged.emit (.ready set.size set.category)
  return { r with installed := some set }

/-- Puts the rule set of an environment variable in place unless there is one. The variable must hold a
rule text in either case. -/
def installFromVariable (r : Registry) (name : String) : Except Error (Logged Registry) :=
  match r.environment.ruleText name with
  | .error e => .error e
  | .ok text => .ok (r.install text {})

/-- The rule set in place. -/
def current (r : Registry) : Except Error RuleSet :=
  match r.installed with
  | none => .error .notInstalled
  | some set => .ok set

/-- Whether the rule set in place selects a symbol. -/
def query (r : Registry) (symbol : Symbol) : Except Error (Logged Bool) :=
  match r.current with
  | .error e => .error e
  | .ok set => .ok (set.querySymbol symbol)

/-- A request. -/
inductive Step where
  | setVariable (name : String) (value : List UInt8)
  | unsetVariable (name : String)
  | install (text : String) (settings : Settings)
  | installFromVariable (name : String)
  | current
  | query (symbol : Symbol)
deriving DecidableEq, Repr

/-- The answer to a request. -/
inductive Answer where
  | done
  | ruleSet (set : RuleSet)
  | selected (yes : Bool)
  | failed (e : Error)
deriving DecidableEq

/-- What a request answers and reports, and the registry after it. -/
def step (r : Registry) : Step → Logged (Answer × Registry)
  | .setVariable name value => return (.done, { r with environment := r.environment.set name value })
  | .unsetVariable name => return (.done, { r with environment := r.environment.unset name })
  | .install text settings => return (.done, ← r.install text settings)
  | .installFromVariable name =>
    match r.installFromVariable name with
    | .error e => return (.failed e, r)
    | .ok run => return (.done, ← run)
  | .current =>
    match r.current with
    | .error e => return (.failed e, r)
    | .ok set => return (.ruleSet set, r)
  | .query symbol =>
    match r.query symbol with
    | .error e => return (.failed e, r)
    | .ok run => return (.selected (← run), r)

end Registry

end SymbolRules
