import SymbolRules.Json.Basic

/-!
# Settings

How a rule set is compiled: the category that its storage is filed under, and whether every rule is
reported. Both serve diagnostics alone.
-/

namespace SymbolRules

/-- What the storage of a rule set is filed under. -/
inductive Category where
  | classLoading
  | compiler
  | logging
  | internal
deriving DecidableEq, Repr, Inhabited

namespace Category

/-- The name that diagnostics use. -/
def name : Category → String
  | .classLoading => "class"
  | .compiler => "compiler"
  | .logging => "logging"
  | .internal => "internal"

/-- Every category. -/
def all : List Category := [.classLoading, .compiler, .logging, .internal]

/-- The category of a name. -/
def ofName? (name : String) : Option Category :=
  all.find? (·.name == name)

theorem ofName?_name (c : Category) : ofName? c.name = some c := by
  cases c <;> decide

end Category

/-- How a rule set is compiled. -/
structure Settings where
  category : Category := .classLoading
  /-- Report every compiled rule. -/
  verbose : Bool := false
deriving DecidableEq, Repr

/-- The settings that hold when none are given. -/
instance : Inhabited Settings := ⟨{}⟩

/-- The settings as a JSON object. -/
def Settings.toJson (s : Settings) : Json :=
  .obj [("category", .str s.category.name), ("verbose", .bool s.verbose)]

end SymbolRules
