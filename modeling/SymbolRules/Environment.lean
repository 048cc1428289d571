import SymbolRules.Text.Utf8

/-!
# Environment variables

An environment holds entries `name=value`. A look-up compares the entries with the name and an equals
sign, so a name that itself holds an equals sign can be asked for but never set.
-/

namespace SymbolRules

/-- Variables and their values, which need not be text. -/
structure Environment where
  bindings : List (String × List UInt8)
deriving DecidableEq, Repr

namespace Environment

/-- No variable at all. -/
def empty : Environment := ⟨[]⟩

/-- Whether a variable can have this name. -/
def isSettable (name : String) : Bool :=
  name ≠ "" && name.toList.all fun c => c ≠ '=' && c ≠ '\x00'

/-- Without a variable. -/
def unset (env : Environment) (name : String) : Environment :=
  ⟨env.bindings.filter (·.1 ≠ name)⟩

/-- With a variable given a value; a name that no variable can have changes nothing. -/
def set (env : Environment) (name : String) (value : List UInt8) : Environment :=
  if isSettable name then ⟨(env.unset name).bindings ++ [(name, value)]⟩ else env

/-- The environment that sets the given variables one after another. -/
def ofList (bindings : List (String × List UInt8)) : Environment :=
  bindings.foldl (fun env v => env.set v.1 v.2) empty

/-- The equals sign of an entry. -/
def equals : UInt8 := 0x3D

/-- The bytes of an entry. -/
def entry (v : String × List UInt8) : List UInt8 :=
  Utf8.encode v.1 ++ equals :: v.2

/-- What follows a beginning, if it is one. -/
def stripStart? : List UInt8 → List UInt8 → Option (List UInt8)
  | [], rest => some rest
  | b :: bs, c :: cs => if b = c then stripStart? bs cs else none
  | _ :: _, [] => none

/-- The value of a variable, if it is set. -/
def lookup? (env : Environment) (name : String) : Option (List UInt8) :=
  if name = "" || name.toList.contains '\x00' then none
  else env.bindings.findSome? fun v => stripStart? (Utf8.encode name ++ [equals]) (entry v)

end Environment

end SymbolRules
