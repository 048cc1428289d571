/-!
# Contract violations

What a caller must never do. These are faults of the calling program, not conditions that it handles.
-/

namespace SymbolRules

/-- A broken obligation of the caller. -/
inductive Violation where
  /-- A rule was made from an empty segment. -/
  | emptySegment
  /-- A rule set was made from no rule text at all. -/
  | absentText
deriving DecidableEq, Repr

/-- What the violation says. -/
def Violation.message : Violation → String
  | .emptySegment => "pattern segment must not be empty"
  | .absentText => "pattern configuration must not be absent"

end SymbolRules
