import SymbolRules.Text.Utf8

/-!
# Walking a rule along a candidate

A rule is compared with a candidate byte by byte from the left. `walk` reports how the comparison stops,
and `Stop.accepts` says which stops are a match.
-/

namespace SymbolRules.Rule

/-- The byte `*`: from here on neither the rule nor the candidate is looked at. -/
def wildcard : UInt8 := 0x2A

/-- Two bytes agree when they are equal, or one is `.` and the other `/`. -/
def agree (p c : UInt8) : Bool :=
  p == c || (p == 0x2E && c == 0x2F) || (p == 0x2F && c == 0x2E)

/-- How a comparison stops. -/
inductive Stop where
  /-- The rule reached a wildcard. -/
  | wildcard
  /-- The candidate ended before the rule. -/
  | exhausted
  /-- Two bytes do not agree. -/
  | mismatch
  /-- The rule ended, with this many bytes of the candidate left over. -/
  | complete (left : Nat)
deriving DecidableEq

/-- A wildcard matches at once; a rule without one must end where the candidate ends. -/
def Stop.accepts : Stop → Bool
  | .wildcard => true
  | .complete left => left == 0
  | .exhausted | .mismatch => false

/-- Compares the bytes of a rule with those of a candidate. -/
def walk : List UInt8 → List UInt8 → Stop
  | [], rest => .complete rest.length
  | p :: ps, candidate =>
    if p == wildcard then .wildcard
    else match candidate with
      | [] => .exhausted
      | c :: cs => if agree p c then walk ps cs else .mismatch

/-- Whether a rule text, possibly empty, matches a candidate. -/
def matchesText (rule candidate : String) : Bool :=
  (walk (Utf8.encode rule) (Utf8.encode candidate)).accepts

end SymbolRules.Rule
