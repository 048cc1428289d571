import SymbolRules.Json.Basic

/-!
# Outcomes

What became of each candidate, and the two reports of it: a line each, or a JSON document.
-/

namespace SymbolRules

/-- A candidate and whether the rules select it. -/
structure Outcome where
  candidate : String
  matched : Bool
deriving DecidableEq, Repr

namespace Outcome

/-- The word that a line begins with. -/
def mark (matched : Bool) : String :=
  if matched then "MATCH" else "-"

/-- The line of an outcome: its mark, a tab, and the candidate as it is. -/
def line (o : Outcome) : String :=
  mark o.matched ++ "\t" ++ o.candidate ++ "\n"

/-- The outcome as a JSON object. -/
def toJson (o : Outcome) : Json :=
  .obj [("candidate", .str o.candidate), ("matched", .bool o.matched)]

/-- The report in lines. -/
def listing (outcomes : List Outcome) : String :=
  String.join (outcomes.map line)

/-- The report as a JSON document. -/
def document (outcomes : List Outcome) : String :=
  (Json.arr (outcomes.map toJson)).pretty ++ "\n"

end Outcome

end SymbolRules
