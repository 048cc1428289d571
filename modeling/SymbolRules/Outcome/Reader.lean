import SymbolRules.Json.Reader
import SymbolRules.Outcome

/-!
# Reading outcomes back

Each report can be read back: `ofDocument?` undoes `document`, and `ofListing?` undoes `listing` as long as
no candidate holds a line feed.
-/

namespace SymbolRules.Outcome

/-- The outcome that a JSON object holds. -/
def ofJson? : Json → Option Outcome
  | .obj [("candidate", .str candidate), ("matched", .bool matched)] => some ⟨candidate, matched⟩
  | _ => none

/-- The outcomes of a JSON report. -/
def ofDocument? (report : String) : Option (List Outcome) :=
  match Json.read? report with
  | some (.arr items) => items.mapM ofJson?
  | _ => none

/-- What the word at the beginning of a line means. -/
def mark? (word : List Char) : Option Bool :=
  if word = "MATCH".toList then some true
  else if word = "-".toList then some false
  else none

/-- The outcome of a line without its line feed, split at the first tab. -/
def ofLine? (line : List Char) : Option Outcome :=
  match line.dropWhile (· ≠ '\t') with
  | [] => none
  | _ :: candidate =>
    (mark? (line.takeWhile (· ≠ '\t'))).map fun matched => ⟨String.ofList candidate, matched⟩

/-- The outcomes of a report in lines, each of which ends with a line feed. -/
def ofListing? (report : String) : Option (List Outcome) :=
  let pieces := report.toList.splitOn '\n'
  if pieces.getLast? = some [] then pieces.dropLast.mapM ofLine? else none

end SymbolRules.Outcome
