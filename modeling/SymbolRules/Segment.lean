/-!
# Segments of a rule text

Rules are written one after another with `,` or `;` between them. The end of the text closes the last
segment, so a text has one segment more than it has delimiters; a segment may be empty.
-/

namespace SymbolRules

/-- The characters that stand between segments. -/
def isDelimiter (c : Char) : Bool :=
  c == ',' || c == ';'

/-- The segments of a rule text in order, empty ones included. -/
def segments (text : String) : List String :=
  (text.toList.splitOnP isDelimiter).map String.ofList

/-- How many segments a rule text has, counted by its delimiters. -/
def segmentCount (text : String) : Nat :=
  text.toList.countP isDelimiter + 1

end SymbolRules
