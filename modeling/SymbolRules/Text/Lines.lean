import SymbolRules.Text.Utf8

/-!
# Lines

A line ends at a line feed, which is dropped together with one carriage return just before it. What
follows the last line feed is a line of its own unless it is empty, and keeps a final carriage return.
The rule is the same on characters (`ofText`) and on bytes that are decoded line by line (`ofBytes?`).
-/

namespace SymbolRules.Lines

variable {α : Type} [BEq α]

/-- A piece without its last element when that is `cr`. -/
def chomp (cr : α) (piece : List α) : List α :=
  if piece.getLast? == some cr then piece.dropLast else piece

/-- The lines of a sequence whose line feed is `lf` and carriage return `cr`. -/
def split (lf cr : α) (s : List α) : List (List α) :=
  let pieces := s.splitOn lf
  pieces.dropLast.map (chomp cr) ++ pieces.getLast?.toList.filter (!·.isEmpty)

/-- The lines of a text. -/
def ofText (s : String) : List String :=
  (split '\n' '\r' s.toList).map String.ofList

/-- The lines of a byte string, if each of them is well-formed text. -/
def ofBytes? (bs : List UInt8) : Option (List String) :=
  (split 0x0A 0x0D bs).mapM Utf8.decode?

end SymbolRules.Lines
