import SymbolRules.RuleSet

/-!
# Symbols

A host keeps symbol names as text or as raw bytes. Matching looks at the text of a symbol, in which
ill-formed bytes are repaired.
-/

namespace SymbolRules

/-- A symbol as its host keeps it. -/
inductive Symbol where
  | text (s : String)
  | bytes (bs : List UInt8)
deriving DecidableEq, Repr

namespace Symbol

/-- The text of a symbol. -/
def toText : Symbol → String
  | .text s => s
  | .bytes bs => Utf8.repair bs

/-- Whether the text of a symbol is the symbol itself, nothing repaired. -/
def isVerbatim : Symbol → Bool
  | .text _ => true
  | .bytes bs => (Utf8.decode? bs).isSome

end Symbol

/-- Whether some rule accepts the text of a symbol, reporting the first one that does. -/
def RuleSet.querySymbol (set : RuleSet) (symbol : Symbol) : Logged Bool :=
  set.query symbol.toText

end SymbolRules
