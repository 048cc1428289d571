import SymbolRules.Json.Quoted

/-!
# JSON tokens

The lexical units of a document and their written form.
-/

namespace SymbolRules.Json

/-- The lexical units of a document. -/
inductive Token where
  | openArray
  | closeArray
  | openObject
  | closeObject
  | comma
  | colon
  | null
  | bool (b : Bool)
  | nat (n : Nat)
  | str (s : String)
deriving DecidableEq, Repr

/-- The written form of a token. -/
def Token.chars : Token → List Char
  | .openArray => ['[']
  | .closeArray => [']']
  | .openObject => ['{']
  | .closeObject => ['}']
  | .comma => [',']
  | .colon => [':']
  | .null => "null".toList
  | .bool true => "true".toList
  | .bool false => "false".toList
  | .nat n => Nat.toDigits 10 n
  | .str s => quote s

end SymbolRules.Json
