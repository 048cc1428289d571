import SymbolRules.Json.Token

/-!
# JSON documents

The values that reports are made of, and their two written forms: `compact`, which is the text of their
tokens and nothing between, and `pretty`, with a line per element and two blanks per level.
-/

namespace SymbolRules

/-- A JSON value. Numbers are naturals, and an object keeps its fields in the order given. -/
inductive Json where
  | null
  | bool (b : Bool)
  | nat (n : Nat)
  | str (s : String)
  | arr (items : List Json)
  | obj (fields : List (String × Json))

namespace Json

/-- A number, or `null` for nothing. -/
def ofNat? : Option Nat → Json
  | none => .null
  | some n => .nat n

mutual

/-- The tokens of a value, in order. -/
def tokens : Json → List Token
  | .null => [.null]
  | .bool b => [.bool b]
  | .nat n => [.nat n]
  | .str s => [.str s]
  | .arr items => .openArray :: ([Token.comma].intercalate (itemTokens items) ++ [.closeArray])
  | .obj fields => .openObject :: ([Token.comma].intercalate (fieldTokens fields) ++ [.closeObject])

/-- The tokens of each element of an array. -/
def itemTokens : List Json → List (List Token)
  | [] => []
  | v :: rest => tokens v :: itemTokens rest

/-- The tokens of each field of an object. -/
def fieldTokens : List (String × Json) → List (List Token)
  | [] => []
  | (name, v) :: rest => (.str name :: .colon :: tokens v) :: fieldTokens rest

end

/-- A document without blanks. -/
def compact (v : Json) : String :=
  String.ofList (v.tokens.flatMap Token.chars)

/-- A line break and the indentation of a level. -/
def newline (depth : Nat) : List Char :=
  '\n' :: List.replicate (2 * depth) ' '

/-- Written elements between brackets, each on a line one level deeper; nothing stands between the
brackets when there is none. -/
def block (depth : Nat) (opening closing : Char) (items : List (List Char)) : List Char :=
  if items.isEmpty then [opening, closing]
  else opening :: ([','].intercalate (items.map (newline (depth + 1) ++ ·)) ++ newline depth ++ [closing])

mutual

/-- A value laid out from a level on. -/
def layout (depth : Nat) : Json → List Char
  | .null => Token.null.chars
  | .bool b => (Token.bool b).chars
  | .nat n => (Token.nat n).chars
  | .str s => (Token.str s).chars
  | .arr items => block depth '[' ']' (layoutItems (depth + 1) items)
  | .obj fields => block depth '{' '}' (layoutFields (depth + 1) fields)

/-- The elements of an array, laid out. -/
def layoutItems (depth : Nat) : List Json → List (List Char)
  | [] => []
  | v :: rest => layout depth v :: layoutItems depth rest

/-- The fields of an object, laid out. -/
def layoutFields (depth : Nat) : List (String × Json) → List (List Char)
  | [] => []
  | (name, v) :: rest => (quote name ++ [':', ' '] ++ layout depth v) :: layoutFields depth rest

end

/-- A document with a line per element. -/
def pretty (v : Json) : String :=
  String.ofList (v.layout 0)

end Json

end SymbolRules
