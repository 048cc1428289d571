import SymbolRules.Json.Basic
import SymbolRules.Json.Lexer

/-!
# Reading JSON documents

A document is read from its tokens with a stack of the arrays and objects that are still open. `read?`
undoes `compact` and `pretty`.
-/

namespace SymbolRules.Json

/-- An array or object that is still open, with what stands before the value now read, last first. -/
inductive Frame where
  | item (done : List Json)
  | field (done : List (String × Json)) (name : String)

/-- What the next token may be. -/
inductive Expect where
  /-- A value. -/
  | value
  /-- A value, or the end of an array that has just begun. -/
  | firstItem
  /-- A field's name. -/
  | name (done : List (String × Json))
  /-- A field's name, or the end of an object that has just begun. -/
  | firstName
  /-- The colon after a field's name. -/
  | colon (done : List (String × Json)) (name : String)
  /-- What may follow a complete value. -/
  | after (v : Json)

/-- Where the reading stands. -/
structure ReadState where
  expect : Expect
  stack : List Frame

namespace ReadState

/-- A token that begins a value. -/
def begin (stack : List Frame) : Token → Option ReadState
  | .null => some ⟨.after .null, stack⟩
  | .bool b => some ⟨.after (.bool b), stack⟩
  | .nat n => some ⟨.after (.nat n), stack⟩
  | .str s => some ⟨.after (.str s), stack⟩
  | .openArray => some ⟨.firstItem, .item [] :: stack⟩
  | .openObject => some ⟨.firstName, stack⟩
  | _ => none

/-- A token after a complete value, by what is open around it. -/
def follow (v : Json) : List Frame → Token → Option ReadState
  | .item done :: stack, .comma => some ⟨.value, .item (v :: done) :: stack⟩
  | .item done :: stack, .closeArray => some ⟨.after (.arr (v :: done).reverse), stack⟩
  | .field done name :: stack, .comma => some ⟨.name ((name, v) :: done), stack⟩
  | .field done name :: stack, .closeObject =>
    some ⟨.after (.obj ((name, v) :: done).reverse), stack⟩
  | _, _ => none

/-- The state after a token. -/
def step : ReadState → Token → Option ReadState
  | ⟨.value, stack⟩, t => begin stack t
  | ⟨.firstItem, .item [] :: stack⟩, .closeArray => some ⟨.after (.arr []), stack⟩
  | ⟨.firstItem, stack⟩, t => begin stack t
  | ⟨.firstName, stack⟩, .closeObject => some ⟨.after (.obj []), stack⟩
  | ⟨.firstName, stack⟩, .str name => some ⟨.colon [] name, stack⟩
  | ⟨.name done, stack⟩, .str name => some ⟨.colon done name, stack⟩
  | ⟨.colon done name, stack⟩, .colon => some ⟨.value, .field done name :: stack⟩
  | ⟨.after v, stack⟩, t => follow v stack t
  | _, _ => none

/-- The value that is complete when nothing is open. -/
def result? : ReadState → Option Json
  | ⟨.after v, []⟩ => some v
  | _ => none

end ReadState

/-- The value that tokens spell. -/
def ofTokens? (ts : List Token) : Option Json :=
  ts.foldlM ReadState.step ⟨.value, []⟩ >>= ReadState.result?

/-- The value that a document spells. -/
def read? (document : String) : Option Json :=
  lex .between document.toList >>= ofTokens?

end SymbolRules.Json
