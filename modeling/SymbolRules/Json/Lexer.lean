import SymbolRules.Json.Token

/-!
# Reading JSON tokens

`lex` reads the tokens of a document one character at a time, and so undoes both written forms: blanks
between tokens are skipped, and each token is read back from its characters. Surrogate escapes are refused,
as no written form has them.
-/

namespace SymbolRules.Json

/-- The blanks that may stand between tokens. -/
def isBlank (c : Char) : Bool :=
  c == ' ' || c == '\n' || c == '\r' || c == '\t'

/-- The characters of numbers and of `null`, `true` and `false`. -/
def isWordChar (c : Char) : Bool :=
  c.isAlphanum

/-- The token that is one character, if the character is one. -/
def punctuation? : Char → Option Token
  | '[' => some .openArray
  | ']' => some .closeArray
  | '{' => some .openObject
  | '}' => some .closeObject
  | ',' => some .comma
  | ':' => some .colon
  | _ => none

/-- The number that decimal digits spell, without needless zeros in front. -/
def natural? (digits : List Char) : Option Nat :=
  if digits.all Char.isDigit && (digits.head? ≠ some '0' || digits.length = 1) then
    some (digits.foldl (fun n c => n * 10 + (c.toNat - 0x30)) 0)
  else none

/-- The token that a word spells. -/
def word? (cs : List Char) : Option Token :=
  if cs = "null".toList then some .null
  else if cs = "true".toList then some (.bool true)
  else if cs = "false".toList then some (.bool false)
  else (natural? cs).map .nat

/-- The character that a letter after a backslash stands for. -/
def unescape? : Char → Option Char
  | '"' => some '"'
  | '\\' => some '\\'
  | '/' => some '/'
  | 'b' => some '\x08'
  | 'f' => some '\x0c'
  | 'n' => some '\n'
  | 'r' => some '\r'
  | 't' => some '\t'
  | _ => none

/-- The value of a hexadecimal digit. -/
def hexValue? (c : Char) : Option Nat :=
  if '0' ≤ c ∧ c ≤ '9' then some (c.toNat - 0x30)
  else if 'a' ≤ c ∧ c ≤ 'f' then some (c.toNat - 0x57)
  else if 'A' ≤ c ∧ c ≤ 'F' then some (c.toNat - 0x37)
  else none

/-- The character of a code point that is not a surrogate. -/
def character? (n : Nat) : Option Char :=
  if n.isValidChar then some (Char.ofNat n) else none

/-- Where the reading stands; what has been read of a token is kept last character first. -/
inductive LexState where
  | between
  | word (read : List Char)
  | string (read : List Char)
  /-- After a backslash. -/
  | escaped (read : List Char)
  /-- Within the digits of a code point, this many of which are to come after the next one. -/
  | code (read : List Char) (value more : Nat)
deriving DecidableEq, Repr

/-- A character read between tokens. -/
def LexState.start (c : Char) : Option (List Token × LexState) :=
  if isBlank c then some ([], .between)
  else if c = '"' then some ([], .string [])
  else if isWordChar c then some ([], .word [c])
  else (punctuation? c).map fun t => ([t], .between)

/-- The tokens that a character completes, and the state after it. -/
def LexState.step : LexState → Char → Option (List Token × LexState)
  | .between, c => start c
  | .word read, c =>
    if isWordChar c then some ([], .word (c :: read))
    else do
      let t ← word? read.reverse
      let (ts, state) ← start c
      return (t :: ts, state)
  | .string read, c =>
    if c = '"' then some ([.str (String.ofList read.reverse)], .between)
    else if c = '\\' then some ([], .escaped read)
    else if c.toNat < 0x20 then none
    else some ([], .string (c :: read))
  | .escaped read, c =>
    if c = 'u' then some ([], .code read 0 3)
    else (unescape? c).map fun c => ([], .string (c :: read))
  | .code read value more, c => do
    let value := value * 16 + (← hexValue? c)
    match more with
    | 0 => return ([], .string ((← character? value) :: read))
    | n + 1 => return ([], .code read value n)

/-- The tokens that the end of the document completes. -/
def LexState.finish : LexState → Option (List Token)
  | .between => some []
  | .word read => (word? read.reverse).map fun t => [t]
  | .string _ | .escaped _ | .code .. => none

/-- The tokens of a document from a state on. -/
def lex (state : LexState) : List Char → Option (List Token)
  | [] => state.finish
  | c :: cs => do
    let (ts, state) ← state.step c
    return ts ++ (← lex state cs)

end SymbolRules.Json
