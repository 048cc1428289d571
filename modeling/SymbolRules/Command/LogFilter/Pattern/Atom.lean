import SymbolRules.Text.Blank

/-!
# Atoms of a pattern

The smallest parts of a regular expression: characters, plain or escaped, and what an escape stands for. How
they are read, and which of them can be matched, depends on the mode. No table of letters stands behind a
match, so folded case, named classes and word boundaries are there only where bytes are matched; and where
bytes are matched, none of them may be part of a longer character.
-/

namespace SymbolRules.LogFilter.Pattern

/-- How a stretch of a pattern is read. -/
structure Mode where
  /-- Characters are matched, and not bytes. -/
  unicode : Bool := true
  /-- Upper and lower case are the same. -/
  ignoreCase : Bool := false
  /-- Blanks and comments between the parts are no part of the pattern. -/
  spaced : Bool := false
deriving DecidableEq, Repr

/-- What follows blanks and comments; a comment runs from a number sign to the end of the line. -/
def afterSpace : (inComment : Bool) → List Char → List Char
  | _, [] => []
  | true, c :: cs => afterSpace (c ≠ '\n') cs
  | false, c :: cs =>
    if c = '#' then afterSpace true cs
    else if Text.isBlank c then afterSpace false cs
    else c :: cs

/-- What follows the blanks and comments that a mode allows. -/
def Mode.skip (m : Mode) (cs : List Char) : List Char :=
  if m.spaced then afterSpace false cs else cs

/-- An atom by what it matches. -/
inductive Atom where
  /-- One character. -/
  | char (c : Char)
  /-- One character by two hexadecimal digits, which give a byte where bytes are matched. -/
  | byte (c : Char)
  /-- Any character but the end of a line. -/
  | any
  /-- The digits, the blanks or the word characters, or all others. -/
  | named (others : Bool)
  /-- The beginning or the end of a text or a line. -/
  | edge
  /-- The beginning or the end of a word, or neither. -/
  | boundary
deriving DecidableEq, Repr

/-- Whether an atom can stand by itself. -/
def Mode.admits (m : Mode) : Atom → Bool
  | .char _ => !(m.unicode && m.ignoreCase)
  | .byte c => if m.unicode then !m.ignoreCase else c.toNat < 0x80
  | .any => m.unicode
  | .named others => !m.unicode && !others
  | .edge => true
  | .boundary => !m.unicode

/-- Whether an atom can be a member of a class. -/
def Mode.admitsMember (m : Mode) : Atom → Bool
  | .char c | .byte c => if m.unicode then !m.ignoreCase else c.toNat < 0x80
  | .named others => !m.unicode && !others
  | _ => false

/-- The value of a hexadecimal digit. -/
def hexDigit? (c : Char) : Option Nat :=
  if c.isDigit then some (c.toNat - 0x30)
  else if 'a' ≤ c ∧ c ≤ 'f' then some (c.toNat - 0x57)
  else if 'A' ≤ c ∧ c ≤ 'F' then some (c.toNat - 0x37)
  else none

/-- The number that so many hexadecimal digits spell after the value read so far, and what follows. -/
def hexNumber? (m : Mode) : (count value : Nat) → List Char → Option (Nat × List Char)
  | 0, value, cs => some (value, cs)
  | count + 1, value, cs =>
    match m.skip cs with
    | [] => none
    | c :: rest => hexDigit? c >>= fun digit => hexNumber? m count (16 * value + digit) rest

/-- The character that so many hexadecimal digits number, and what follows. -/
def hexChar? (m : Mode) (count : Nat) (cs : List Char) : Option (Char × List Char) :=
  match hexNumber? m count 0 cs with
  | some (n, rest) => if n.isValidChar then some (Char.ofNat n, rest) else none
  | none => none

/-- The control characters that have a letter of their own. -/
def controls : List (Char × Char) :=
  [('a', '\x07'), ('f', '\x0c'), ('t', '\t'), ('n', '\n'), ('r', '\r'), ('v', '\x0b')]

/-- The atom that an escape stands for, after its backslash. A sign stands for itself. -/
def escape? (m : Mode) : List Char → Option (Atom × List Char)
  | [] => none
  | c :: cs =>
    if c = 'x' then (hexChar? m 2 cs).map fun r => (.byte r.1, r.2)
    else if c = 'u' then (hexChar? m 4 cs).map fun r => (.char r.1, r.2)
    else if c = 'U' then (hexChar? m 8 cs).map fun r => (.char r.1, r.2)
    else if c = 'd' ∨ c = 's' ∨ c = 'w' then some (.named false, cs)
    else if c = 'D' ∨ c = 'S' ∨ c = 'W' then some (.named true, cs)
    else if c = 'A' ∨ c = 'z' then some (.edge, cs)
    else if c = 'b' ∨ c = 'B' ∨ c = '<' ∨ c = '>' then some (.boundary, cs)
    else
      match controls.lookup c with
      | some control => some (.char control, cs)
      | none => if c.toNat < 0x80 ∧ !c.isAlphanum then some (.char c, cs) else none

/-- The atom at the front, outside of classes. -/
def atom? (m : Mode) : List Char → Option (Atom × List Char)
  | [] => none
  | '\\' :: cs => escape? m cs
  | '.' :: cs => some (.any, cs)
  | '^' :: cs | '$' :: cs => some (.edge, cs)
  | c :: cs => some (.char c, cs)

end SymbolRules.LogFilter.Pattern
