import SymbolRules.Command.LogFilter.Pattern.Atom

/-!
# Classes of a pattern

A class in brackets holds atoms, ranges and other classes, and can join, cut or subtract such sets. Reading
one tells how deeply its parts are nested and what follows its closing bracket.
-/

namespace SymbolRules.LogFilter.Pattern

/-- How deeply a whole is nested, by its parts: one deeper than the deepest, but a single part is the whole. -/
def nesting : List Nat → Nat
  | [] => 0
  | [depth] => depth
  | depths => depths.foldl max 0 + 1

/-- What has been read of a class. -/
structure Members where
  /-- How deeply each member after the last operator is nested. -/
  depths : List Nat := []
  /-- How deeply that which stands left of the last operator is nested. -/
  left : Option Nat := none

/-- How deeply a class is nested. -/
def Members.nesting (s : Members) : Nat :=
  match s.left with
  | some depth => max depth (Pattern.nesting s.depths) + 1
  | none => Pattern.nesting s.depths

/-- One more member. -/
def Members.add (s : Members) (depth : Nat) : Members :=
  { s with depths := depth :: s.depths }

/-- What has been read stands left of an operator. -/
def Members.operate (s : Members) : Members :=
  ⟨[], some s.nesting⟩

/-- The classes of ASCII characters that have a name. -/
def asciiClasses : List String :=
  ["alnum", "alpha", "ascii", "blank", "cntrl", "digit", "graph", "lower", "print", "punct", "space",
    "upper", "word", "xdigit"]

/-- The class of ASCII characters that is named between colons after an opening bracket: whether it stands
for all other characters, and what follows. -/
def asciiClass? : List Char → Option (Bool × List Char)
  | ':' :: cs =>
    let others := cs.head? = some '^'
    let cs := if others then cs.drop 1 else cs
    let name := cs.takeWhile (· ≠ ':')
    match cs.drop name.length with
    | ':' :: ']' :: rest => if asciiClasses.contains (String.ofList name) then some (others, rest) else none
    | _ => none
  | _ => none

/-- Whether a named class of ASCII characters can be a member of a class. -/
def Mode.admitsAsciiClass (m : Mode) (others : Bool) : Bool :=
  if m.unicode then !m.ignoreCase else !others

/-- Whether a class after an opening bracket stands for all other characters, and what follows. -/
def negation (m : Mode) (cs : List Char) : Bool × List Char :=
  match m.skip cs with
  | '^' :: rest => (true, rest)
  | rest => (false, rest)

/-- The next character that counts. In a spaced pattern one number sign and the blanks around it do not. -/
def Mode.next? (m : Mode) (cs : List Char) : Option Char :=
  if m.spaced then
    match cs.dropWhile Text.isBlank with
    | '#' :: rest => (rest.dropWhile Text.isBlank).head?
    | rest => rest.head?
  else cs.head?

/-- The atom at the front inside of a class. -/
def memberAtom? (m : Mode) : List Char → Option (Atom × List Char)
  | [] => none
  | '\\' :: cs => escape? m cs
  | c :: cs => some (.char c, cs)

/-- Whether two atoms are the ends of a range. -/
def Mode.admitsRange (m : Mode) (first last : Atom) : Bool :=
  m.admitsMember first && m.admitsMember last &&
    match first, last with
    | .char a, .char b | .char a, .byte b | .byte a, .char b | .byte a, .byte b => a ≤ b
    | _, _ => false

/-- What follows the atom or range at the front. A minus sign before another one or the closing bracket
makes no range. -/
def afterMember? (m : Mode) (cs : List Char) : Option (List Char) := do
  let (first, rest) ← memberAtom? m cs
  match m.skip rest with
  | '-' :: tail =>
    if m.next? tail = some ']' ∨ m.next? tail = some '-' then
      if m.admitsMember first then some ('-' :: tail) else none
    else
      let (last, rest) ← memberAtom? m (m.skip tail)
      if m.admitsRange first last then some rest else none
  | rest => if m.admitsMember first then some rest else none

/-- Where in a class the reading stands: at the beginning a closing bracket and minus signs are members. -/
inductive ClassPlace where
  | first
  | afterMinus
  | later
deriving DecidableEq, Repr

/-- Reads the members up to the closing bracket of their class, with fuel for each of them. -/
def members? (m : Mode) : (fuel : Nat) → Members → ClassPlace → List Char → Option (Nat × List Char)
  | 0, _, _, _ => none
  | fuel + 1, seen, place, cs =>
    match place, m.skip cs with
    | _, [] => none
    | .first, ']' :: rest =>
      if m.admitsMember (.char ']') then members? m fuel (seen.add 0) .later rest else none
    | .first, '-' :: rest | .afterMinus, '-' :: rest =>
      if m.admitsMember (.char '-') then members? m fuel (seen.add 0) .afterMinus rest else none
    | _, ']' :: rest => some (seen.nesting, rest)
    | _, '[' :: rest =>
      match asciiClass? rest with
      | some (others, rest) =>
        if m.admitsAsciiClass others then members? m fuel (seen.add 0) .later rest else none
      | none =>
        let (others, rest) := negation m rest
        if others && (!m.unicode || m.ignoreCase) then none
        else
          match members? m fuel {} .first rest with
          | some (depth, rest) => members? m fuel (seen.add (depth + 1)) .later rest
          | none => none
    | _, '&' :: '&' :: rest | _, '-' :: '-' :: rest | _, '~' :: '~' :: rest =>
      members? m fuel seen.operate .later rest
    | _, cs =>
      match afterMember? m cs with
      | some rest => members? m fuel (seen.add 0) .later rest
      | none => none

/-- Reads a class after its opening bracket: how deeply it is nested, and what follows. -/
def class? (m : Mode) (cs : List Char) : Option (Nat × List Char) :=
  let (others, rest) := negation m cs
  if others && !m.unicode then none
  else (members? m (rest.length + 1) {} .first rest).map fun r => (r.1 + 1, r.2)

end SymbolRules.LogFilter.Pattern
