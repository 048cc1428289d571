import SymbolRules.Command.LogFilter.Pattern.CharClass
import SymbolRules.Text.Alphanumeric

/-!
# Patterns

A pattern is a regular expression: alternatives of sequences of atoms, classes, groups and repeated parts.
Nothing of it is matched here; what counts is whether it can be (`isPattern`): whether it is well formed,
stays within what its modes allow, and is not nested too deeply.
-/

namespace SymbolRules.LogFilter.Pattern

/-- The flags that a group can set or, after a minus sign, clear. -/
def flagNames : List Char :=
  ['i', 'm', 's', 'U', 'u', 'R', 'x', '-']

/-- A mode changed by flags. No flag stands twice, and one follows the minus sign. -/
def Mode.change? (m : Mode) (flags : List Char) : Option Mode :=
  if flags.all flagNames.contains && decide flags.Nodup && flags.getLast? ≠ some '-' then
    let set := flags.takeWhile (· ≠ '-')
    let value (flag : Char) (before : Bool) :=
      if set.contains flag then true else if flags.contains flag then false else before
    some ⟨value 'u' m.unicode, value 'i' m.ignoreCase, value 'x' m.spaced⟩
  else none

/-- Whether characters name a group: letters, numbers and some signs, and no number or other sign than the
low line at the beginning. -/
def isGroupName (name : List Char) : Bool :=
  (name.head?.any fun c => c == '_' || Text.isAlphabetic c) &&
    name.all fun c => ['_', '.', '[', ']'].contains c || Text.isAlphanumeric c

/-- What an opening parenthesis begins. -/
inductive Opening where
  /-- A group with a mode of its own, and perhaps a name. -/
  | group (mode : Mode) (name : Option (List Char))
  /-- Nothing, but another mode for what follows in the same group. -/
  | change (mode : Mode)
deriving DecidableEq, Repr

/-- The name before a closing angle bracket. -/
def groupName? (m : Mode) (cs : List Char) : Option (Opening × List Char) :=
  let name := cs.takeWhile (· ≠ '>')
  match cs.drop name.length with
  | _ :: rest => if isGroupName name then some (.group m (some name), rest) else none
  | [] => none

/-- What a parenthesis begins, by what follows it. -/
def opening? (m : Mode) (cs : List Char) : Option (Opening × List Char) :=
  match m.skip cs with
  | '?' :: 'P' :: '<' :: rest | '?' :: '<' :: rest => groupName? m rest
  | '?' :: rest =>
    let flags := rest.takeWhile fun c => c ≠ ':' && c ≠ ')'
    match rest.drop flags.length with
    | ':' :: rest => (m.change? flags).map fun mode => (.group mode none, rest)
    | ')' :: rest => if flags.isEmpty then none else (m.change? flags).map fun mode => (.change mode, rest)
    | _ => none
  | rest => some (.group m none, rest)

/-- What has been read of a group, or of the whole pattern. -/
structure Parts where
  /-- How deeply each part of the sequence is nested, the last one first. -/
  depths : List Nat := []
  /-- How deeply each alternative before the sequence is nested. -/
  alternatives : List Nat := []
  /-- Whether the last part can be repeated. -/
  repeatable : Bool := false

/-- How deeply a group is nested inside. -/
def Parts.nesting (p : Parts) : Nat :=
  Pattern.nesting (Pattern.nesting p.depths :: p.alternatives)

/-- One more part. -/
def Parts.add (p : Parts) (depth : Nat) : Parts :=
  { p with depths := depth :: p.depths, repeatable := true }

/-- One more part that changes the mode, which cannot be repeated. -/
def Parts.addChange (p : Parts) : Parts :=
  { p with depths := 0 :: p.depths, repeatable := false }

/-- The sequence is complete, and another alternative begins. -/
def Parts.alternate (p : Parts) : Parts :=
  ⟨[], Pattern.nesting p.depths :: p.alternatives, false⟩

/-- The last part is repeated, if there is one. -/
def Parts.repeated? (p : Parts) : Option Parts :=
  match p.repeatable, p.depths with
  | true, depth :: depths => some { p with depths := (depth + 1) :: depths }
  | _, _ => none

/-- What a group comes to: how deeply it is nested inside, the names of groups so far, and what follows. -/
structure Contents where
  depth : Nat
  names : List (List Char)
  rest : List Char

/-- Reads parts up to the parenthesis that closes their group, or to the end, with fuel for each of them. A
count in braces repeats nothing here, as a field ends at the first closing brace. -/
def contents? : (fuel : Nat) → Mode → (names : List (List Char)) → Parts → List Char → Option Contents
  | 0, _, _, _, _ => none
  | fuel + 1, m, names, seen, cs =>
    match m.skip cs with
    | [] => some ⟨seen.nesting, names, []⟩
    | ')' :: rest => some ⟨seen.nesting, names, ')' :: rest⟩
    | '|' :: rest => contents? fuel m names seen.alternate rest
    | '(' :: rest =>
      match opening? m rest with
      | some (.change mode, rest) => contents? fuel mode names seen.addChange rest
      | some (.group mode name, rest) =>
        if name.any names.contains then none
        else
          match contents? fuel mode (name.toList ++ names) {} rest with
          | some ⟨depth, names, ')' :: rest⟩ => contents? fuel m names (seen.add (depth + 1)) rest
          | _ => none
      | none => none
    | '[' :: rest =>
      match class? m rest with
      | some (depth, rest) => contents? fuel m names (seen.add depth) rest
      | none => none
    | '?' :: rest | '*' :: rest | '+' :: rest =>
      match seen.repeated? with
      | some seen => contents? fuel m names seen (if rest.head? = some '?' then rest.drop 1 else rest)
      | none => none
    | '{' :: _ => none
    | cs =>
      match atom? m cs with
      | some (atom, rest) => if m.admits atom then contents? fuel m names (seen.add 0) rest else none
      | none => none

/-- How deeply a pattern can be nested. -/
def nestingLimit : Nat := 250

end Pattern

/-- Whether a text is a pattern. -/
def isPattern (cs : List Char) : Bool :=
  match Pattern.contents? (cs.length + 1) {} [] {} cs with
  | some ⟨depth, _, []⟩ => depth ≤ Pattern.nestingLimit
  | _ => false

end SymbolRules.LogFilter
