import SymbolRules.Command.Library

/-!
# Log filters

Which events directives show, and how a line looks in a log. Of the directives that apply to an event the most
specific one decides, and the last of equals. These are stand-ins for a library: assumed of it is that it decides like
this, that an event has the path of its module as its target and its text as its one field, and that a line is written
as it is but for characters that could steer a terminal.
-/

namespace SymbolRules

/-- How urgent a level is, from zero. -/
def Level.rank : Level → Nat
  | .error => 0
  | .warn => 1
  | .info => 2
  | .debug => 3
  | .trace => 4

namespace LogFilter

/-- The one field that every event has. -/
def messageField : String := "message"

namespace Directive

/-- Whether a directive applies to an event. The target of the event begins with the one that is named, and
the event has the field. No event stands in a span or has a field whose value can be looked at. -/
def applies (d : Directive) (e : Event) : Bool :=
  d.target.all (·.toList.isPrefixOf (eventTarget e).toList) && d.span.isNone &&
    d.field.all fun f => f.name == messageField && f.value.isNone

/-- How specific a directive is: by the length of its target, then by whether it names a field. -/
def specificity (d : Directive) : Nat :=
  2 * (d.target.map (·.length + 1)).getD 0 + if d.field.isSome then 1 else 0

/-- Whether a level is within what a directive shows. -/
def admits (d : Directive) (level : Level) : Bool :=
  d.limit.any (level.rank ≤ ·.rank)

end Directive

/-- The most specific of some directives, the last of equals. -/
def mostSpecific? (directives : List Directive) : Option Directive :=
  directives.foldl (fun best d =>
    if best.any (d.specificity < ·.specificity) then best else some d) none

/-- Whether directives show an event. -/
def shows (directives : List Directive) (e : Event) : Bool :=
  (mostSpecific? (directives.filter (·.applies e))).any (·.admits e.level)

/-- A character as a log shows it: those that could steer a terminal are spelled out. -/
def showChar (c : Char) : List Char :=
  if c = '\x1b' then "\\x1b".toList
  else if c = '\x07' then "\\x07".toList
  else if c = '\x08' then "\\x08".toList
  else if c = '\x0c' then "\\x0c".toList
  else if c = '\x7f' then "\\x7f".toList
  else if 0x80 ≤ c.toNat ∧ c.toNat ≤ 0x9F then
    ['\\', 'u', '\x7b'] ++ Nat.toDigits 16 c.toNat ++ ['\x7d']
  else [c]

/-- A line as a log shows it. -/
def showLine (line : String) : String :=
  String.ofList (line.toList.flatMap showChar)

end LogFilter

end SymbolRules
