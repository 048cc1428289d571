import SymbolRules.Command.LogFilter.Field
import SymbolRules.Event
import SymbolRules.Text.Utf8

/-!
# Log directives

A directive sets the most detailed level that is shown of the events that it names. It is a level, or a
target with an optional span and field in brackets and an optional level: `warn`, `app::store=debug`,
`app[request{user}]=trace`. Without a level it asks for everything. A value holds directives between commas
and counts only if each of them can be read.

The program leaves this reading to a library. Assumed of it is what its documentation says of this form, and that a
directive whose parts would begin or end inside a character cannot be read, and does not stop the program.
-/

namespace SymbolRules.LogFilter

/-- The most detailed level that is shown, or `none` when nothing is. -/
abbrev Limit := Option Level

/-- One directive; what it does not name it does not restrict. -/
structure Directive where
  target : Option String
  span : Option String
  field : Option Field
  limit : Limit
deriving DecidableEq, Repr

/-- The limits by name, in order of detail. -/
def limits : List (String × Limit) :=
  [("off", none), ("error", some .error), ("warn", some .warn), ("info", some .info),
    ("debug", some .debug), ("trace", some .trace)]

/-- The number that decimal digits spell, with an optional plus sign in front. -/
def number? (word : List Char) : Option Nat :=
  let digits := if word.head? = some '+' then word.drop 1 else word
  if digits.isEmpty || digits.any (!·.isDigit) then none
  else some (digits.foldl (fun n c => n * 10 + (c.toNat - 0x30)) 0)

/-- The limit that a word names, in any case, or its number. -/
def limit? (word : List Char) : Option Limit :=
  match number? word with
  | some n => limits[n]?.map (·.2)
  | none => limits.lookup (String.ofList (word.map Char.toLower))

/-- The limit after an equals sign; nothing there asks for everything. -/
def attachedLimit? (word : List Char) : Option Limit :=
  if word.isEmpty then some (some .trace) else limit? word

/-- Whether a target can begin with this character. -/
def beginsTarget (c : Char) : Bool :=
  Text.isAlphanumeric c || c == '-' || c == ':' || c == '_'

/-- What stands in a text at the place that a part has after other parts, counted in bytes. A place inside a character,
which blanks of several bytes before a target can lead to, is assumed to make the directive unreadable. -/
def cut? (text before part : List Char) : Option (List Char) :=
  let size (cs : List Char) := (Utf8.encode (String.ofList cs)).length
  let bytes := (Utf8.encode (String.ofList text)).drop (size before)
  (Utf8.decode? (bytes.take (size part))).map String.toList

/-- The target of a directive that has a span or a field, if it names one. -/
def target? (piece head : List Char) : Option (Option String) :=
  if head.isEmpty then some none else (cut? piece [] head).map fun target => some (String.ofList target)

/-- The span and the field of a directive, by what stands before the opening bracket and after it, with what
follows the closing one. A field without a span leaves the span open. -/
def brackets? (piece head cs : List Char) : Option (Option String × Option Field × List Char) := do
  let inName (c : Char) := c ≠ ']' && c ≠ '{'
  let name := cs.takeWhile inName
  let before := head ++ ['[']
  let span := String.ofList (← cut? piece before name)
  match cs.drop name.length with
  | ']' :: tail => return (some span, none, tail)
  | '{' :: rest =>
    let text := rest.takeWhile (· ≠ '}')
    match rest.drop text.length with
    | '}' :: ']' :: tail =>
      let field ← field? (← cut? piece (before ++ name ++ ['{']) text)
      return (if name.isEmpty then none else some span, some field, tail)
    | _ => none
  | _ => none

/-- The directive that a piece without commas spells. Its parts are found without the blanks around it, and
are what stands at the same places of the whole piece. So a word with blanks names a target and no level, and
a level with blanks, or after a target with blanks, is none. -/
def directive? (piece : List Char) : Option Directive :=
  let body := Text.trim piece
  let attached? (word : List Char) := if body = piece then attachedLimit? word else none
  if body.head?.all fun c => c ≠ '[' && !beginsTarget c then none
  else
    let head := body.takeWhile fun c => c ≠ '=' && c ≠ '['
    match body.drop head.length with
    | [] =>
      match limit? piece with
      | some limit => some ⟨none, none, none, limit⟩
      | none => some ⟨some (String.ofList piece), none, none, some .trace⟩
    | '=' :: word => (attached? word).map fun limit => ⟨some (String.ofList head), none, none, limit⟩
    | _ :: rest => do
      let target ← target? piece head
      let (span, field, tail) ← brackets? piece head rest
      match tail with
      | [] => return ⟨target, span, field, some .trace⟩
      | '=' :: word => return ⟨target, span, field, ← attached? word⟩
      | _ => none

/-- The directives of a value, if every one of them can be read. -/
def directives? (value : String) : Option (List Directive) :=
  ((value.toList.splitOn ',').filter (!·.isEmpty)).mapM directive?

end SymbolRules.LogFilter
