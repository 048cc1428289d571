import SymbolRules.Command.LogFilter.Pattern

/-!
# Fields of log directives

A field asks for its name alone, or for a value: `user`, `id=5`, `path=a.*`. A value is a number or a
pattern; whatever is neither cannot be asked for.
-/

namespace SymbolRules.LogFilter

/-- A field that an event must have, with or without a value. -/
structure Field where
  name : String
  value : Option String
deriving DecidableEq, Repr

/-- Whether characters are decimal digits, at least one. -/
def isDigits (cs : List Char) : Bool :=
  !cs.isEmpty && cs.all Char.isDigit

/-- What follows a sign, if there is one. -/
def unsigned (cs : List Char) : List Char :=
  if cs.head? = some '+' ∨ cs.head? = some '-' then cs.drop 1 else cs

/-- Whether characters are nothing or an exponent of ten. -/
def isExponent : List Char → Bool
  | [] => true
  | e :: cs => (e == 'e' || e == 'E') && isDigits (unsigned cs)

/-- Whether a text is a decimal number: digits with or without a point and an exponent, or the name of what
is no finite number, in any case. -/
def isNumber (text : List Char) : Bool :=
  let cs := unsigned text
  let whole := cs.takeWhile Char.isDigit
  let rest := cs.drop whole.length
  let point := rest.head? = some '.'
  let part := if point then (rest.drop 1).takeWhile Char.isDigit else []
  let rest := if point then rest.drop (1 + part.length) else rest
  ["inf", "infinity", "nan"].contains (String.ofList (cs.map Char.toLower)) ||
    (isDigits (whole ++ part) && isExponent rest)

/-- A field by its name and what follows an equals sign, up to the next one. -/
def field? (text : List Char) : Option Field :=
  if text.isEmpty then none
  else
    let name := String.ofList (text.takeWhile (· ≠ '='))
    match text.dropWhile (· ≠ '=') with
    | [] => some ⟨name, none⟩
    | _ :: rest =>
      let value := rest.takeWhile (· ≠ '=')
      if isNumber value || isPattern value then some ⟨name, some (String.ofList value)⟩ else none

end SymbolRules.LogFilter
