import SymbolRules.Environment
import SymbolRules.Error
import SymbolRules.Text.Lines

/-!
# Sources of rule text

A rule text comes from an environment variable or from a file. In a file every line is a segment, so a
line end is written as `,`.
-/

namespace SymbolRules

/-- The rule text in an environment variable; an empty value is a rule text. -/
def Environment.ruleText (env : Environment) (name : String) : Except Error String :=
  match env.lookup? name with
  | none => .error (.missingText ("环境变量" ++ name ++ "未设置"))
  | some value =>
    match Utf8.decode? value with
    | none => .error (.invalidText ("环境变量" ++ name ++ "不是合法UTF-8"))
    | some text => .ok text

/-- The text of a file whose bytes the system delivered or not. -/
def fileText (content : Except SystemError (List UInt8)) : Except SystemError String := do
  match Utf8.decode? (← content) with
  | none => throw .notUtf8
  | some text => return text

/-- The rule text that a text of lines stands for. -/
def joinLines (content : String) : String :=
  ",".intercalate (Lines.ofText content)

/-- The rule text in a file. -/
def fileRuleText (content : Except SystemError (List UInt8)) : Except Error String :=
  match fileText content with
  | .error cause => .error (.system cause)
  | .ok text => .ok (joinLines text)

end SymbolRules
