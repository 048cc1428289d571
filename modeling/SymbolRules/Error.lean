/-!
# Errors

What can go wrong outside matching, which itself never fails: the installed rule set, the sources of rule
text, and diagnostic output.
-/

namespace SymbolRules

/-- Why the system could not deliver a file. -/
inductive SystemError where
  | notFound
  | isDirectory
  | notDirectory
  | nameTooLong
  /-- The path holds a NUL character. -/
  | nulInPath
  /-- The content is not UTF-8. -/
  | notUtf8
  /-- Any other cause, in the system's words. -/
  | other (text : String)
deriving DecidableEq, Repr

/-- The system's words for a cause. -/
def SystemError.message : SystemError → String
  | .notFound => "No such file or directory (os error 2)"
  | .isDirectory => "Is a directory (os error 21)"
  | .notDirectory => "Not a directory (os error 20)"
  | .nameTooLong => "File name too long (os error 36)"
  | .nulInPath => "file name contained an unexpected NUL byte"
  | .notUtf8 => "stream did not contain valid UTF-8"
  | .other text => text

/-- What the library reports as an error. -/
inductive Error where
  /-- No rule set has been installed. -/
  | notInstalled
  /-- There is no rule text where it was looked for. -/
  | missingText (detail : String)
  /-- What stands for a rule text cannot be one. -/
  | invalidText (detail : String)
  /-- Diagnostic output could not be written, in the encoder's words. -/
  | encoding (cause : String)
  /-- The system failed. -/
  | system (cause : SystemError)
deriving DecidableEq, Repr

namespace Error

/-- The text of an error. -/
def message : Error → String
  | .notInstalled => "全局匹配器未初始化"
  | .missingText detail => "未找到匹配规则配置：" ++ detail
  | .invalidText detail => "匹配规则配置无效：" ++ detail
  | .encoding cause => "JSON序列化失败：" ++ cause
  | .system cause => "IO操作失败：" ++ cause.message

/-- The text of the error that this one passes on. -/
def source : Error → Option String
  | .encoding cause => some cause
  | .system cause => some cause.message
  | .notInstalled | .missingText _ | .invalidText _ => none

end Error

end SymbolRules
