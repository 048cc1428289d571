import SymbolRules.Rule
import SymbolRules.Settings

/-!
# Events

What the library reports about its work, as data: each event has a level and a message. How long a
compilation took is not observed, and `#` holds its place in the message.
-/

namespace SymbolRules

/-- Counts taken while a rule text is compiled. -/
structure Stats where
  /-- All segments, empty ones included. -/
  segments : Nat
  /-- The segments that became rules. -/
  kept : Nat
  /-- The empty segments. -/
  dropped : Nat
  /-- The rules with a wildcard. -/
  withWildcard : Nat
deriving DecidableEq, Repr

/-- How much detail an event belongs to, most urgent first. -/
inductive Level where
  | error
  | warn
  | info
  | debug
  | trace
deriving DecidableEq, Repr

/-- The word that a log line begins with. -/
def Level.label : Level → String
  | .error => "ERROR"
  | .warn => "WARN"
  | .info => "INFO"
  | .debug => "DEBUG"
  | .trace => "TRACE"

/-- A report. -/
inductive Event where
  /-- A rule text was compiled. -/
  | compiled (stats : Stats) (category : Category)
  /-- The rule at an index, as compiled. -/
  | listed (index : Nat) (rule : Rule)
  /-- A candidate is matched, first by this rule. -/
  | hit (candidate : String) (rule : Rule)
  /-- The installed rule set is in place. -/
  | ready (rules : Nat) (category : Category)
  /-- The command line has its rules, written one after another. -/
  | loaded (rules : String)
deriving DecidableEq

namespace Event

/-- Matches are traced, and all else is for debugging. -/
def level : Event → Level
  | .hit .. => .trace
  | .compiled .. | .listed .. | .ready .. | .loaded .. => .debug

/-- The text of a report. -/
def message : Event → String
  | .compiled stats category =>
    "规则编译完成，耗时#，分段" ++ toString stats.segments ++ "个、保留" ++ toString stats.kept
      ++ "条、丢弃空分段" ++ toString stats.dropped ++ "个、通配规则" ++ toString stats.withWildcard
      ++ "条，内存类别：" ++ category.name
  | .listed index rule =>
    "规则#" ++ toString index ++ "：" ++ rule.text ++ "（" ++ rule.kind.name ++ "）"
  | .hit candidate rule => "符号" ++ candidate ++ "命中规则" ++ rule.text
  | .ready rules category =>
    "全局匹配器已就绪，规则数：" ++ toString rules ++ "，内存类别：" ++ category.name
  | .loaded rules => "已加载规则：" ++ rules

/-- The log line of an event: its level and its message. -/
def line (e : Event) : String :=
  e.level.label ++ " " ++ e.message

end Event

end SymbolRules
