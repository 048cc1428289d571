import SymbolRules.Event
import SymbolRules.Proofs.Rule.Lengths

/-!
# The lines of a log

How each report reads: the word of its level, and then its text with what it is about. A rule is listed with the word
for its kind, which its text alone decides (`Rule.name_kind`).
-/

namespace SymbolRules.Event

theorem line_of_debug {e : Event} (h : e.level = .debug) : e.line = "DEBUG " ++ e.message := by
  have word : Level.debug.label ++ " " = "DEBUG " := by decide
  rw [line, h, word]

theorem line_of_trace {e : Event} (h : e.level = .trace) : e.line = "TRACE " ++ e.message := by
  have word : Level.trace.label ++ " " = "TRACE " := by decide
  rw [line, h, word]

theorem line_compiled (stats : Stats) (category : Category) : (compiled stats category).line =
    "DEBUG " ++ ("规则编译完成，耗时#，分段" ++ toString stats.segments ++ "个、保留" ++ toString stats.kept ++
      "条、丢弃空分段" ++ toString stats.dropped ++ "个、通配规则" ++ toString stats.withWildcard ++
      "条，内存类别：" ++ category.name) :=
  line_of_debug (e := .compiled stats category) rfl

theorem line_listed (i : Nat) (r : Rule) : (listed i r).line =
    "DEBUG " ++ ("规则#" ++ toString i ++ "：" ++ r.text ++ "（" ++ Rule.kindWord r.text ++ "）") := by
  rw [← Rule.name_kind]
  exact line_of_debug (e := .listed i r) rfl

theorem line_hit (candidate : String) (r : Rule) :
    (hit candidate r).line = "TRACE " ++ ("符号" ++ candidate ++ "命中规则" ++ r.text) :=
  line_of_trace (e := .hit candidate r) rfl

theorem line_ready (rules : Nat) (category : Category) : (ready rules category).line =
    "DEBUG " ++ ("全局匹配器已就绪，规则数：" ++ toString rules ++ "，内存类别：" ++ category.name) :=
  line_of_debug (e := .ready rules category) rfl

theorem line_loaded (rules : String) : (loaded rules).line = "DEBUG " ++ ("已加载规则：" ++ rules) :=
  line_of_debug (e := .loaded rules) rfl

end SymbolRules.Event
