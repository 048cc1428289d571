import SymbolRules.Proofs.RuleSet.NormalForm
import SymbolRules.Proofs.Source

/-!
# Rule sets saved to a file

The text of a rule set is written to a file and read again. It comes back as it was when no rule holds a line feed,
and only then (`load_text_iff`). Rules that come from a file hold none, as the text that is read from a file holds
none, so loading, saving and loading again settles after the first time.
-/

namespace SymbolRules.RuleSet

open Pieces

/-- The text of a rule set holds a line feed just when one of its rules does. -/
theorem feed_not_mem_text_iff {set : RuleSet} :
    '\n' ∉ set.text.toList ↔ ∀ r ∈ set.rules, '\n' ∉ r.text.toList := by
  rw [text, String.toList_intercalate, ← free_beq_iff]
  show Free _ ([','].intercalate _) ↔ _
  rw [free_intercalate_iff (p := (· == '\n')) rfl]
  simp only [List.map_map, List.forall_mem_map, Function.comp_apply, free_beq_iff]

/-- **A rule set is loaded as it was saved** just when no rule holds a line feed. -/
theorem load_text_iff {set : RuleSet} :
    fileRuleText (.ok (Utf8.encode set.text)) = .ok set.text ↔ ∀ r ∈ set.rules, '\n' ∉ r.text.toList := by
  rw [fileRuleText_encode, Except.ok.injEq, joinLines_eq_self_iff, feed_not_mem_text_iff]

/-- A rule holds no line feed when the text that it comes from holds none. -/
theorem feed_not_mem_of_mem_rulesOf {text : String} (h : '\n' ∉ text.toList) {r : Rule} (hr : r ∈ rulesOf text) :
    '\n' ∉ r.text.toList := by
  intro feed
  exact h (mem_of_mem_segments (mem_rulesOf_iff.1 hr) feed)

/-- Rules that come from a text without line feeds are loaded as they were saved. -/
theorem load_build_text {text : String} (h : '\n' ∉ text.toList) (settings : Settings) :
    fileRuleText (.ok (Utf8.encode (build text settings).value.text)) = .ok (build text settings).value.text := by
  apply load_text_iff.2
  intro r hr
  exact feed_not_mem_of_mem_rulesOf h hr

/-- The text of a rule set makes its rules again, whatever the settings are. -/
theorem rules_build_text {set : RuleSet} (h : Obtained set) (settings : Settings) :
    (build set.text settings).value.rules = set.rules :=
  rulesOf_intercalate h.free

/-- **Rule files have a stable normal form.** The rule text of a file that holds text has no line feed, and a file
that holds this rule text gives it again. So does a file that holds the text of the rule set: it is loaded as it
stands, and the rules are the same, whatever the settings are. -/
theorem rule_file_normal_form (bs : List UInt8) (content : String) (valid : Utf8.decode? bs = some content) :
    ∃ text, fileRuleText (.ok bs) = .ok text ∧ '\n' ∉ text.toList ∧
      fileRuleText (.ok (Utf8.encode text)) = .ok text ∧
      ∀ settings other : Settings,
        fileRuleText (.ok (Utf8.encode (build text settings).value.text)) = .ok (build text settings).value.text ∧
        (build (build text settings).value.text other).value.rules = (build text settings).value.rules := by
  obtain rfl := Utf8.decode?_eq_some_iff.1 valid
  have settled := feed_not_mem_joinLines content
  refine ⟨joinLines content, fileRuleText_encode content, settled, ?_, ?_⟩
  · rw [fileRuleText_encode, joinLines_eq_self_iff.2 settled]
  · intro settings other
    constructor
    · exact load_build_text settled settings
    · exact rules_build_text (.compiled (joinLines content) settings) other

/-- A rule that ends with a carriage return becomes the end of the saved file, after an empty line and one that
holds nothing but delimiters. -/
theorem rule_file_normal_form_return :
    Utf8.decode? (Utf8.encode "a*\r\n\n;,\nb\r\r\n") = some "a*\r\n\n;,\nb\r\r\n" ∧
    ∃ text, fileRuleText (.ok (Utf8.encode "a*\r\n\n;,\nb\r\r\n")) = .ok text ∧ text = "a*,,;,,b\r" ∧
      (build text {}).value.text = "a*,b\r" ∧ fileRuleText (.ok (Utf8.encode "a*,b\r")) = .ok "a*,b\r" := by
  have valid := Utf8.decode?_encode "a*\r\n\n;,\nb\r\r\n"
  obtain ⟨text, loaded, -, -, saved⟩ := rule_file_normal_form _ _ valid
  have read : text = "a*,,;,,b\r" := by
    rw [fileRuleText_encode] at loaded
    rw [← Except.ok.inj loaded]
    decide
  subst read
  have written : (build "a*,,;,,b\r" {}).value.text = "a*,b\r" := by decide
  exact ⟨valid, _, loaded, rfl, written, written ▸ (saved {} {}).1⟩

end SymbolRules.RuleSet
