import SymbolRules.Proofs.RuleSet.Union
import SymbolRules.Proofs.Source

/-!
# Rule sets from files

The rule text of a file is its text with `,` for every line end, but for one that closes it. What such a
line end would add is an empty segment, so it makes no rule and is seen in the counts alone.
-/

namespace SymbolRules.RuleSet

/-- A delimiter at the end adds an empty segment and no rule. -/
theorem rulesOf_append_comma (text : String) : rulesOf (text ++ ",") = rulesOf text := by
  have joined := rulesOf_append (a := text) (b := "") (d := ',') rfl
  have nothing : rulesOf "" = [] := rfl
  rw [nothing, List.append_nil, String.append_empty] at joined
  exact joined

theorem statsOf_append_comma (text : String) : statsOf (text ++ ",") = statsOf text + ⟨1, 0, 1, 0⟩ := by
  have joined := statsOf_append (a := text) (b := "") (d := ',') rfl
  rw [String.append_empty] at joined
  exact joined

/-- The rule text of a file and its text with `,` for every line end are the same, up to a `,` for a line end
that closes the text. -/
theorem commaForLineEnds_cases (content : String) :
    content.toList.getLast? ≠ some '\n' ∧ commaForLineEnds content = joinLines content ∨
      content.toList.getLast? = some '\n' ∧ commaForLineEnds content = joinLines content ++ "," := by
  rw [commaForLineEnds_eq]
  by_cases closed : content.toList.getLast? = some '\n'
  · exact .inr ⟨closed, by rw [if_pos closed]⟩
  · exact .inl ⟨closed, by rw [if_neg closed, String.append_empty]⟩

/-- **A line end in a rule file is a `,`.** The rules of a file that holds a text are those of the text with
`,` for every line end. So are the counts of rules; of segments, and of empty ones among them, the file has
one less when a line end closes the text. A file that holds no text is refused. -/
theorem line_end_is_comma :
    (∀ content : String, ∃ text, fileRuleText (.ok (Utf8.encode content)) = .ok text ∧
      (ofText text).rules = (ofText (commaForLineEnds content)).rules ∧
      (ofText text).stats.kept = (ofText (commaForLineEnds content)).stats.kept ∧
      (ofText text).stats.withWildcard = (ofText (commaForLineEnds content)).stats.withWildcard ∧
      (content.toList.getLast? ≠ some '\n' →
        (ofText text).stats.segments = (ofText (commaForLineEnds content)).stats.segments ∧
        (ofText text).stats.dropped = (ofText (commaForLineEnds content)).stats.dropped) ∧
      (content.toList.getLast? = some '\n' →
        (ofText text).stats.segments + 1 = (ofText (commaForLineEnds content)).stats.segments ∧
        (ofText text).stats.dropped + 1 = (ofText (commaForLineEnds content)).stats.dropped)) ∧
    ∀ bs : List UInt8, (∀ content, bs ≠ Utf8.encode content) →
      fileRuleText (.ok bs) = .error (.system .notUtf8) := by
  constructor
  · intro content
    refine ⟨joinLines content, fileRuleText_eq_ok_iff.2 ⟨content, rfl, rfl⟩, ?_⟩
    rcases commaForLineEnds_cases content with ⟨unclosed, same⟩ | ⟨closed, longer⟩
    · rw [same]
      exact ⟨rfl, rfl, rfl, fun _ => ⟨rfl, rfl⟩, fun h => absurd h unclosed⟩
    · have rules : (ofText (joinLines content ++ ",")).rules = (ofText (joinLines content)).rules := by
        rw [rules_ofText, rules_ofText, rulesOf_append_comma]
      have stats : (ofText (joinLines content ++ ",")).stats = (ofText (joinLines content)).stats + ⟨1, 0, 1, 0⟩ := by
        rw [stats_ofText, stats_ofText, statsOf_append_comma]
      rw [longer, rules, stats]
      generalize (ofText (joinLines content)).stats = counts
      exact ⟨rfl, rfl, rfl, fun h => absurd closed h, fun _ => ⟨rfl, rfl⟩⟩
  · intro bs notText
    exact fileRuleText_of_not_text (Utf8.decode?_eq_none_iff.2 notText)

/-- Both line ends, an empty line, and a carriage return that stays, closed by a line end; and bytes that are
no text. -/
theorem line_end_is_comma_mixed :
    commaForLineEnds "a\r\n\nb\r\r\n;c*\n" = "a,,b\r,;c*," ∧
    (∃ text, fileRuleText (.ok (Utf8.encode "a\r\n\nb\r\r\n;c*\n")) = .ok text ∧
      (ofText text).rules = (ofText "a,,b\r,;c*,").rules ∧ (ofText text).stats.segments + 1 = 6) ∧
    fileRuleText (.ok [0x61, 0x0A, 0xFF]) = .error (.system .notUtf8) := by
  have written : commaForLineEnds "a\r\n\nb\r\r\n;c*\n" = "a,,b\r,;c*," := by decide
  refine ⟨written, ?_, ?_⟩
  · obtain ⟨text, read, rules, -, -, -, fewer⟩ := line_end_is_comma.1 "a\r\n\nb\r\r\n;c*\n"
    rw [written] at rules fewer
    have segments : (ofText "a,,b\r,;c*,").stats.segments = 6 := by decide
    exact ⟨text, read, rules, segments ▸ (fewer (by decide)).1⟩
  · have unreadable : Utf8.decode? [0x61, 0x0A, 0xFF] = none := by decide
    exact line_end_is_comma.2 _ (Utf8.decode?_eq_none_iff.1 unreadable)

end SymbolRules.RuleSet
