import SymbolRules.Proofs.Command.StandardInput
import SymbolRules.Proofs.Text.WrittenLines

/-!
# Candidates written into a file

A list of candidates can be written into a file in many ways. However it is written, the candidates gathered are
those among the arguments, as they stand, and then those of the list.
-/

namespace SymbolRules.Command

open Lines (Plain Written)

/-- **The candidates gathered are those written.** Let a file hold a text of lines, each with either end, with blank
lines anywhere, and with or without an end of the last line. Then the candidates are those among the arguments and
after them the lines, in order and with none lost, whether the text stands in a file or on standard input; and no
other text gives these candidates. -/
theorem gatherCandidates_written_iff (inv : Invocation) (host : Host) (path : List UInt8) (text : String)
    (lines : List String) (other : path ≠ [dash]) (holds : host.fileAt path = .ok (Utf8.encode text))
    (plain : ∀ l ∈ lines, Plain l ∧ l ≠ "") :
    (gatherCandidates (inv.fromFile path) host = .ok (inv.candidates ++ lines) ↔ Written lines text) ∧
    (gatherCandidates inv.fromStdin (host.withStdin (Utf8.encode text)) = .ok (inv.candidates ++ lines) ↔
      Written lines text) := by
  have stdin : gatherCandidates inv.fromStdin (host.withStdin (Utf8.encode text)) = .ok (inv.candidates ++ lines) ↔
      Written lines text := by
    rw [gatherCandidates_fromStdin_iff, ← Lines.filter_ofText_eq_iff plain]
    constructor
    · rintro ⟨read, same, gathered⟩
      obtain rfl := Utf8.encode_injective same
      exact List.append_cancel_left gathered
    · intro read
      exact ⟨text, rfl, by rw [read]⟩
  refine ⟨?_, stdin⟩
  rw [← stdin]
  exact gatherCandidates_fromFile_iff other holds host.stdin

/-- Where a file holds the given text. -/
def fileHost (text : String) : Host :=
  { sampleHost [] with fileAt := fun _ => .ok (Utf8.encode text) }

/-- Both ends, blank lines before and between, a carriage return and blanks inside lines, and no last end. -/
theorem gatherCandidates_written_mixed :
    ([0x66] : List UInt8) ≠ [dash] ∧ (∀ l ∈ ["x\ry", "  "], Plain l ∧ l ≠ "") ∧
    Written ["x\ry", "  "] "\r\nx\ry\n\n  " ∧
    gatherCandidates (sample.fromFile [0x66]) (fileHost "\r\nx\ry\n\n  ") = .ok ["", "a/b", "x\ry", "  "] ∧
    gatherCandidates sample.fromStdin ((fileHost "\r\nx\ry\n\n  ").withStdin (Utf8.encode "\r\nx\ry\n\n  ")) =
      .ok ["", "a/b", "x\ry", "  "] := by
  have other : ([0x66] : List UInt8) ≠ [dash] := by decide
  have plain : ∀ l ∈ ["x\ry", "  "], Plain l ∧ l ≠ "" := by
    simp only [List.forall_mem_cons]
    exact ⟨⟨⟨by decide, by decide⟩, by decide⟩, ⟨⟨by decide, by decide⟩, by decide⟩, by simp⟩
  have written : Written ["x\ry", "  "] "\r\nx\ry\n\n  " := by
    have characters : "\r\n" ++ ("x\ry" ++ "\n" ++ ("\n" ++ "  ")) = "\r\nx\ry\n\n  " := by decide
    rw [← characters]
    exact .blank .returnFeed (.line "x\ry" .feed (.blank .feed (.last "  ")))
  obtain ⟨file, stdin⟩ := gatherCandidates_written_iff sample (fileHost "\r\nx\ry\n\n  ") [0x66] "\r\nx\ry\n\n  "
    ["x\ry", "  "] other rfl plain
  exact ⟨other, plain, written, file.2 written, stdin.2 written⟩

end SymbolRules.Command
