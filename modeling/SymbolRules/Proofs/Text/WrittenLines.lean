import SymbolRules.Proofs.Text.Lines

/-!
# Lines as they are written

Lines can be written in many ways: each with either end, with blank lines anywhere, and the last one without an
end (`Written`). Reading and leaving out what is empty gives back the lines that were written, and every text is
written that way by the lines that are read from it (`filter_ofText_eq_iff`).
-/

namespace SymbolRules.Lines

open Pieces

/-- What may end a line. -/
inductive End where
  | feed
  | returnFeed

/-- The characters of an end. -/
def End.text : End → String
  | .feed => "\n"
  | .returnFeed => "\r\n"

/-- Lines written one after another. -/
inductive Written : List String → String → Prop where
  | nothing : Written [] ""
  | blank {lines : List String} {text : String} (e : End) (h : Written lines text) : Written lines (e.text ++ text)
  | line {lines : List String} {text : String} (l : String) (e : End) (h : Written lines text) :
    Written (l :: lines) (l ++ e.text ++ text)
  /-- The last line needs no end when nothing follows it. -/
  | last (l : String) : Written [l] l

/-- A line that an end written after it can be told from. -/
structure Plain (line : String) : Prop where
  noFeed : '\n' ∉ line.toList
  noReturn : line.toList.getLast? ≠ some '\r'

variable {line text : String} {lines : List String}

/-! ## One line -/

/-- A plain line is read back whatever its end is. -/
theorem ofText_line (plain : Plain line) (e : End) (text : String) :
    ofText (line ++ e.text ++ text) = line :: ofText text := by
  have free := free_beq_iff.2 plain.noFeed
  have kept : chomp '\r' line.toList = line.toList := chomp_of_getLast?_ne plain.noReturn
  cases e with
  | feed =>
    have characters : (line ++ End.feed.text ++ text).toList = line.toList ++ '\n' :: text.toList := by
      simp [End.text]
    rw [ofText, characters, split_cons free, kept, List.map_cons, String.ofList_toList, ofText]
  | returnFeed =>
    have characters :
        (line ++ End.returnFeed.text ++ text).toList = (line.toList ++ ['\r']) ++ '\n' :: text.toList := by
      simp [End.text]
    have longer : Free (· == '\n') (line.toList ++ ['\r']) := by
      rw [free_beq_iff]
      simpa using plain.noFeed
    rw [ofText, characters, split_cons longer, chomp_concat, List.map_cons, String.ofList_toList, ofText]

/-- A blank line is read as an empty one. -/
theorem ofText_blank (e : End) (text : String) : ofText (e.text ++ text) = "" :: ofText text := by
  have plain : Plain "" := ⟨by simp, by simp⟩
  have read := ofText_line plain e text
  rwa [String.empty_append] at read

/-- A plain line without an end is read as it is. -/
theorem ofText_last (plain : Plain line) (hne : line ≠ "") : ofText line = [line] := by
  rw [ofText, split_of_free (free_beq_iff.2 plain.noFeed)]
  simp [hne]

/-! ## All lines -/

/-- What is read from lines as they are written, but for the blank ones. -/
theorem Written.filter_ofText (h : Written lines text) (plain : ∀ l ∈ lines, Plain l ∧ l ≠ "") :
    (ofText text).filter (!·.isEmpty) = lines := by
  induction h with
  | nothing => rfl
  | blank e _ ih =>
    rw [ofText_blank, List.filter_cons_of_neg (by simp), ih plain]
  | line l e _ ih =>
    obtain ⟨⟨first, hne⟩, others⟩ := List.forall_mem_cons.1 plain
    rw [ofText_line first, List.filter_cons_of_pos (by simpa using hne), ih others]
  | last l =>
    obtain ⟨first, hne⟩ := plain l List.mem_cons_self
    rw [ofText_last first hne, List.filter_cons_of_pos (by simpa using hne), List.filter_nil]

/-- A piece before a line feed is a line and its end, and a blank line when nothing else is in it. -/
theorem Written.cons_piece (h : Written lines text) (piece : List Char) :
    Written ([String.ofList (chomp '\r' piece)].filter (!·.isEmpty) ++ lines)
      (String.ofList (piece ++ '\n' :: text.toList)) := by
  obtain ⟨e, characters⟩ : ∃ e : End,
      String.ofList (piece ++ '\n' :: text.toList) = String.ofList (chomp '\r' piece) ++ e.text ++ text := by
    rcases chomp_eq_or '\r' piece with same | longer
    · refine ⟨.feed, ?_⟩
      rw [← same, ← String.toList_inj]
      simp [End.text]
    · refine ⟨.returnFeed, ?_⟩
      conv_lhs => rw [longer]
      rw [← String.toList_inj]
      simp [End.text]
  rw [characters]
  by_cases hne : chomp '\r' piece = []
  · rw [hne]
    exact h.blank e
  · rw [List.filter_cons_of_pos (by simpa using hne)]
    exact h.line (String.ofList (chomp '\r' piece)) e

/-- Every text is its nonempty lines, written one after another. -/
theorem written_ofText (text : String) : Written ((ofText text).filter (!·.isEmpty)) text := by
  suffices h : ∀ cs : List Char,
      Written (((split '\n' '\r' cs).map String.ofList).filter (!·.isEmpty)) (String.ofList cs) by
    have written := h text.toList
    rwa [String.ofList_toList] at written
  intro cs
  induction cs using pieceInduction (· == '\n') with
  | last run free =>
    rw [split_of_free free]
    by_cases hne : run = []
    · subst hne
      exact .nothing
    · simpa [hne] using Written.last (String.ofList run)
  | cons run d rest free hd ih =>
    obtain rfl := eq_of_beq hd
    have first := ih.cons_piece run
    rw [String.toList_ofList, ← List.filter_append] at first
    rw [split_cons free]
    exact first

/-- **The lines read are the lines written**, as long as each can be told from its end. -/
theorem filter_ofText_eq_iff (plain : ∀ l ∈ lines, Plain l ∧ l ≠ "") :
    (ofText text).filter (!·.isEmpty) = lines ↔ Written lines text := by
  constructor
  · rintro rfl
    exact written_ofText text
  · intro h
    exact h.filter_ofText plain

end SymbolRules.Lines
