import SymbolRules.Proofs.Result
import SymbolRules.Proofs.Text.Lines
import SymbolRules.Source

/-!
# Rule text from files

A file has a rule text exactly when the system delivers the bytes of a text (`fileRuleText_eq_ok_iff`). The
lines are joined with `,`, which comes to writing `,` for every line end (`commaForLineEnds_eq`), but for a
line end that closes the text: no line follows it.
-/

namespace SymbolRules

/-! ## Files -/

section File

variable {content : Except SystemError (List UInt8)} {text : String}

/-- A file has a text when the system delivers the bytes of one. -/
theorem fileText_eq_ok_iff : fileText content = .ok text ↔ content = .ok (Utf8.encode text) := by
  cases content with
  | error cause => exact iff_of_false nofun nofun
  | ok bs =>
    rw [Except.ok.injEq, ← Utf8.decode?_eq_some_iff]
    simp only [fileText, bind, Except.bind]
    cases Utf8.decode? bs with
    | none => exact iff_of_false nofun nofun
    | some given =>
      show Except.ok given = Except.ok text ↔ _
      rw [Except.ok.injEq, Option.some.injEq]

theorem fileRuleText_eq_ok_iff :
    fileRuleText content = .ok text ↔ ∃ written, content = .ok (Utf8.encode written) ∧ joinLines written = text := by
  simp only [← fileText_eq_ok_iff, fileRuleText]
  cases fileText content <;> simp

/-- A file that holds a text gives its lines, joined. -/
theorem fileRuleText_encode (written : String) : fileRuleText (.ok (Utf8.encode written)) = .ok (joinLines written) :=
  fileRuleText_eq_ok_iff.2 ⟨written, rfl, rfl⟩

/-- Bytes that are no text are refused as such. -/
theorem fileRuleText_of_not_text {bs : List UInt8} (h : Utf8.decode? bs = none) :
    fileRuleText (.ok bs) = .error (.system .notUtf8) := by
  simp only [fileRuleText, fileText, bind, Except.bind, h]
  rfl

end File

/-! ## Line ends -/

/-- The characters with `,` for every carriage return that a line feed follows, and for this line feed. -/
def commaForReturns : List Char → List Char
  | '\r' :: '\n' :: rest => ',' :: commaForReturns rest
  | c :: rest => c :: commaForReturns rest
  | [] => []

/-- The characters with `,` for every `\r\n`, and then for every line feed that is left. -/
def commaForEnds (cs : List Char) : List Char :=
  (commaForReturns cs).map fun c => if c = '\n' then ',' else c

/-- A text with `,` for every `\r\n`, and then for every `\n` that is left. -/
def commaForLineEnds (text : String) : String :=
  String.ofList (commaForEnds text.toList)

open Pieces Lines

variable {c : Char} {run rest : List Char}

/-- A character stays unless it is a line feed or stands before one. -/
theorem commaForEnds_cons (hc : c ≠ '\n') (next : rest.head? ≠ some '\n') :
    commaForEnds (c :: rest) = c :: commaForEnds rest := by
  have kept : commaForReturns (c :: rest) = c :: commaForReturns rest := by
    rw [commaForReturns]
    rintro below - rfl
    exact next rfl
  rw [commaForEnds, kept, List.map_cons, if_neg hc, commaForEnds]

/-- A line feed goes together with a carriage return before it, and with nothing else. -/
theorem commaForEnds_feed (c : Char) (hc : c ≠ '\n') (rest : List Char) :
    commaForEnds (c :: '\n' :: rest) = chomp '\r' [c] ++ ',' :: commaForEnds rest := by
  by_cases ret : c = '\r'
  · subst ret
    rfl
  · have kept : commaForReturns (c :: '\n' :: rest) = c :: '\n' :: commaForReturns rest := by
      rw [commaForReturns]
      · rfl
      · rintro _ he -
        exact ret he
    have line : chomp '\r' [c] = [c] := if_neg (by simpa using ret)
    rw [commaForEnds, kept, line, List.map_cons, if_neg hc]
    rfl

theorem commaForEnds_of_free (free : Free (· == '\n') run) : commaForEnds run = run := by
  induction run with
  | nil => rfl
  | cons c run ih =>
    have hc : c ≠ '\n' := ne_of_beq_false (free c List.mem_cons_self)
    have below : Free (· == '\n') run := fun x hx => free x (List.mem_cons_of_mem c hx)
    have next : run.head? ≠ some '\n' := by
      intro h
      exact absurd (below _ (List.mem_of_head? h)) (by decide)
    rw [commaForEnds_cons hc next, ih below]

/-- A line and its end become the line and `,`. -/
theorem commaForEnds_line (free : Free (· == '\n') run) (rest : List Char) :
    commaForEnds (run ++ '\n' :: rest) = chomp '\r' run ++ ',' :: commaForEnds rest := by
  induction run with
  | nil => rfl
  | cons c run ih =>
    have hc : c ≠ '\n' := ne_of_beq_false (free c List.mem_cons_self)
    have below : Free (· == '\n') run := fun x hx => free x (List.mem_cons_of_mem c hx)
    cases run with
    | nil => exact commaForEnds_feed c hc rest
    | cons d run =>
      have hd : d ≠ '\n' := ne_of_beq_false (below d List.mem_cons_self)
      have next : (d :: run ++ '\n' :: rest).head? ≠ some '\n' := fun h => hd (Option.some.inj h)
      rw [List.cons_append, commaForEnds_cons hc next, ih below, chomp_cons_cons, List.cons_append]

/-- Line ends written as `,`, and lines joined with `,`: a line end that closes the text is in the one and
not in the other. -/
theorem commaForEnds_eq (cs : List Char) :
    commaForEnds cs = [','].intercalate (split '\n' '\r' cs) ++ if cs.getLast? = some '\n' then [','] else [] := by
  induction cs using pieceInduction (· == '\n') with
  | last run free =>
    have last : run.getLast? ≠ some '\n' := by
      intro h
      exact absurd (free _ (List.mem_of_getLast? h)) (by decide)
    rw [commaForEnds_of_free free, split_of_free free, if_neg last, List.append_nil]
    cases run <;> simp
  | cons run d rest free hd ih =>
    obtain rfl := eq_of_beq hd
    rw [commaForEnds_line free, split_cons free, ih]
    cases rest with
    | nil => simp [split, Lines.split]
    | cons c rest =>
      obtain ⟨line, lines, hl⟩ := List.exists_cons_of_ne_nil (split_ne_nil (List.cons_ne_nil c rest))
      rw [hl, List.intercalate_cons_cons, List.getLast?_append_cons, List.getLast?_cons_cons]
      simp

theorem commaForLineEnds_eq (text : String) :
    commaForLineEnds text = joinLines text ++ if text.toList.getLast? = some '\n' then "," else "" := by
  have lines : (ofText text).map String.toList = split '\n' '\r' text.toList :=
    Function.LeftInverse.list_map (fun _ => String.toList_ofList) _
  rw [← String.toList_inj, commaForLineEnds, String.toList_ofList, commaForEnds_eq, String.toList_append, joinLines,
    String.toList_intercalate, lines]
  split <;> rfl

/-- No line feed is left in a rule text from a file. -/
theorem feed_not_mem_joinLines (text : String) : '\n' ∉ (joinLines text).toList := by
  intro h
  have mem : '\n' ∈ (commaForLineEnds text).toList := by
    rw [commaForLineEnds_eq, String.toList_append]
    exact List.mem_append_left _ h
  rw [commaForLineEnds, String.toList_ofList, commaForEnds, List.mem_map] at mem
  obtain ⟨c, -, hc⟩ := mem
  by_cases feed : c = '\n'
  · rw [if_pos feed] at hc
    cases hc
  · rw [if_neg feed] at hc
    exact feed hc

/-- A text is its own rule text just when it has no line feed. -/
theorem joinLines_eq_self_iff {text : String} : joinLines text = text ↔ '\n' ∉ text.toList := by
  constructor
  · intro same
    have left := feed_not_mem_joinLines text
    rwa [same] at left
  · intro h
    have last : text.toList.getLast? ≠ some '\n' := fun e => h (List.mem_of_getLast? e)
    have same := commaForLineEnds_eq text
    rw [commaForLineEnds, commaForEnds_of_free (free_beq_iff.2 h), String.ofList_toList, if_neg last,
      String.append_empty] at same
    exact same.symm

end SymbolRules
