import SymbolRules.Proofs.Result
import SymbolRules.Proofs.Segment

/-!
# Splitting by a scan of bytes

A rule text can be split by a scan that visits its byte positions from left to right and one position more for the
end of the text, and cuts a segment off at every delimiter and at that end. `Kept` is what each visit preserves: what
lies between the beginning of the current segment and the position holds no delimiter, and the segments cut off so
far are the first ones. So the scan ends with the segments (`Scan.ofText?_eq`), and cuts no character in two although
it looks at bytes alone. There is no other way to write a text as segments between its own delimiters
(`segments_unique`).
-/

namespace SymbolRules

open Pieces

/-- A scan under way: where the current segment begins, and the segments cut off so far. -/
structure Scan where
  start : Nat
  done : List (List UInt8)

namespace Scan

/-- Whether a segment ends before a position: a delimiter stands there, or the text has ended. -/
def closes (bytes : List UInt8) (i : Nat) : Bool :=
  bytes[i]?.all isDelimiterByte

/-- Visits a position. -/
def visit (bytes : List UInt8) (s : Scan) (i : Nat) : Scan :=
  if closes bytes i then ⟨i + 1, s.done ++ [bytes.extract s.start i]⟩ else s

/-- Visits the first positions, from left to right. -/
def upTo (bytes : List UInt8) (n : Nat) : Scan :=
  (List.range n).foldl (visit bytes) ⟨0, []⟩

/-- The segments of a rule text by a scan of its bytes: one position for each byte, and one for the end. -/
def ofText? (text : String) : Option (List String) :=
  (upTo (Utf8.encode text) ((Utf8.encode text).length + 1)).done.mapM Utf8.decode?

/-- What a scan that has come to a position preserves. -/
structure Kept (bytes : List UInt8) (i : Nat) (s : Scan) : Prop where
  start_le : s.start ≤ i
  free : Free isDelimiterByte (bytes.extract s.start i)
  split : bytes.splitOnP isDelimiterByte = s.done ++ (bytes.drop s.start).splitOnP isDelimiterByte

variable {bytes : List UInt8} {s : Scan} {i : Nat}

theorem upTo_succ (bytes : List UInt8) (n : Nat) : upTo bytes (n + 1) = visit bytes (upTo bytes n) n := by
  rw [upTo, List.range_succ, List.foldl_append]
  rfl

/-! ## One position -/

/-- From a position on there are the bytes up to another position, and those from there on. -/
theorem drop_eq_extract_append {k : Nat} (h : k ≤ i) : bytes.drop k = bytes.extract k i ++ bytes.drop i := by
  rw [List.extract_eq_take_drop]
  conv_lhs => rw [← List.take_append_drop (i - k) (bytes.drop k), List.drop_drop]
  rw [Nat.add_sub_cancel' h]

theorem extract_succ {k : Nat} (h : k ≤ i) (hi : i < bytes.length) :
    bytes.extract k (i + 1) = bytes.extract k i ++ [bytes[i]] := by
  rw [List.extract_eq_take_drop, List.extract_eq_take_drop, Nat.sub_add_comm h, List.take_add_one, List.getElem?_drop,
    Nat.add_sub_cancel' h, List.getElem?_eq_getElem hi]
  rfl

theorem kept_start (bytes : List UInt8) : Kept bytes 0 ⟨0, []⟩ where
  start_le := Nat.le_refl 0
  free := by simp [Free]
  split := rfl

/-- At a delimiter the current segment is cut off, and the next one begins after it. -/
theorem Kept.cut (h : Kept bytes i s) (hi : i < bytes.length) (hd : isDelimiterByte bytes[i] = true) :
    Kept bytes (i + 1) ⟨i + 1, s.done ++ [bytes.extract s.start i]⟩ where
  start_le := Nat.le_refl _
  free := by simp [Free]
  split := by
    rw [h.split, drop_eq_extract_append h.start_le, List.drop_eq_getElem_cons hi, splitOnP_cons_run h.free hd,
      List.append_assoc]
    rfl

/-- Another byte goes to the current segment. -/
theorem Kept.pass (h : Kept bytes i s) (hi : i < bytes.length) (hd : isDelimiterByte bytes[i] = false) :
    Kept bytes (i + 1) s where
  start_le := Nat.le_succ_of_le h.start_le
  free := by
    have free := h.free
    simp only [Free] at free
    rw [extract_succ h.start_le hi]
    simpa [Free, or_imp, forall_and, hd] using free
  split := h.split

theorem Kept.visit (h : Kept bytes i s) (hi : i < bytes.length) : Kept bytes (i + 1) (s.visit bytes i) := by
  have looks : closes bytes i = isDelimiterByte bytes[i] := by
    rw [closes, List.getElem?_eq_getElem hi, Option.all_some]
  rw [Scan.visit, looks]
  cases hd : isDelimiterByte bytes[i] with
  | true => exact h.cut hi hd
  | false => exact h.pass hi hd

/-! ## All positions -/

theorem kept_upTo (hi : i ≤ bytes.length) : Kept bytes i (upTo bytes i) := by
  induction i with
  | zero => exact kept_start bytes
  | succ i ih =>
    rw [upTo_succ]
    exact (ih (Nat.le_of_succ_le hi)).visit hi

/-- The position after the last byte closes the last segment, and the scan has cut off all of them. -/
theorem done_upTo (bytes : List UInt8) :
    (upTo bytes (bytes.length + 1)).done = bytes.splitOnP isDelimiterByte := by
  have h := kept_upTo (Nat.le_refl bytes.length)
  -- no byte stands at the position after the last one, so the visit there cuts whatever is left
  have ended : closes bytes bytes.length = true := by
    rw [closes, List.getElem?_eq_none (Nat.le_refl _), Option.all_none]
  have last : bytes.drop (upTo bytes bytes.length).start =
      bytes.extract (upTo bytes bytes.length).start bytes.length := by
    rw [drop_eq_extract_append h.start_le, List.drop_length, List.append_nil]
  rw [upTo_succ, visit, if_pos ended, h.split, last, splitOnP_of_free h.free]

/-- The scan of bytes ends with the segments: it looks at bytes alone and cuts no character in two. -/
theorem ofText?_eq (text : String) : ofText? text = some (segments text) := by
  rw [ofText?, done_upTo, ← map_encode_segments, mapM_map_eq_some Utf8.decode?_encode, List.map_id']

end Scan

/-- **Splitting loses and invents nothing.** The segments of a rule text are the only texts that hold no delimiter,
are one more than its delimiters, and give its bytes back when its delimiters are written between them in order. A
scan of the bytes from left to right, for which the end of the text is a last delimiter, ends with the same texts. -/
theorem segments_unique (text : String) :
    (∀ parts : List String, parts = segments text ↔
      (∀ part ∈ parts, ',' ∉ part.toList ∧ ';' ∉ part.toList) ∧
      parts.length = text.toList.count ',' + text.toList.count ';' + 1 ∧
      weave (parts.map Utf8.encode) ((Utf8.encode text).filter isDelimiterByte) = Utf8.encode text) ∧
    Scan.ofText? text = some (segments text) := by
  refine ⟨fun parts => ?_, Scan.ofText?_eq text⟩
  simp only [← free_isDelimiter_iff, ← segmentCount_eq]
  exact eq_segments_iff

/-- Empty segments at both ends and in the middle, and a character of three bytes beside a delimiter. -/
theorem segments_unique_edges :
    ["", "a", "", "类", ""] = segments ",a;;类," ∧ Scan.ofText? ",a;;类," = some ["", "a", "", "类", ""] := by
  obtain ⟨unique, scanned⟩ := segments_unique ",a;;类,"
  have parts : ["", "a", "", "类", ""] = segments ",a;;类," := (unique _).2 ⟨by decide, by decide, by decide⟩
  exact ⟨parts, parts ▸ scanned⟩

end SymbolRules
