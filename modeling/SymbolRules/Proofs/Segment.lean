import SymbolRules.Proofs.Text.Decoding
import SymbolRules.Segment

/-!
# Segments as pieces

The segments of a rule text hold no delimiter, are the maximal runs between delimiters also when the
text is looked at as bytes (`mem_segments_iff`), and come back from a text in which they are joined
(`segments_intercalate`). With the delimiters of the text between them they are the text, and nothing else
is (`eq_segments_iff`).
-/

namespace SymbolRules

open Pieces

/-- The bytes that stand between segments. -/
def isDelimiterByte (b : UInt8) : Bool :=
  b == 0x2C || b == 0x3B

theorem spells_delimiter : Utf8.Spells isDelimiterByte isDelimiter := by
  refine .of_ascii (by decide) (fun b hb => ?_) fun c hc => ?_
  · simp only [isDelimiterByte, Bool.or_eq_true, beq_iff_eq] at hb
    rcases hb with rfl | rfl <;> decide
  · simp only [isDelimiter, Bool.or_eq_true, beq_iff_eq] at hc
    rcases hc with rfl | rfl <;> decide

theorem free_isDelimiter_iff {cs : List Char} : Free isDelimiter cs ↔ ',' ∉ cs ∧ ';' ∉ cs := by
  simp only [Free, isDelimiter, Bool.or_eq_false_iff, beq_eq_false_iff_ne, ne_eq, forall_and]
  grind

theorem map_toList_segments (text : String) :
    (segments text).map String.toList = text.toList.splitOnP isDelimiter := by
  rw [segments]
  exact Function.LeftInverse.list_map (fun _ => String.toList_ofList) _

/-- Splitting the bytes of a text gives the bytes of its segments. -/
theorem map_encode_segments (text : String) :
    (segments text).map Utf8.encode = (Utf8.encode text).splitOnP isDelimiterByte := by
  rw [Utf8.encode, spells_delimiter.splitOnP_flatMap, segments, List.map_map]
  apply List.map_congr_left
  intro cs _
  exact Utf8.encode_ofList cs

theorem toList_mem_splitOnP {text segment : String} (h : segment ∈ segments text) :
    segment.toList ∈ text.toList.splitOnP isDelimiter := by
  rw [← map_toList_segments]
  exact List.mem_map_of_mem h

theorem free_of_mem_segments {text segment : String} (h : segment ∈ segments text) :
    Free isDelimiter segment.toList :=
  free_of_mem_splitOnP (toList_mem_splitOnP h)

/-- A segment holds no character that the text does not. -/
theorem mem_of_mem_segments {text segment : String} (h : segment ∈ segments text) {c : Char}
    (hc : c ∈ segment.toList) : c ∈ text.toList := by
  obtain ⟨before, after, split, -⟩ := mem_splitOnP_iff.1 (toList_mem_splitOnP h)
  rw [split]
  exact List.mem_append_left _ (List.mem_append_right _ hc)

/-- The bytes of the segments are the maximal runs of the bytes of the text. -/
theorem mem_segments_iff {text : String} {run : List UInt8} :
    (∃ segment ∈ segments text, Utf8.encode segment = run) ↔
      MaximalRun isDelimiterByte (Utf8.encode text) run := by
  rw [← mem_splitOnP_iff, ← map_encode_segments, List.mem_map]

/-! ## How many segments -/

/-- Counting the delimiters agrees with splitting at them. -/
theorem length_segments (text : String) : (segments text).length = segmentCount text := by
  rw [segments, List.length_map, length_splitOnP, segmentCount, List.countP_eq_length_filter]

/-- The delimiters are counted one by one. -/
theorem segmentCount_eq (text : String) :
    segmentCount text = text.toList.count ',' + text.toList.count ';' + 1 := by
  rw [segmentCount, Nat.add_right_cancel_iff]
  induction text.toList with
  | nil => rfl
  | cons c cs ih =>
    have one : (if isDelimiter c then 1 else 0) = (if c == ',' then 1 else 0) + if c == ';' then 1 else 0 := by
      by_cases comma : c = ','
      · simp [isDelimiter, comma]
      · simp [isDelimiter, comma]
    rw [List.countP_cons, List.count_cons, List.count_cons, ih, one]
    omega

/-- The bytes hold as many delimiters as the text. -/
theorem length_filter_encode (text : String) :
    ((Utf8.encode text).filter isDelimiterByte).length + 1 = segmentCount text := by
  rw [← length_splitOnP, ← map_encode_segments, List.length_map, length_segments]

/-! ## Segments put together -/

/-- **The segments are the only texts** without delimiters, one more than there are delimiters, that give the bytes
of the text when its delimiters are written between them. -/
theorem eq_segments_iff {text : String} {parts : List String} :
    parts = segments text ↔
      (∀ part ∈ parts, Free isDelimiter part.toList) ∧ parts.length = segmentCount text ∧
        weave (parts.map Utf8.encode) ((Utf8.encode text).filter isDelimiterByte) = Utf8.encode text := by
  constructor
  · rintro rfl
    refine ⟨fun part => free_of_mem_segments, length_segments text, ?_⟩
    rw [map_encode_segments]
    exact List.splitOnP_spec _
  · rintro ⟨free, enough, rebuilt⟩
    have runs : parts.map Utf8.encode = (Utf8.encode text).splitOnP isDelimiterByte := by
      refine eq_splitOnP_iff.2 ⟨?_, ?_, rebuilt⟩
      · intro run hr
        obtain ⟨part, hp, rfl⟩ := List.mem_map.1 hr
        exact spells_delimiter.free_flatMap (free part hp)
      · rw [List.length_map, enough, length_filter_encode]
    rw [← map_encode_segments] at runs
    exact List.map_injective_iff.2 Utf8.encode_injective runs

/-- Segments joined with `,` are split again. -/
theorem segments_intercalate {parts : List String} (hne : parts ≠ [])
    (free : ∀ part ∈ parts, Free isDelimiter part.toList) : segments (",".intercalate parts) = parts := by
  have hd : isDelimiter ',' = true := rfl
  have split : ([','].intercalate (parts.map String.toList)).splitOnP isDelimiter = parts.map String.toList := by
    apply splitOnP_intercalate hd
    · simpa using hne
    · intro run hr
      obtain ⟨part, hp, rfl⟩ := List.mem_map.1 hr
      exact free part hp
  rw [segments, String.toList_intercalate]
  show (([','].intercalate _).splitOnP isDelimiter).map String.ofList = parts
  rw [split]
  exact Function.LeftInverse.list_map (fun _ => String.ofList_toList) parts

end SymbolRules
