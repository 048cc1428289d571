import SymbolRules.Proofs.Text.Decoding
import SymbolRules.Text.Lines

/-!
# Lines of a text and of its bytes

A sequence is its first line, a line feed and its other lines (`split_cons`), or a last line without a
line feed (`split_of_free`). Neither terminator stands inside the bytes of another character, so cutting
bytes into lines and decoding each gives what decoding first and then cutting gives: the same lines
(`ofBytes?_encode`), and no lines at all as soon as one is not text (`ofBytes?_eq_none_iff`).
-/

namespace SymbolRules.Lines

open Pieces

section Split

variable {α : Type} [BEq α] {lf cr : α}

/-- A piece is its line, and perhaps one carriage return. -/
theorem chomp_eq_or [LawfulBEq α] (cr : α) (piece : List α) :
    piece = chomp cr piece ∨ piece = chomp cr piece ++ [cr] := by
  unfold chomp
  split
  · rename_i last
    obtain ⟨line, rfl⟩ := List.getLast?_eq_some_iff.1 (eq_of_beq last)
    right
    rw [List.dropLast_concat]
  · exact .inl rfl

theorem chomp_of_getLast?_ne [LawfulBEq α] {piece : List α} (h : piece.getLast? ≠ some cr) :
    chomp cr piece = piece := by
  rw [chomp, if_neg]
  simpa using h

theorem chomp_concat [LawfulBEq α] (cr : α) (piece : List α) : chomp cr (piece ++ [cr]) = piece := by
  simp [chomp]

theorem chomp_cons_cons (a b : α) (piece : List α) : chomp cr (a :: b :: piece) = a :: chomp cr (b :: piece) := by
  rw [chomp, chomp, List.getLast?_cons_cons, List.dropLast_cons_cons]
  split <;> rfl

/-- What follows the last line feed is a line unless it is empty. -/
theorem split_of_free {run : List α} (free : Free (· == lf) run) :
    split lf cr run = [run].filter (!·.isEmpty) := by
  rw [split, List.splitOn, splitOnP_of_free free]
  rfl

/-- A line feed ends the first line. -/
theorem split_cons [LawfulBEq α] {run : List α} (free : Free (· == lf) run) (rest : List α) :
    split lf cr (run ++ lf :: rest) = chomp cr run :: split lf cr rest := by
  obtain ⟨piece, pieces, hp⟩ := List.exists_cons_of_ne_nil (List.splitOnP_ne_nil (· == lf) rest)
  have cut : (run ++ lf :: rest).splitOn lf = run :: piece :: pieces := by
    rw [List.splitOn, splitOnP_cons_run free (beq_self_eq_true lf), hp]
  have others : rest.splitOn lf = piece :: pieces := hp
  rw [split, split, cut, others, List.dropLast_cons_cons, List.getLast?_cons_cons]
  rfl

/-- Only the empty sequence has no lines. -/
theorem split_ne_nil [LawfulBEq α] {s : List α} (hne : s ≠ []) : split lf cr s ≠ [] := by
  induction s using pieceInduction (· == lf) with
  | last run free =>
    rw [split_of_free free]
    simpa using hne
  | cons run d rest free hd _ =>
    obtain rfl := eq_of_beq hd
    rw [split_cons free]
    exact List.cons_ne_nil _ _

end Split

/-! ## Characters and bytes -/

theorem spells_lineFeed : Utf8.Spells (· == 0x0A) (· == '\n') :=
  .of_char (by decide) rfl

theorem spells_return : Utf8.Spells (· == 0x0D) (· == '\r') :=
  .of_char (by decide) rfl

/-- The bytes of a piece end with a carriage return when the piece does. -/
theorem chomp_flatMap (piece : List Char) :
    chomp 0x0D (piece.flatMap String.utf8EncodeChar) = (chomp '\r' piece).flatMap String.utf8EncodeChar := by
  rcases List.eq_nil_or_concat piece with rfl | ⟨line, c, rfl⟩
  · rfl
  rw [List.concat_eq_append, List.flatMap_append, List.flatMap_singleton]
  by_cases hc : c = '\r'
  · subst hc
    have byte : String.utf8EncodeChar '\r' = [0x0D] := rfl
    rw [byte, chomp_concat, chomp_concat]
  · have last : (line.flatMap String.utf8EncodeChar ++ String.utf8EncodeChar c).getLast? ≠ some 0x0D := by
      intro h
      rw [List.getLast?_append_of_ne_nil _ String.utf8EncodeChar_ne_nil] at h
      have absent := spells_return.absent c (beq_false_of_ne hc) _ (List.mem_of_getLast? h)
      exact absurd absent (by decide)
    have other : (line ++ [c]).getLast? ≠ some '\r' := by
      rw [List.getLast?_concat]
      exact fun h => hc (Option.some.inj h)
    rw [chomp_of_getLast?_ne last, chomp_of_getLast?_ne other, List.flatMap_append, List.flatMap_singleton]

/-- The lines of the bytes of a text are the bytes of its lines. -/
theorem split_flatMap (cs : List Char) :
    split 0x0A 0x0D (cs.flatMap String.utf8EncodeChar) =
      (split '\n' '\r' cs).map (·.flatMap String.utf8EncodeChar) := by
  induction cs using pieceInduction (· == '\n') with
  | last run free =>
    rw [split_of_free free, split_of_free (spells_lineFeed.free_flatMap free)]
    cases run with
    | nil => rfl
    | cons c run =>
      have long : String.utf8EncodeChar c ≠ [] := String.utf8EncodeChar_ne_nil
      simp [long]
  | cons run d rest free hd ih =>
    obtain rfl := eq_of_beq hd
    have byte : String.utf8EncodeChar '\n' = [0x0A] := rfl
    rw [split_cons free, List.flatMap_append, List.flatMap_cons, byte, List.singleton_append,
      split_cons (spells_lineFeed.free_flatMap free), chomp_flatMap, ih, List.map_cons]

/-! ## Decoding line by line -/

/-- Reading a list fails when reading one of its elements does. -/
theorem mapM_eq_none_iff {α β : Type} {f : α → Option β} {xs : List α} :
    xs.mapM f = none ↔ ∃ x ∈ xs, f x = none := by
  induction xs with
  | nil => simp
  | cons x xs ih =>
    rw [List.mapM_cons, List.exists_mem_cons_iff, ← ih]
    cases f x with
    | none => simp
    | some y => cases xs.mapM f <;> simp

theorem ofBytes?_encode (s : String) : ofBytes? (Utf8.encode s) = some (ofText s) := by
  have line : ∀ cs : List Char,
      (Utf8.decode? ∘ (·.flatMap String.utf8EncodeChar)) cs = pure (String.ofList cs) := by
    intro cs
    show Utf8.decode? (cs.flatMap String.utf8EncodeChar) = some _
    rw [← Utf8.encode_ofList, Utf8.decode?_encode]
  rw [ofBytes?, Utf8.encode, split_flatMap, List.mapM_map, funext line, List.mapM_pure]
  rfl

/-- Bytes whose lines are texts are a text. -/
theorem exists_text_of_lines {bs : List UInt8} (h : ∀ line ∈ split 0x0A 0x0D bs, ∃ s, line = Utf8.encode s) :
    ∃ s, bs = Utf8.encode s := by
  induction bs using pieceInduction (· == (0x0A : UInt8)) with
  | last run free =>
    by_cases hne : run = []
    · exact ⟨"", hne⟩
    · apply h run
      rw [split_of_free free]
      simpa using hne
  | cons run d rest free hd ih =>
    obtain rfl := eq_of_beq hd
    rw [split_cons free, List.forall_mem_cons] at h
    obtain ⟨⟨first, hfirst⟩, others⟩ := h
    obtain ⟨s, rfl⟩ := ih others
    -- the terminator goes back between the first line and the rest
    rcases chomp_eq_or 0x0D run with hrun | hrun
    · refine ⟨first ++ "\n" ++ s, ?_⟩
      rw [Utf8.encode_append, Utf8.encode_append, ← hfirst, ← hrun, List.append_assoc]
      rfl
    · refine ⟨first ++ "\r\n" ++ s, ?_⟩
      conv_lhs => rw [hrun]
      rw [Utf8.encode_append, Utf8.encode_append, ← hfirst, List.append_assoc, List.append_assoc]
      rfl

/-- One line that is not text makes the whole unreadable, and nothing else does. -/
theorem ofBytes?_eq_none_iff {bs : List UInt8} : ofBytes? bs = none ↔ Utf8.decode? bs = none := by
  constructor
  · intro h
    by_contra text
    obtain ⟨s, hs⟩ := Option.ne_none_iff_exists'.1 text
    obtain rfl := Utf8.decode?_eq_some_iff.1 hs
    rw [ofBytes?_encode] at h
    cases h
  · intro h
    by_contra lines
    rw [ofBytes?, mapM_eq_none_iff] at lines
    have texts : ∀ line ∈ split 0x0A 0x0D bs, ∃ s, line = Utf8.encode s := by
      intro line hl
      have decoded : Utf8.decode? line ≠ none := fun hn => lines ⟨line, hl, hn⟩
      obtain ⟨s, hs⟩ := Option.ne_none_iff_exists'.1 decoded
      exact ⟨s, Utf8.decode?_eq_some_iff.1 hs⟩
    obtain ⟨s, rfl⟩ := exists_text_of_lines texts
    rw [Utf8.decode?_encode] at h
    cases h

/-- **Decoding line by line is decoding first and cutting into lines then.** -/
theorem ofBytes?_eq (bs : List UInt8) : ofBytes? bs = (Utf8.decode? bs).map ofText := by
  cases h : Utf8.decode? bs with
  | none => exact ofBytes?_eq_none_iff.2 h
  | some s =>
    obtain rfl := Utf8.decode?_eq_some_iff.1 h
    exact ofBytes?_encode s

end SymbolRules.Lines
