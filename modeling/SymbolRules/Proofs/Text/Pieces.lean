import Mathlib.Data.List.Basic

/-!
# The pieces of a sequence between its delimiters

`List.splitOnP` read as a description: its pieces are the maximal runs of the sequence that hold no
delimiter (`mem_splitOnP_iff`), and it undoes writing such runs one after another with a delimiter
between them (`splitOnP_intercalate`). No other runs without delimiters, written between the delimiters of
the sequence, give it back (`eq_splitOnP_iff`). What holds piece by piece is proved by `pieceInduction`.
-/

namespace SymbolRules.Pieces

variable {α : Type} {p : α → Bool}

/-- No element is a delimiter. -/
def Free (p : α → Bool) (xs : List α) : Prop :=
  ∀ x ∈ xs, p x = false

theorem free_beq_iff [BEq α] [LawfulBEq α] {d : α} {xs : List α} : Free (· == d) xs ↔ d ∉ xs := by
  simp only [Free, beq_eq_false_iff_ne]
  exact ⟨fun h hd => h d hd rfl, fun h x hx => ne_of_mem_of_not_mem hx h⟩

/-- `run` stands somewhere in `xs`, holds no delimiter, and reaches on either side to a delimiter or
to the end. -/
def MaximalRun (p : α → Bool) (xs run : List α) : Prop :=
  ∃ before after, xs = before ++ run ++ after ∧ Free p run ∧
    (before = [] ∨ ∃ d, before.getLast? = some d ∧ p d = true) ∧
    (after = [] ∨ ∃ d, after.head? = some d ∧ p d = true)

/-- A sequence is a single run, or a run, a delimiter and a rest. -/
theorem pieceInduction (p : α → Bool) {motive : List α → Prop} (last : ∀ run, Free p run → motive run)
    (cons : ∀ run d rest, Free p run → p d = true → motive rest → motive (run ++ d :: rest)) :
    ∀ xs, motive xs := by
  -- the run read so far goes in front of what is left
  suffices h : ∀ xs run, Free p run → motive (run ++ xs) from fun xs => h xs [] (by simp [Free])
  intro xs
  induction xs with
  | nil => intro run free; rw [List.append_nil]; exact last run free
  | cons x xs ih =>
    intro run free
    cases hx : p x with
    | true => exact cons run x xs free hx (ih [] (by simp [Free]))
    | false =>
      rw [List.append_cons]
      exact ih (run ++ [x]) (by simpa [Free, or_imp, forall_and, hx] using free)

theorem splitOnP_of_free {run : List α} (free : Free p run) : run.splitOnP p = [run] :=
  List.splitOnP_eq_singleton free

theorem splitOnP_cons_run {run : List α} (free : Free p run) {d : α} (hd : p d = true) (rest : List α) :
    (run ++ d :: rest).splitOnP p = run :: rest.splitOnP p :=
  List.splitOnP_append_cons_of_forall_mem free d hd rest

/-- A beginning without delimiters goes to the first piece. -/
theorem splitOnP_append {run : List α} (free : Free p run) (xs : List α) :
    (run ++ xs).splitOnP p = (xs.splitOnP p).modifyHead (run ++ ·) := by
  obtain ⟨piece, pieces, hx⟩ := List.exists_cons_of_ne_nil (List.splitOnP_ne_nil p xs)
  induction run with
  | nil => simp [hx]
  | cons x run ih =>
    rw [List.cons_append, List.splitOnP_cons_eq_if_modifyHead, free x List.mem_cons_self,
      ih fun y hy => free y (List.mem_cons_of_mem _ hy)]
    simp [hx]

/-- Changing each element, and none into or out of the delimiters, changes the pieces the same way. -/
theorem splitOnP_map {f : α → α} (h : ∀ x, p (f x) = p x) (xs : List α) :
    (xs.map f).splitOnP p = (xs.splitOnP p).map (List.map f) := by
  induction xs with
  | nil => rfl
  | cons x xs ih =>
    obtain ⟨piece, pieces, hx⟩ := List.exists_cons_of_ne_nil (List.splitOnP_ne_nil p xs)
    rw [List.map_cons, List.splitOnP_cons_eq_if_modifyHead, List.splitOnP_cons_eq_if_modifyHead, h, ih, hx]
    cases p x <;> simp

theorem free_of_mem_splitOnP {xs run : List α} (h : run ∈ xs.splitOnP p) : Free p run := by
  induction xs using pieceInduction p with
  | last xs free => rw [splitOnP_of_free free, List.mem_singleton] at h; exact h ▸ free
  | cons first d rest free hd ih =>
    rw [splitOnP_cons_run free hd] at h
    rcases List.mem_cons.1 h with rfl | h
    · exact free
    · exact ih h

/-- The first piece, up to a delimiter or the end. -/
theorem mem_splitOnP_of_start {run after : List α} (free : Free p run)
    (ha : after = [] ∨ ∃ d, after.head? = some d ∧ p d = true) : run ∈ (run ++ after).splitOnP p := by
  rcases ha with rfl | ⟨d, hd, hp⟩
  · rw [List.append_nil, splitOnP_of_free free]
    exact List.mem_singleton_self run
  · obtain ⟨rest, rfl⟩ := List.head?_eq_some_iff.1 hd
    rw [splitOnP_cons_run free hp]
    exact List.mem_cons_self

/-- **The pieces are the maximal runs.** -/
theorem mem_splitOnP_iff {xs run : List α} : run ∈ xs.splitOnP p ↔ MaximalRun p xs run := by
  constructor
  · intro h
    induction xs using pieceInduction p with
    | last xs free =>
      rw [splitOnP_of_free free, List.mem_singleton] at h
      exact ⟨[], [], by simp [h], h ▸ free, .inl rfl, .inl rfl⟩
    | cons first d rest free hd ih =>
      rw [splitOnP_cons_run free hd] at h
      rcases List.mem_cons.1 h with rfl | h
      · exact ⟨[], d :: rest, rfl, free, .inl rfl, .inr ⟨d, rfl, hd⟩⟩
      · obtain ⟨before, after, rfl, hrun, hb, ha⟩ := ih h
        refine ⟨first ++ d :: before, after, by simp, hrun, .inr ?_, ha⟩
        rcases hb with rfl | ⟨d', hl, hd'⟩
        · exact ⟨d, by simp, hd⟩
        · exact ⟨d', by simp [List.getLast?_cons, hl], hd'⟩
  · rintro ⟨before, after, rfl, free, hb, ha⟩
    rcases hb with rfl | ⟨d, hl, hd⟩
    · exact mem_splitOnP_of_start free ha
    · obtain ⟨before, rfl⟩ := List.getLast?_eq_some_iff.1 hl
      rw [List.append_assoc, List.append_assoc, List.singleton_append, List.splitOnP_append_cons _ _ hd]
      exact List.mem_append_right _ (mem_splitOnP_of_start free ha)

/-- **Splitting undoes joining**, as long as there is something to join. -/
theorem splitOnP_intercalate {d : α} (hd : p d = true) {runs : List (List α)} (hne : runs ≠ [])
    (free : ∀ run ∈ runs, Free p run) : ([d].intercalate runs).splitOnP p = runs := by
  induction runs with
  | nil => exact absurd rfl hne
  | cons run runs ih =>
    have hrun := free run List.mem_cons_self
    cases runs with
    | nil => rw [List.intercalate_singleton, splitOnP_of_free hrun]
    | cons next runs =>
      rw [List.intercalate_cons_cons, List.append_assoc, List.singleton_append, splitOnP_cons_run hrun hd,
        ih (by simp) fun r hr => free r (List.mem_cons_of_mem _ hr)]

/-- Runs joined with an element of another kind hold a delimiter when one of them does. -/
theorem free_intercalate_iff {d : α} (hd : p d = false) {runs : List (List α)} :
    Free p ([d].intercalate runs) ↔ ∀ run ∈ runs, Free p run := by
  have append : ∀ {xs ys : List α}, Free p (xs ++ ys) ↔ Free p xs ∧ Free p ys := by
    intro xs ys
    simp only [Free, List.forall_mem_append]
  have single : Free p [d] := by
    simpa [Free] using hd
  induction runs with
  | nil => simp [Free]
  | cons run runs ih =>
    cases runs with
    | nil => simp
    | cons next runs =>
      rw [List.intercalate_cons_cons, append, append, and_iff_left single, List.forall_mem_cons]
      exact and_congr_right fun _ => ih

/-! ## Runs between given delimiters -/

/-- Runs written one after another, each with the delimiter after it and the last one with none. -/
def weave (runs : List (List α)) (ds : List α) : List α :=
  (List.zipWith (· ++ ·) runs (ds.map ([·]) ++ [[]])).flatten

@[simp] theorem weave_singleton (run : List α) : weave [run] [] = run := by
  simp [weave]

@[simp] theorem weave_cons_cons (run : List α) (runs : List (List α)) (d : α) (ds : List α) :
    weave (run :: runs) (d :: ds) = run ++ d :: weave runs ds := by
  simp [weave]

theorem filter_of_free {run : List α} (free : Free p run) : run.filter p = [] :=
  List.filter_eq_nil_iff.2 fun x hx => by simp [free x hx]

/-- There is a piece more than there are delimiters. -/
theorem length_splitOnP (p : α → Bool) (xs : List α) : (xs.splitOnP p).length = (xs.filter p).length + 1 := by
  induction xs using pieceInduction p with
  | last run free =>
    rw [splitOnP_of_free free, filter_of_free free]
    rfl
  | cons run d rest free hd ih =>
    rw [splitOnP_cons_run free hd, List.length_cons, ih, List.filter_append, filter_of_free free,
      List.filter_cons_of_pos hd]
    rfl

/-- Splitting undoes writing runs between delimiters, if there are enough of both. -/
theorem splitOnP_weave {runs : List (List α)} {ds : List α} (free : ∀ run ∈ runs, Free p run)
    (delimiters : ∀ d ∈ ds, p d = true) (enough : runs.length = ds.length + 1) : (weave runs ds).splitOnP p = runs := by
  induction ds generalizing runs with
  | nil =>
    obtain ⟨run, rfl⟩ := List.length_eq_one_iff.1 enough
    rw [weave_singleton, splitOnP_of_free (free run (List.mem_singleton_self run))]
  | cons d ds ih =>
    obtain ⟨run, runs, rfl⟩ := List.exists_cons_of_length_eq_add_one enough
    rw [weave_cons_cons, splitOnP_cons_run (free run List.mem_cons_self) (delimiters d List.mem_cons_self),
      ih (fun r hr => free r (List.mem_cons_of_mem run hr)) (fun e he => delimiters e (List.mem_cons_of_mem d he))
        (Nat.succ.inj enough)]

/-- **The pieces are the only runs** that hold no delimiter, are one more than the delimiters of a sequence, and
give the sequence back when they are written between them. -/
theorem eq_splitOnP_iff {xs : List α} {runs : List (List α)} :
    runs = xs.splitOnP p ↔
      (∀ run ∈ runs, Free p run) ∧ runs.length = (xs.filter p).length + 1 ∧ weave runs (xs.filter p) = xs := by
  constructor
  · rintro rfl
    exact ⟨fun run => free_of_mem_splitOnP, length_splitOnP p xs, List.splitOnP_spec xs⟩
  · rintro ⟨free, enough, rebuilt⟩
    have delimiters : ∀ d ∈ xs.filter p, p d = true := fun d hd => (List.mem_filter.1 hd).2
    rw [← splitOnP_weave free delimiters enough, rebuilt]

end SymbolRules.Pieces
