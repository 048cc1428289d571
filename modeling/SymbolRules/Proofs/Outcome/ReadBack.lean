import SymbolRules.Outcome.Reader
import SymbolRules.Proofs.Json.ReadBack
import SymbolRules.Proofs.Result
import SymbolRules.Proofs.Text.Pieces

/-!
# Reports are read back

A report in JSON is read back whatever its candidates hold (`ofDocument?_document`). In a report in lines a
tab ends the mark, which holds none, so each line is read back; and as long as no candidate holds a line
feed, the lines are those of the outcomes (`ofListing?_listing`).
-/

namespace SymbolRules.Outcome

/-! ## Documents -/

/-- The object of an outcome holds the outcome. -/
theorem ofJson?_toJson (o : Outcome) : ofJson? o.toJson = some o :=
  rfl

theorem ofDocument?_of_read? {report : String} {outcomes : List Outcome}
    (h : Json.read? report = some (.arr (outcomes.map toJson))) : ofDocument? report = some outcomes := by
  have items := mapM_map_eq_some ofJson?_toJson outcomes
  rw [List.map_id'] at items
  rw [ofDocument?, h]
  exact items

/-- A line feed after a document is a blank. -/
theorem read?_document (outcomes : List Outcome) :
    Json.read? (document outcomes) = some (.arr (outcomes.map toJson)) := by
  apply Json.read?_of_readAs
  have pretty := Json.readAs_layout 0 (.arr (outcomes.map toJson))
  have ending : Json.ReadAs ['\n'] [] := .blank rfl .nil
  have whole := pretty.append ending (Json.apart_cons rfl [])
  rw [document, String.toList_append, Json.pretty, String.toList_ofList]
  rwa [List.append_nil] at whole

/-- **A report in JSON is read back.** -/
theorem ofDocument?_document (outcomes : List Outcome) : ofDocument? (document outcomes) = some outcomes :=
  ofDocument?_of_read? (read?_document outcomes)

/-! ## Lines -/

open Pieces

/-- The characters of a line, without its line feed. -/
def body (o : Outcome) : List Char :=
  (mark o.matched).toList ++ '\t' :: o.candidate.toList

theorem toList_line (o : Outcome) : o.line.toList = o.body ++ ['\n'] := by
  simp [line, body]

/-- No mark holds a character that ends it. -/
theorem mark_ne (matched : Bool) : ∀ c ∈ (mark matched).toList, c ≠ '\t' ∧ c ≠ '\n' := by
  cases matched <;> simp [mark]

theorem mark?_mark (matched : Bool) : mark? (mark matched).toList = some matched := by
  cases matched <;> decide

/-- A line is read back, whatever its candidate holds. -/
theorem ofLine?_body (o : Outcome) : ofLine? o.body = some o := by
  have marked : ∀ c ∈ (mark o.matched).toList, decide (c ≠ '\t') = true := fun c hc =>
    decide_eq_true (mark_ne o.matched c hc).1
  have word : o.body.takeWhile (· ≠ '\t') = (mark o.matched).toList := by
    rw [body, List.takeWhile_append_of_pos marked]
    simp
  have rest : o.body.dropWhile (· ≠ '\t') = '\t' :: o.candidate.toList := by
    rw [body, List.dropWhile_append_of_pos marked]
    simp
  rw [ofLine?, rest, word, mark?_mark]
  simp

theorem free_body {o : Outcome} (h : '\n' ∉ o.candidate.toList) : Free (· == '\n') o.body := by
  intro c hc
  rw [beq_eq_false_iff_ne]
  rcases List.mem_append.1 hc with hc | hc
  · exact (mark_ne o.matched c hc).2
  · rcases List.mem_cons.1 hc with rfl | hc
    · decide
    · exact ne_of_mem_of_not_mem hc h

/-- The lines of a report are those of its outcomes, and nothing follows the last. -/
theorem splitOn_listing {outcomes : List Outcome} (h : ∀ o ∈ outcomes, '\n' ∉ o.candidate.toList) :
    (listing outcomes).toList.splitOn '\n' = outcomes.map body ++ [[]] := by
  rw [listing, String.toList_join]
  induction outcomes with
  | nil => rfl
  | cons o outcomes ih =>
    rw [List.map_cons, List.flatMap_cons, toList_line, List.append_assoc, List.singleton_append, List.splitOn,
      splitOnP_cons_run (free_body (h o List.mem_cons_self)) rfl, ← List.splitOn,
      ih fun p hp => h p (List.mem_cons_of_mem o hp)]
    rfl

/-- **A report in lines is read back**, as long as no candidate holds a line feed. -/
theorem ofListing?_listing {outcomes : List Outcome} (h : ∀ o ∈ outcomes, '\n' ∉ o.candidate.toList) :
    ofListing? (listing outcomes) = some outcomes := by
  simp only [ofListing?, splitOn_listing h, List.getLast?_concat, List.dropLast_concat, if_true]
  rw [mapM_map_eq_some ofLine?_body, List.map_id']

end SymbolRules.Outcome
