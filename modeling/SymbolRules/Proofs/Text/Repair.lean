import SymbolRules.Proofs.Text.Decoding

/-!
# Repaired text

Repair leaves a text as it is, and puts the replacement character where the text at the beginning of
other bytes ends (`repair_append`). The bytes of a character never begin those of another, so whether a
text begins with some characters, or is just these, does not depend on what follows it, as long as that
begins with none of them (`flatMap_prefix_append_iff`, `flatMap_eq_append_iff`).
-/

namespace SymbolRules.Utf8

/-- Where every part is a character there is nothing to replace. -/
theorem map_getD_map_some (cs : List Char) : (cs.map some).map (·.getD replacement) = cs :=
  Function.LeftInverse.list_map (fun _ => Option.getD_some) cs

theorem repair_encode (s : String) : repair (encode s) = s := by
  rw [repair, characters_encode, map_getD_map_some, String.ofList_toList]

/-- Where no character follows a text, the replacement character does. -/
theorem repair_append (good : List Char) {bad : List UInt8} (h : BeginsNoChar bad) (hne : bad ≠ []) :
    ∃ more, repair (good.flatMap String.utf8EncodeChar ++ bad) = String.ofList (good ++ replacement :: more) := by
  obtain ⟨more, hmore⟩ := run_of_beginsNoChar h hne
  refine ⟨more.map (·.getD replacement), ?_⟩
  have read : characters (good.flatMap String.utf8EncodeChar ++ bad) = good.map some ++ none :: more := by
    rw [characters, run_flatMap, hmore]
  rw [repair, read, List.map_append, map_getD_map_some, List.map_cons]
  rfl

/-! ## What a text begins with -/

/-- Bytes tell the character they begin with, and what follows it. -/
theorem encodeChar_append_inj {a b : Char} {x y : List UInt8}
    (h : String.utf8EncodeChar a ++ x = String.utf8EncodeChar b ++ y) : a = b ∧ x = y := by
  have read : some a :: run none x = some b :: run none y := by
    rw [← run_encodeChar, ← run_encodeChar, h]
  obtain ⟨ha, -⟩ := List.cons.inj read
  obtain rfl := Option.some.inj ha
  exact ⟨rfl, List.append_cancel_left h⟩

variable {A B : List Char} {rest : List UInt8}

/-- Whether a text begins with some characters does not depend on what follows it. -/
theorem flatMap_prefix_append_iff (h : ∀ a ∈ A, ∀ more, rest ≠ String.utf8EncodeChar a ++ more) :
    A.flatMap String.utf8EncodeChar <+: B.flatMap String.utf8EncodeChar ++ rest ↔ A <+: B := by
  induction A generalizing B with
  | nil => simp
  | cons a A ih =>
    have below : ∀ x ∈ A, ∀ more, rest ≠ String.utf8EncodeChar x ++ more :=
      fun x hx => h x (List.mem_cons_of_mem a hx)
    cases B with
    | nil =>
      -- the first character asked for would begin what follows
      have absent : ¬ (a :: A).flatMap String.utf8EncodeChar <+: rest := by
        rintro ⟨more, hm⟩
        rw [List.flatMap_cons, List.append_assoc] at hm
        exact h a List.mem_cons_self _ hm.symm
      simpa using absent
    | cons b B =>
      rw [List.cons_prefix_cons, ← ih below, List.flatMap_cons, List.flatMap_cons, List.append_assoc]
      constructor
      · rintro ⟨more, hm⟩
        rw [List.append_assoc] at hm
        obtain ⟨same, hm⟩ := encodeChar_append_inj hm
        exact ⟨same, more, hm⟩
      · rintro ⟨rfl, hpre⟩
        exact (List.prefix_append_right_inj _).2 hpre

/-- A text with something after it is no other text. -/
theorem flatMap_eq_append_iff (h : ∀ a ∈ A, ∀ more, rest ≠ String.utf8EncodeChar a ++ more) :
    B.flatMap String.utf8EncodeChar ++ rest = A.flatMap String.utf8EncodeChar ↔ B = A ∧ rest = [] := by
  constructor
  · intro he
    have begins : A <+: B := (flatMap_prefix_append_iff h).1 (he ▸ List.prefix_rfl)
    obtain ⟨more, rfl⟩ := begins
    rw [List.flatMap_append, List.append_assoc, List.append_right_eq_self, List.append_eq_nil_iff] at he
    obtain ⟨hmore, hrest⟩ := he
    have none : more = [] := by
      apply List.eq_nil_iff_forall_not_mem.2
      intro c hc
      exact String.utf8EncodeChar_ne_nil (List.flatMap_eq_nil_iff.1 hmore c hc)
    exact ⟨by rw [none, List.append_nil], hrest⟩
  · rintro ⟨rfl, rfl⟩
    rw [List.append_nil]

theorem encode_prefix_iff {s t : String} : encode s <+: encode t ↔ s.toList <+: t.toList := by
  have nothing : ∀ a ∈ s.toList, ∀ more, [] ≠ String.utf8EncodeChar a ++ more :=
    fun a _ more h => String.utf8EncodeChar_ne_nil (List.append_eq_nil_iff.1 h.symm).1
  have begins := flatMap_prefix_append_iff (B := t.toList) nothing
  rwa [List.append_nil] at begins

end SymbolRules.Utf8
