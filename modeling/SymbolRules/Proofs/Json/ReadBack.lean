import Mathlib.Data.List.Forall2
import SymbolRules.Json.Reader
import SymbolRules.Proofs.Json.Lexing

/-!
# Documents are read back

Both written forms of a value are read as its tokens: `compact` is nothing but these (`readAs_tokens`), and
`pretty` has blanks between them (`readAs_layout`). The tokens of a value are read as the value, whatever is
open around it (`foldlM_tokens`). So each written form is read back (`read?_compact`, `read?_pretty`), and no
two values are written alike.
-/

namespace SymbolRules.Json

/-! ## Characters to tokens -/

section Brackets

variable {cs : List Char} {ts : List Token} {css : List (List Char)} {tss : List (List Token)}
  {opening closing : Char} {o c : Token}

/-- A field of an object, with blanks before its value. -/
theorem ReadAs.field (name : String) {gap : List Char} (hg : ∀ b ∈ gap, isBlank b = true) (h : ReadAs cs ts) :
    ReadAs (quote name ++ ':' :: (gap ++ cs)) (.str name :: .colon :: ts) :=
  (readAs_quote name).append (.mark rfl (.blanks hg h)) (apart_cons rfl _)

/-- What is read piece by piece is read with a comma between the pieces. -/
theorem ReadAs.intercalate (h : List.Forall₂ ReadAs css tss) :
    ReadAs ([','].intercalate css) ([Token.comma].intercalate tss) := by
  induction h with
  | nil => exact .nil
  | cons first others ih =>
    cases others with
    | nil =>
      rw [List.intercalate_singleton, List.intercalate_singleton]
      exact first
    | cons =>
      rw [List.intercalate_cons_cons, List.intercalate_cons_cons, List.append_assoc, List.append_assoc]
      exact first.append (.mark rfl ih) (apart_cons rfl _)

/-- Elements between brackets, with blanks before the closing one. -/
theorem ReadAs.bracketed (ho : punctuation? opening = some o) (hc : punctuation? closing = some c)
    (gap : List Char) (hg : ∀ b ∈ gap, isBlank b = true) (h : List.Forall₂ ReadAs css tss) :
    ReadAs (opening :: ([','].intercalate css ++ (gap ++ [closing])))
      (o :: ([Token.comma].intercalate tss ++ [c])) := by
  have ending : ReadAs (gap ++ [closing]) [c] := .blanks hg (.mark hc .nil)
  have apart : Apart (gap ++ [closing]) := by
    cases gap with
    | nil => exact apart_cons (isWordChar_of_punctuation hc) []
    | cons b gap => exact apart_cons (isWordChar_of_isBlank (hg b List.mem_cons_self)) _
  exact .mark ho ((ReadAs.intercalate h).append ending apart)

theorem isBlank_of_mem_newline {depth : Nat} {b : Char} (h : b ∈ newline depth) : isBlank b = true := by
  rcases List.mem_cons.1 h with rfl | h
  · rfl
  · rw [(List.mem_replicate.1 h).2]
    rfl

/-- Elements laid out between brackets. -/
theorem readAs_block (depth : Nat) (ho : punctuation? opening = some o) (hc : punctuation? closing = some c)
    (h : List.Forall₂ ReadAs css tss) :
    ReadAs (block depth opening closing css) (o :: ([Token.comma].intercalate tss ++ [c])) := by
  unfold block
  split
  · rename_i empty
    obtain rfl := List.isEmpty_iff.1 empty
    exact ReadAs.bracketed ho hc [] nofun h
  · have lines : List.Forall₂ ReadAs (css.map (newline (depth + 1) ++ ·)) tss :=
      List.forall₂_map_left_iff.2 (h.imp fun _ _ => ReadAs.blanks fun _ => isBlank_of_mem_newline)
    rw [List.append_assoc]
    exact ReadAs.bracketed ho hc (newline depth) (fun _ => isBlank_of_mem_newline) lines

theorem flatMap_chars_intercalate (tss : List (List Token)) :
    ([Token.comma].intercalate tss).flatMap Token.chars = [','].intercalate (tss.map (·.flatMap Token.chars)) := by
  induction tss with
  | nil => rfl
  | cons ts tss ih =>
    cases tss with
    | nil => rw [List.intercalate_singleton, List.map_singleton, List.intercalate_singleton]
    | cons us tss =>
      rw [List.intercalate_cons_cons, List.flatMap_append, List.flatMap_append, ih, List.map_cons (l := us :: tss),
        List.map_cons, List.intercalate_cons_cons]
      rfl

/-- Elements between brackets without blanks. -/
theorem readAs_bracketed_tokens (ho : punctuation? opening = some o) (hc : punctuation? closing = some c)
    (written : o.chars = [opening]) (written' : c.chars = [closing])
    (h : ∀ ts ∈ tss, ReadAs (ts.flatMap Token.chars) ts) :
    ReadAs ((o :: ([Token.comma].intercalate tss ++ [c])).flatMap Token.chars)
      (o :: ([Token.comma].intercalate tss ++ [c])) := by
  have elements : List.Forall₂ ReadAs (tss.map (·.flatMap Token.chars)) tss :=
    List.forall₂_map_left_iff.2 (List.forall₂_same.2 h)
  rw [List.flatMap_cons, List.flatMap_append, List.flatMap_singleton, flatMap_chars_intercalate, written, written']
  exact ReadAs.bracketed ho hc [] nofun elements

end Brackets

mutual

/-- A value laid out is read as its tokens. -/
theorem readAs_layout (depth : Nat) : ∀ v : Json, ReadAs (layout depth v) v.tokens
  | .null => readAs_chars .null
  | .bool b => readAs_chars (.bool b)
  | .nat n => readAs_chars (.nat n)
  | .str s => readAs_chars (.str s)
  | .arr items => readAs_block depth rfl rfl (readAs_layoutItems (depth + 1) items)
  | .obj fields => readAs_block depth rfl rfl (readAs_layoutFields (depth + 1) fields)

theorem readAs_layoutItems (depth : Nat) :
    ∀ items : List Json, List.Forall₂ ReadAs (layoutItems depth items) (itemTokens items)
  | [] => .nil
  | v :: rest => .cons (readAs_layout depth v) (readAs_layoutItems depth rest)

theorem readAs_layoutFields (depth : Nat) :
    ∀ fields : List (String × Json), List.Forall₂ ReadAs (layoutFields depth fields) (fieldTokens fields)
  | [] => .nil
  | (name, v) :: rest => by
    have field : ReadAs (quote name ++ ':' :: ([' '] ++ layout depth v)) _ :=
      .field name (List.forall_mem_singleton.2 rfl) (readAs_layout depth v)
    rw [layoutFields, List.append_assoc]
    exact .cons field (readAs_layoutFields depth rest)

end

mutual

/-- The characters of the tokens of a value are read as these tokens. -/
theorem readAs_tokens : ∀ v : Json, ReadAs (v.tokens.flatMap Token.chars) v.tokens
  | .null => readAs_chars .null
  | .bool b => by
    rw [tokens, List.flatMap_singleton]
    exact readAs_chars (.bool b)
  | .nat n => by
    rw [tokens, List.flatMap_singleton]
    exact readAs_chars (.nat n)
  | .str s => by
    rw [tokens, List.flatMap_singleton]
    exact readAs_chars (.str s)
  | .arr items => readAs_bracketed_tokens (o := .openArray) (c := .closeArray) rfl rfl rfl rfl (readAs_itemTokens items)
  | .obj fields =>
    readAs_bracketed_tokens (o := .openObject) (c := .closeObject) rfl rfl rfl rfl (readAs_fieldTokens fields)

theorem readAs_itemTokens : ∀ items : List Json, ∀ ts ∈ itemTokens items, ReadAs (ts.flatMap Token.chars) ts
  | [], _, h => nomatch h
  | v :: rest, ts, h => by
    rcases List.mem_cons.1 h with rfl | h
    · exact readAs_tokens v
    · exact readAs_itemTokens rest ts h

theorem readAs_fieldTokens :
    ∀ fields : List (String × Json), ∀ ts ∈ fieldTokens fields, ReadAs (ts.flatMap Token.chars) ts
  | [], _, h => nomatch h
  | (name, v) :: rest, ts, h => by
    rcases List.mem_cons.1 h with rfl | h
    · have none : ∀ b ∈ ([] : List Char), isBlank b = true := nofun
      exact ReadAs.field name none (readAs_tokens v)
    · exact readAs_fieldTokens rest ts h

end

/-! ## Tokens to values -/

section Values

open ReadState

variable {state next : ReadState} {t : Token} {v : Json}

theorem foldlM_step (h : step state t = some next) (ts : List Token) :
    (t :: ts).foldlM step state = ts.foldlM step next := by
  rw [List.foldlM_cons, h]
  rfl

/-- The tokens of a value are read as the value, whatever is open around it. -/
def ReadWithin (v : Json) : Prop :=
  ∀ stack, v.tokens.foldlM step ⟨.value, stack⟩ = some ⟨.after v, stack⟩

theorem ReadWithin.append (h : ReadWithin v) (stack : List Frame) (ts : List Token) :
    (v.tokens ++ ts).foldlM step ⟨.value, stack⟩ = ts.foldlM step ⟨.after v, stack⟩ := by
  rw [List.foldlM_append, h]
  rfl

/-! ### Arrays -/

/-- The elements of an array and its end, after the elements that are done. -/
theorem foldlM_items {rest : List Json} (h : ∀ w ∈ v :: rest, ReadWithin w) (done : List Json) (stack : List Frame) :
    ([Token.comma].intercalate (itemTokens (v :: rest)) ++ [Token.closeArray]).foldlM step
      ⟨.value, .item done :: stack⟩ = some ⟨.after (.arr (done.reverse ++ v :: rest)), stack⟩ := by
  have value := h v List.mem_cons_self
  induction rest generalizing v done with
  | nil =>
    have ends : step ⟨.after v, .item done :: stack⟩ .closeArray =
      some ⟨.after (.arr (v :: done).reverse), stack⟩ := rfl
    rw [itemTokens, itemTokens, List.intercalate_singleton, value.append, foldlM_step ends, List.reverse_cons]
    rfl
  | cons w rest ih =>
    have goesOn : step ⟨.after v, .item done :: stack⟩ .comma = some ⟨.value, .item (v :: done) :: stack⟩ := rfl
    have below : ∀ u ∈ w :: rest, ReadWithin u := fun u hu => h u (List.mem_cons_of_mem v hu)
    rw [itemTokens, itemTokens, List.intercalate_cons_cons, List.append_assoc, List.append_assoc, value.append,
      List.singleton_append, foldlM_step goesOn]
    have others := ih below (v :: done) (below w List.mem_cons_self)
    rwa [List.reverse_cons, List.append_assoc] at others

/-- Where an array has just begun, only its end is read otherwise than within it. -/
theorem step_firstItem (h : t ≠ .closeArray) (stack : List Frame) :
    step ⟨.firstItem, .item [] :: stack⟩ t = step ⟨.value, .item [] :: stack⟩ t := by
  cases t with
  | closeArray => exact absurd rfl h
  | _ => rfl

/-- The tokens of a value begin with one that closes nothing. -/
theorem exists_tokens_cons (v : Json) : ∃ t ts, v.tokens = t :: ts ∧ t ≠ .closeArray := by
  cases v <;> exact ⟨_, _, rfl, nofun⟩

theorem exists_itemTokens_cons (v : Json) (rest : List Json) :
    ∃ t ts, [Token.comma].intercalate (itemTokens (v :: rest)) = t :: ts ∧ t ≠ .closeArray := by
  obtain ⟨t, ts, hv, ht⟩ := exists_tokens_cons v
  cases rest with
  | nil => exact ⟨t, ts, by rw [itemTokens, itemTokens, List.intercalate_singleton, hv], ht⟩
  | cons w rest =>
    rw [itemTokens, itemTokens, List.intercalate_cons_cons, hv, List.append_assoc, List.cons_append]
    exact ⟨t, _, rfl, ht⟩

theorem readWithin_arr {items : List Json} (h : ∀ v ∈ items, ReadWithin v) : ReadWithin (.arr items) := by
  intro stack
  cases items with
  | nil => rfl
  | cons v rest =>
    have opens : step ⟨.value, stack⟩ .openArray = some ⟨.firstItem, .item [] :: stack⟩ := rfl
    obtain ⟨t, ts, first, ht⟩ := exists_itemTokens_cons v rest
    have items := foldlM_items h [] stack
    rw [first, List.cons_append, List.foldlM_cons, ← step_firstItem ht stack, ← List.foldlM_cons, ← List.cons_append,
      ← first] at items
    exact (foldlM_step opens _).trans items

/-! ### Objects -/

/-- A field of an object, after the fields that are done. -/
theorem foldlM_field (h : ReadWithin v) (name : String) (done : List (String × Json)) (stack : List Frame)
    (ts : List Token) :
    (Token.str name :: Token.colon :: v.tokens ++ ts).foldlM step ⟨.name done, stack⟩ =
      ts.foldlM step ⟨.after v, .field done name :: stack⟩ := by
  have named : step ⟨.name done, stack⟩ (.str name) = some ⟨.colon done name, stack⟩ := rfl
  have begins : step ⟨.colon done name, stack⟩ .colon = some ⟨.value, .field done name :: stack⟩ := rfl
  rw [List.cons_append, foldlM_step named, List.cons_append, foldlM_step begins, h.append]

/-- The fields of an object and its end, after the fields that are done. -/
theorem foldlM_fields {name : String} {rest : List (String × Json)} (h : ∀ f ∈ (name, v) :: rest, ReadWithin f.2)
    (done : List (String × Json)) (stack : List Frame) :
    ([Token.comma].intercalate (fieldTokens ((name, v) :: rest)) ++ [Token.closeObject]).foldlM step
      ⟨.name done, stack⟩ = some ⟨.after (.obj (done.reverse ++ (name, v) :: rest)), stack⟩ := by
  have value : ReadWithin v := h (name, v) List.mem_cons_self
  induction rest generalizing name v done with
  | nil =>
    have ends : step ⟨.after v, .field done name :: stack⟩ .closeObject =
      some ⟨.after (.obj ((name, v) :: done).reverse), stack⟩ := rfl
    rw [fieldTokens, fieldTokens, List.intercalate_singleton, foldlM_field value, foldlM_step ends,
      List.reverse_cons]
    rfl
  | cons field rest ih =>
    obtain ⟨other, w⟩ := field
    have goesOn : step ⟨.after v, .field done name :: stack⟩ .comma = some ⟨.name ((name, v) :: done), stack⟩ := rfl
    have below : ∀ f ∈ (other, w) :: rest, ReadWithin f.2 := fun f hf => h f (List.mem_cons_of_mem _ hf)
    rw [fieldTokens, fieldTokens, List.intercalate_cons_cons, List.append_assoc, List.append_assoc,
      foldlM_field value, List.singleton_append, foldlM_step goesOn]
    have others := ih below ((name, v) :: done) (below (other, w) List.mem_cons_self)
    rwa [List.reverse_cons, List.append_assoc] at others

theorem exists_fieldTokens_cons (name : String) (v : Json) (rest : List (String × Json)) :
    ∃ ts, [Token.comma].intercalate (fieldTokens ((name, v) :: rest)) = .str name :: ts := by
  cases rest with
  | nil => exact ⟨_, by rw [fieldTokens, fieldTokens, List.intercalate_singleton]⟩
  | cons field rest =>
    obtain ⟨other, w⟩ := field
    rw [fieldTokens, fieldTokens, List.intercalate_cons_cons, List.append_assoc, List.cons_append]
    exact ⟨_, rfl⟩

theorem readWithin_obj {fields : List (String × Json)} (h : ∀ f ∈ fields, ReadWithin f.2) :
    ReadWithin (.obj fields) := by
  intro stack
  cases fields with
  | nil => rfl
  | cons field rest =>
    obtain ⟨name, v⟩ := field
    have opens : step ⟨.value, stack⟩ .openObject = some ⟨.firstName, stack⟩ := rfl
    -- the first name is read as any other
    have same : step ⟨.firstName, stack⟩ (.str name) = step ⟨.name [], stack⟩ (.str name) := rfl
    obtain ⟨ts, first⟩ := exists_fieldTokens_cons name v rest
    have fields := foldlM_fields h [] stack
    rw [first, List.cons_append, List.foldlM_cons, ← same, ← List.foldlM_cons, ← List.cons_append, ← first] at fields
    exact (foldlM_step opens _).trans fields

mutual

/-- The tokens of every value are read as the value. -/
theorem readWithin : ∀ v : Json, ReadWithin v
  | .null => fun _ => rfl
  | .bool _ => fun _ => rfl
  | .nat _ => fun _ => rfl
  | .str _ => fun _ => rfl
  | .arr items => readWithin_arr (readWithin_items items)
  | .obj fields => readWithin_obj (readWithin_fields fields)

theorem readWithin_items : ∀ items : List Json, ∀ v ∈ items, ReadWithin v
  | [], _, h => nomatch h
  | v :: rest, w, h => by
    rcases List.mem_cons.1 h with he | h
    · exact he ▸ readWithin v
    · exact readWithin_items rest w h

theorem readWithin_fields : ∀ fields : List (String × Json), ∀ f ∈ fields, ReadWithin f.2
  | [], _, h => nomatch h
  | (name, v) :: rest, f, h => by
    rcases List.mem_cons.1 h with he | h
    · exact he ▸ readWithin v
    · exact readWithin_fields rest f h

end

end Values

/-! ## Written forms -/

/-- Characters that are read as the tokens of a value are a document of the value. -/
theorem read?_of_readAs {v : Json} {document : String} (h : ReadAs document.toList v.tokens) :
    read? document = some v := by
  have read := h [] apart_nil
  have nothing : lex .between [] = some [] := rfl
  rw [List.append_nil, nothing, Option.map_some, List.append_nil] at read
  rw [read?, read, Option.bind_eq_bind, Option.bind_some, ofTokens?, readWithin v []]
  rfl

/-- **The compact form is read back.** -/
theorem read?_compact (v : Json) : read? v.compact = some v := by
  apply read?_of_readAs
  rw [compact, String.toList_ofList]
  exact readAs_tokens v

/-- **The pretty form is read back.** -/
theorem read?_pretty (v : Json) : read? v.pretty = some v := by
  apply read?_of_readAs
  rw [pretty, String.toList_ofList]
  exact readAs_layout 0 v

end SymbolRules.Json
