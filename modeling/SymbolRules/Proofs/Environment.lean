import Mathlib.Data.List.Nodup
import SymbolRules.Environment
import SymbolRules.Proofs.Text.Repair
import SymbolRules.Source

/-!
# Looking variables up

A look-up compares entries as bytes, up to the equals sign. Among names that a variable can have this is
a comparison of names (`lookup?_eq_find?`), so what was set is found until it is set again or unset
(`lookup?_set`, `lookup?_unset`). A name with an equals sign may be answered from inside the value of a
variable (`lookup?_inside`), but of no other variable than the one whose name it begins with
(`lookup?_of_unset_eq`), and no variable answers to any other name (`lookup?_eq_none`). A rule text in a variable is
read when the value is the encoding of one (`ruleText_cases`).
-/

namespace SymbolRules.Environment

open Pieces

theorem isSettable_iff {name : String} :
    isSettable name = true ↔ name ≠ "" ∧ '=' ∉ name.toList ∧ '\x00' ∉ name.toList := by
  simp only [isSettable, Bool.and_eq_true, List.all_eq_true, decide_eq_true_eq]
  refine and_congr_right fun _ => ⟨fun h => ⟨fun hm => (h _ hm).1 rfl, fun hm => (h _ hm).2 rfl⟩, ?_⟩
  rintro ⟨sign, nul⟩ c hc
  exact ⟨fun same => sign (same ▸ hc), fun same => nul (same ▸ hc)⟩

/-- Every name is one that a variable can have, and stands in one entry. -/
structure WellNamed (env : Environment) : Prop where
  settable : ∀ v ∈ env.bindings, isSettable v.1 = true
  once : (env.bindings.map (·.1)).Nodup

theorem WellNamed.empty : WellNamed empty :=
  ⟨by simp [Environment.empty], by simp [Environment.empty]⟩

theorem WellNamed.unset {env : Environment} (h : env.WellNamed) (name : String) : (env.unset name).WellNamed where
  settable v hv := h.settable v (List.mem_filter.1 hv).1
  once := h.once.sublist (List.filter_sublist.map _)

theorem WellNamed.set {env : Environment} (h : env.WellNamed) (name : String) (value : List UInt8) :
    (env.set name value).WellNamed := by
  unfold Environment.set
  split
  · rename_i hn
    constructor
    · intro v hv
      rcases List.mem_append.1 hv with hv | hv
      · exact (h.unset name).settable v hv
      · rw [List.mem_singleton.1 hv]
        exact hn
    · have absent : name ∉ (env.unset name).bindings.map (·.1) := by
        simp [Environment.unset]
      rw [List.map_append, List.map_singleton, ← List.concat_eq_append]
      exact List.Nodup.concat absent (h.unset name).once
  · exact h

theorem WellNamed.tail {v : String × List UInt8} {rest : List (String × List UInt8)}
    (h : WellNamed ⟨v :: rest⟩) : WellNamed ⟨rest⟩ where
  settable w hw := h.settable w (List.mem_cons_of_mem _ hw)
  once := (List.nodup_cons.1 h.once).2

/-- No later entry has the name of the first. -/
theorem WellNamed.find?_tail {v : String × List UInt8} {rest : List (String × List UInt8)}
    (h : WellNamed ⟨v :: rest⟩) : rest.find? (·.1 == v.1) = none := by
  have absent : v.1 ∉ rest.map (·.1) := (List.nodup_cons.1 h.once).1
  rw [List.find?_eq_none]
  intro w hw same
  rw [← eq_of_beq same] at absent
  exact absent (List.mem_map_of_mem hw)

/-! ## Entries -/

theorem stripStart?_eq_some_iff {start bytes rest : List UInt8} :
    stripStart? start bytes = some rest ↔ bytes = start ++ rest := by
  induction start generalizing bytes with
  | nil => simp [stripStart?, eq_comm]
  | cons b start ih =>
    cases bytes with
    | nil => simp [stripStart?]
    | cons c bytes =>
      by_cases h : b = c
      · simp [stripStart?, h, ih]
      · simp [stripStart?, h, Ne.symm h]

theorem spells_equals : Utf8.Spells (· == equals) (· == '=') :=
  .of_char (by decide) rfl

/-- The bytes of a name have no equals sign. -/
theorem free_encode {name : String} (h : isSettable name = true) : Free (· == equals) (Utf8.encode name) := by
  intro b hb
  obtain ⟨c, hc, hbc⟩ := List.mem_flatMap.1 hb
  have differs : c ≠ '=' := by
    rintro rfl
    exact (isSettable_iff.1 h).2.1 hc
  exact spells_equals.absent c (by simpa using differs) b hbc

/-- A look-up that goes on behind the equals sign goes on in the value of the entry with that name. -/
theorem stripStart?_entry_inside {name : String} (hn : isSettable name = true) {v : String × List UInt8}
    (hv : isSettable v.1 = true) (inner : List UInt8) :
    stripStart? (Utf8.encode name ++ equals :: inner) (entry v) =
      if v.1 == name then stripStart? inner v.2 else none := by
  apply Option.ext
  intro rest
  rw [stripStart?_eq_some_iff, entry]
  by_cases h : v.1 = name
  · rw [if_pos (by simpa using h), stripStart?_eq_some_iff, h, List.append_assoc, List.append_cancel_left_eq,
      List.cons_append, List.cons.injEq, and_iff_right rfl]
  · rw [if_neg (by simpa using h)]
    refine iff_of_false (fun found => h ?_) nofun
    -- both names end at the first equals sign
    rw [List.append_assoc, List.cons_append] at found
    have split := congrArg (·.splitOnP (· == equals)) found
    simp only [splitOnP_cons_run (free_encode hv) (beq_self_eq_true equals),
      splitOnP_cons_run (free_encode hn) (beq_self_eq_true equals), List.cons.injEq] at split
    exact Utf8.encode_injective split.1

/-- An entry is found by the name that it was made with, and gives its value. -/
theorem stripStart?_entry {name : String} (hn : isSettable name = true) {v : String × List UInt8}
    (hv : isSettable v.1 = true) :
    stripStart? (Utf8.encode name ++ [equals]) (entry v) = if v.1 == name then some v.2 else none :=
  stripStart?_entry_inside hn hv []

/-! ## Look-ups -/

/-- A name that is neither empty nor has a NUL is compared with the entries. -/
theorem lookup?_eq_findSome? (env : Environment) {name : String} (filled : name ≠ "") (nul : '\x00' ∉ name.toList) :
    env.lookup? name =
      env.bindings.findSome? fun v => stripStart? (Utf8.encode name ++ [equals]) (entry v) := by
  rw [lookup?, if_neg]
  simp [filled, nul]

/-- Among names that a variable can have, a look-up compares names. -/
theorem lookup?_eq_find? {env : Environment} (h : env.WellNamed) {name : String} (hn : isSettable name = true) :
    env.lookup? name = (env.bindings.find? (·.1 == name)).map (·.2) := by
  obtain ⟨filled, -, nul⟩ := isSettable_iff.1 hn
  rw [lookup?_eq_findSome? env filled nul]
  rcases env with ⟨bindings⟩
  induction bindings with
  | nil => rfl
  | cons v rest ih =>
    rw [List.findSome?_cons, stripStart?_entry hn (h.settable v List.mem_cons_self), List.find?_cons, ih h.tail]
    cases v.1 == name <;> rfl

/-- A name that begins with that of a variable and an equals sign is answered from inside the value of that variable,
by what follows there after the rest of the name and another equals sign. -/
theorem lookup?_inside {env : Environment} (h : env.WellNamed) {name inner : String} (hn : isSettable name = true)
    (hi : '\x00' ∉ inner.toList) :
    env.lookup? (name ++ "=" ++ inner) = (env.lookup? name).bind (stripStart? (Utf8.encode (inner ++ "="))) := by
  have filled : name ++ "=" ++ inner ≠ "" := by simp
  have nul : '\x00' ∉ (name ++ "=" ++ inner).toList := by
    simp [(isSettable_iff.1 hn).2.2, hi]
  have start : Utf8.encode (name ++ "=" ++ inner) ++ [equals] =
      Utf8.encode name ++ equals :: Utf8.encode (inner ++ "=") := by
    have sign : Utf8.encode "=" = [equals] := by decide
    simp only [Utf8.encode_append, sign, List.append_assoc, List.cons_append, List.nil_append]
  rw [lookup?_eq_find? h hn, lookup?_eq_findSome? env filled nul, start]
  rcases env with ⟨bindings⟩
  induction bindings with
  | nil => rfl
  | cons v rest ih =>
    rw [List.findSome?_cons, stripStart?_entry_inside hn (h.settable v List.mem_cons_self), List.find?_cons, ih h.tail]
    by_cases hv : v.1 = name
    · subst hv
      rw [h.find?_tail, beq_self_eq_true, if_pos rfl]
      cases found : stripStart? (Utf8.encode (inner ++ "=")) v.2 <;> simp [found]
    · rw [if_neg (by simpa using hv), beq_false_of_ne hv]

theorem lookup?_empty (name : String) : empty.lookup? name = none := by
  simp [lookup?, empty]

/-- Unsetting a variable leaves the others. -/
theorem lookup?_unset {env : Environment} (h : env.WellNamed) {name : String} (hn : isSettable name = true)
    (other : String) : (env.unset other).lookup? name = if other = name then none else env.lookup? name := by
  rw [lookup?_eq_find? (h.unset other) hn, lookup?_eq_find? h hn, unset, List.find?_filter]
  by_cases he : other = name
  · rw [if_pos he, Option.map_eq_none_iff, List.find?_eq_none]
    rintro v -
    by_cases hv : v.1 = name <;> simp [hv, he]
  · rw [if_neg he]
    congr 2
    funext v
    by_cases hv : v.1 = name <;> simp [hv, Ne.symm he]

/-- Setting a variable leaves the others; a name that no variable can have is not set. -/
theorem lookup?_set {env : Environment} (h : env.WellNamed) {name : String} (hn : isSettable name = true)
    (other : String) (value : List UInt8) :
    (env.set other value).lookup? name = if other = name then some value else env.lookup? name := by
  by_cases ho : isSettable other = true
  · have unset := lookup?_unset h hn other
    rw [lookup?_eq_find? (h.unset other) hn] at unset
    rw [lookup?_eq_find? (h.set other value) hn, set, if_pos ho, List.find?_append, Option.map_or, unset]
    by_cases he : other = name <;> simp [he]
  · have differs : other ≠ name := by
      rintro rfl
      exact ho hn
    rw [set, if_neg ho, if_neg differs]

/-! ## Look-ups that do not reach a variable -/

section Apart

variable {env env' : Environment} {other name : String}

/-- An entry is found by no name but its own and those that go on from it with an equals sign. -/
theorem stripStart?_entry_of_apart (ho : isSettable other = true) (differs : name ≠ other)
    (apart : ¬ (other ++ "=").toList <+: name.toList) (value : List UInt8) :
    stripStart? (Utf8.encode name ++ [equals]) (entry (other, value)) = none := by
  rw [Option.eq_none_iff_forall_ne_some]
  intro rest found
  rw [stripStart?_eq_some_iff, entry] at found
  have asked : Utf8.encode name ++ [equals] = Utf8.encode (name ++ "=") := (Utf8.encode_append name "=").symm
  have held : Utf8.encode (other ++ "=") = Utf8.encode other ++ [equals] := Utf8.encode_append other "="
  have begins : Utf8.encode (name ++ "=") <+: Utf8.encode other ++ equals :: value := ⟨rest, by rw [found, asked]⟩
  have begins' : Utf8.encode (other ++ "=") <+: Utf8.encode other ++ equals :: value :=
    ⟨value, by rw [held, List.append_assoc, List.singleton_append]⟩
  -- both end with an equals sign, so the shorter begins the other's name unless they are the same
  rcases List.prefix_or_prefix_of_prefix begins' begins with h | h <;>
    rw [Utf8.encode_prefix_iff, String.toList_append, String.toList_append] at h
  · rcases List.prefix_concat_iff.1 h with same | inside
    · exact differs (String.toList_inj.1 (List.append_cancel_right same)).symm
    · exact apart (by rwa [String.toList_append])
  · rcases List.prefix_concat_iff.1 h with same | inside
    · exact differs (String.toList_inj.1 (List.append_cancel_right same))
    · have mem : '=' ∈ other.toList := inside.subset (List.mem_append_right _ (List.mem_singleton_self _))
      exact (isSettable_iff.1 ho).2.1 mem

/-- No variable answers to a name that is empty, has a NUL or begins with an equals sign. -/
theorem lookup?_eq_none (h : env.WellNamed) (nameless : name = "" ∨ '\x00' ∈ name.toList ∨ ['='] <+: name.toList) :
    env.lookup? name = none := by
  by_cases unasked : name = "" ∨ '\x00' ∈ name.toList
  · rw [lookup?, if_pos]
    simpa using unasked
  rw [not_or] at unasked
  obtain ⟨rest, begins⟩ := (nameless.resolve_left unasked.1).resolve_left unasked.2
  rw [lookup?_eq_findSome? env unasked.1 unasked.2, List.findSome?_eq_none_iff]
  intro v hv
  obtain ⟨filled, sign, -⟩ := isSettable_iff.1 (h.settable v hv)
  apply stripStart?_entry_of_apart (h.settable v hv)
  · rintro rfl
    exact sign (begins ▸ List.mem_cons_self)
  · rw [← begins, String.toList_append]
    cases first : v.1.toList with
    | nil => exact absurd (String.toList_eq_nil_iff.1 first) filled
    | cons c cs =>
      intro inside
      obtain rfl := (List.cons_prefix_cons.1 inside).1
      exact sign (first ▸ List.mem_cons_self)

/-- Unsetting a variable changes the look-up of no such name, be it one that a variable can have or not. -/
theorem lookup?_unset_of_apart (ho : isSettable other = true) (differs : name ≠ other)
    (apart : ¬ (other ++ "=").toList <+: name.toList) : (env.unset other).lookup? name = env.lookup? name := by
  unfold lookup?
  congr 1
  rcases env with ⟨bindings⟩
  show (bindings.filter (·.1 ≠ other)).findSome? _ = bindings.findSome? _
  induction bindings with
  | nil => rfl
  | cons v bindings ih =>
    by_cases hv : v.1 = other
    · have unfound := stripStart?_entry_of_apart ho differs apart v.2
      rw [← hv] at unfound
      rw [List.filter_cons_of_neg (by simpa using hv), ih, List.findSome?_cons, unfound]
    · rw [List.filter_cons_of_pos (by simpa using hv), List.findSome?_cons, List.findSome?_cons, ih]

/-- Environments that differ in one variable answer alike where the name does not reach it. -/
theorem lookup?_of_unset_eq (same : env.unset other = env'.unset other) (ho : isSettable other = true)
    (differs : name ≠ other) (apart : ¬ (other ++ "=").toList <+: name.toList) :
    env.lookup? name = env'.lookup? name := by
  rw [← lookup?_unset_of_apart ho differs apart, same, lookup?_unset_of_apart ho differs apart]

end Apart

/-! ## Rule texts in variables -/

/-- The error for a variable that is not there. -/
def missing (name : String) : Error :=
  .missingText ("环境变量" ++ name ++ "未设置")

/-- The error for a variable that holds no text. -/
def invalid (name : String) : Error :=
  .invalidText ("环境变量" ++ name ++ "不是合法UTF-8")

/-- A rule text is read exactly from a variable whose value is the encoding of one. -/
theorem ruleText_cases (env : Environment) (name : String) :
    (env.lookup? name = none ∧ env.ruleText name = .error (missing name)) ∨
    (∃ value, env.lookup? name = some value ∧ (∀ text, value ≠ Utf8.encode text) ∧
      env.ruleText name = .error (invalid name)) ∨
    (∃ text, env.lookup? name = some (Utf8.encode text) ∧ env.ruleText name = .ok text) := by
  unfold ruleText
  cases env.lookup? name with
  | none => exact .inl ⟨rfl, rfl⟩
  | some value =>
    refine .inr ?_
    cases hd : Utf8.decode? value with
    | none => exact .inl ⟨value, rfl, Utf8.decode?_eq_none_iff.1 hd, by simp [hd, invalid]⟩
    | some text => exact .inr ⟨text, by rw [Utf8.decode?_eq_some_iff.1 hd], by simp [hd]⟩

/-- A rule text in a variable is a matter of looking the variable up. -/
theorem ruleText_congr {env env' : Environment} {name : String} (h : env.lookup? name = env'.lookup? name) :
    env.ruleText name = env'.ruleText name := by
  rw [ruleText, h, ruleText]

theorem ruleText_eq_ok_iff {env : Environment} {name text : String} :
    env.ruleText name = .ok text ↔ env.lookup? name = some (Utf8.encode text) := by
  rcases env.ruleText_cases name with ⟨hl, he⟩ | ⟨value, hl, noText, he⟩ | ⟨given, hl, he⟩
  · rw [hl, he]
    exact iff_of_false nofun nofun
  · rw [hl, he, Option.some.injEq]
    exact iff_of_false nofun (noText text)
  · rw [hl, he, Except.ok.injEq, Option.some.injEq, Utf8.encode_injective.eq_iff]

end SymbolRules.Environment
