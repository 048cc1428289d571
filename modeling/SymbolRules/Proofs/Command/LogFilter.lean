import Mathlib.Data.List.Basic
import Mathlib.Data.List.Induction
import SymbolRules.Command.Check

/-!
# What a verbose log shows

Of the directives that apply to an event one decides (`Decides`): none is more specific, and none after it is as
specific. There is such a directive as soon as one applies (`exists_decides`). That it decides is all that is asked of
a library (`Library.Documented`), and the one that stands in for it does (`documented_standard`).

The verbose flag adds one directive after those of the environment, which applies to every event. So a verbose log
leaves an event out exactly when a directive of the environment is closer to it, as one for a part of the program is,
and does not show it (`shows_verbose_iff`).
-/

namespace SymbolRules

namespace LogFilter

variable {ds before after : List Directive} {d last o : Directive} {e : Event}

/-- A directive decides about an event: it applies, and of the others that do none is more specific and none after it
is as specific. -/
structure Decides (ds : List Directive) (e : Event) (d : Directive) : Prop where
  applies : d.applies e = true
  closest : ∃ before after, ds = before ++ d :: after ∧
    (∀ o ∈ before, o.applies e = true → o.specificity ≤ d.specificity) ∧
    ∀ o ∈ after, o.applies e = true → o.specificity < d.specificity

/-! ## The directive that decides -/

theorem Decides.mem (h : Decides ds e d) : d ∈ ds := by
  obtain ⟨before, after, rfl, -⟩ := h.closest
  simp

theorem Decides.specificity_le (h : Decides ds e d) (mem : o ∈ ds) (applies : o.applies e = true) :
    o.specificity ≤ d.specificity := by
  obtain ⟨before, after, rfl, le, lt⟩ := h.closest
  rw [List.mem_append, List.mem_cons] at mem
  rcases mem with mem | rfl | mem
  · exact le o mem applies
  · exact Nat.le_refl _
  · exact Nat.le_of_lt (lt o mem applies)

/-- The last directive decides when no other that applies is more specific. -/
theorem decides_concat (applies : last.applies e = true)
    (h : ∀ o ∈ ds, o.applies e = true → o.specificity ≤ last.specificity) : Decides (ds ++ [last]) e last :=
  ⟨applies, ds, [], rfl, h, by simp⟩

/-- One that is less specific, or does not apply, changes nothing as the last. -/
theorem Decides.concat (h : Decides ds e d) (less : last.applies e = true → last.specificity < d.specificity) :
    Decides (ds ++ [last]) e d := by
  obtain ⟨before, after, rfl, le, lt⟩ := h.closest
  refine ⟨h.applies, before, after ++ [last], by simp, le, ?_⟩
  intro o ho
  rw [List.mem_append, List.mem_singleton] at ho
  rcases ho with ho | rfl
  · exact lt o ho
  · exact less

/-- Where a directive applies one decides. -/
theorem exists_decides (mem : o ∈ ds) (applies : o.applies e = true) : ∃ d, Decides ds e d := by
  induction ds using List.reverseRecOn generalizing o with
  | nil => cases mem
  | append_singleton ds last ih =>
    by_cases closer : ∃ p ∈ ds, p.applies e = true ∧ (last.applies e = true → last.specificity < p.specificity)
    · obtain ⟨p, hp, there, less⟩ := closer
      obtain ⟨d, h⟩ := ih hp there
      refine ⟨d, h.concat fun hl => ?_⟩
      have := less hl
      have := h.specificity_le hp there
      omega
    · -- then the last one applies, since it or an earlier one does
      have none : ∀ p ∈ ds, p.applies e = true → last.applies e = true ∧ p.specificity ≤ last.specificity := by
        intro p hp there
        by_contra other
        refine closer ⟨p, hp, there, fun hl => ?_⟩
        have := mt (And.intro hl) other
        omega
      rw [List.mem_append, List.mem_singleton] at mem
      rcases mem with mem | rfl
      · exact ⟨last, decides_concat (none o mem applies).1 fun p hp there => (none p hp there).2⟩
      · exact ⟨o, decides_concat applies fun p hp there => (none p hp there).2⟩

/-! ## The most specific directive -/

theorem mostSpecific?_concat (ds : List Directive) (d : Directive) :
    mostSpecific? (ds ++ [d]) =
      if (mostSpecific? ds).any (d.specificity < ·.specificity) then mostSpecific? ds else some d := by
  rw [mostSpecific?, List.foldl_concat]
  rfl

theorem mem_of_mostSpecific? (h : mostSpecific? ds = some d) : d ∈ ds := by
  induction ds using List.reverseRecOn with
  | nil => cases h
  | append_singleton ds last ih =>
    rw [mostSpecific?_concat] at h
    split at h
    · exact List.mem_append_left _ (ih h)
    · obtain rfl := Option.some.inj h
      exact List.mem_concat_self

/-- The last directive is taken when none is more specific. -/
theorem mostSpecific?_concat_of_le (h : ∀ d ∈ ds, d.specificity ≤ last.specificity) :
    mostSpecific? (ds ++ [last]) = some last := by
  rw [mostSpecific?_concat, if_neg]
  intro beaten
  obtain ⟨d, best, more⟩ := (Option.any_eq_true ..).1 beaten
  have := h d (mem_of_mostSpecific? best)
  simp only [decide_eq_true_eq] at more
  omega

/-- What comes after it is less specific and does not take its place. -/
theorem mostSpecific?_append_cons (le : ∀ o ∈ before, o.specificity ≤ d.specificity)
    (lt : ∀ o ∈ after, o.specificity < d.specificity) : mostSpecific? (before ++ d :: after) = some d := by
  induction after using List.reverseRecOn with
  | nil => exact mostSpecific?_concat_of_le le
  | append_singleton after last ih =>
    have less := lt last List.mem_concat_self
    rw [← List.cons_append, ← List.append_assoc, mostSpecific?_concat,
      ih fun o ho => lt o (List.mem_append_left _ ho)]
    simp [less]

/-- An event is shown as the directive says that decides about it. -/
theorem shows_of_decides (h : Decides ds e d) : shows ds e = d.admits e.level := by
  obtain ⟨before, after, rfl, le, lt⟩ := h.closest
  have best : mostSpecific? ((before ++ d :: after).filter (·.applies e)) = some d := by
    simp only [List.filter_append, List.filter_cons, h.applies, if_true]
    apply mostSpecific?_append_cons
    · intro o ho
      exact le o (List.mem_filter.1 ho).1 (List.mem_filter.1 ho).2
    · intro o ho
      exact lt o (List.mem_filter.1 ho).1 (List.mem_filter.1 ho).2
  rw [shows, best, Option.any_some]

/-! ## Lines -/

/-- Whether a character could steer a terminal. -/
def isControl (c : Char) : Bool :=
  c.toNat < 0x20 || 0x7F ≤ c.toNat && c.toNat ≤ 0x9F

/-- No character of a line could steer a terminal. -/
def Plain (line : String) : Prop :=
  ∀ c ∈ line.toList, isControl c = false

instance (line : String) : Decidable (Plain line) :=
  List.decidableBAll (isControl · = false) line.toList

theorem plain_append {a b : String} : Plain (a ++ b) ↔ Plain a ∧ Plain b := by
  simp only [Plain, String.toList_append, List.mem_append, or_imp, forall_and]

theorem showChar_of_not_control {c : Char} (h : isControl c = false) : showChar c = [c] := by
  have controls : ∀ d : Char, isControl d = true → c ≠ d := by
    rintro d hd rfl
    rw [hd] at h
    cases h
  have high : ¬ (0x80 ≤ c.toNat ∧ c.toNat ≤ 0x9F) := by
    simp only [isControl, Bool.or_eq_false_iff, Bool.and_eq_false_iff, decide_eq_false_iff_not] at h
    omega
  rw [showChar, if_neg (controls _ rfl), if_neg (controls _ rfl), if_neg (controls _ rfl), if_neg (controls _ rfl),
    if_neg (controls _ rfl), if_neg high]

theorem showLine_of_plain {line : String} (h : Plain line) : showLine line = line := by
  have each : line.toList.flatMap showChar = line.toList.flatMap fun c => [c] := by
    rw [List.flatMap, List.flatMap, List.map_congr_left fun c hc => showChar_of_not_control (h c hc)]
  rw [showLine, each, List.flatMap_singleton', String.ofList_toList]

/-! ## The directive of the verbose flag -/

theorem program_prefix_eventTarget (e : Event) : program.toList <+: (eventTarget e).toList := by
  cases e <;> simp [eventTarget]

theorem applies_everything (e : Event) : everything.applies e = true := by
  simp [Directive.applies, everything, program_prefix_eventTarget]

theorem admits_everything (level : Level) : everything.admits level = true := by
  cases level <;> rfl

end LogFilter

namespace Command.Library

open LogFilter

variable {library : Library} {env : Environment} {e : Event}

/-- What is asked of a library. -/
structure Documented (library : Library) : Prop where
  /-- Of several directives the closest decides: its level is the most detailed one that is shown. -/
  decides {ds : List Directive} {e : Event} {d : Directive} :
    Decides ds e d → library.shows ds e = d.admits e.level
  /-- A line is written as it is, unless it could steer a terminal. -/
  plain {line : String} : Plain line → library.written line = line

/-- What stands in for the library does what is asked of it. -/
theorem documented_standard : standard.Documented where
  decides := shows_of_decides
  plain := showLine_of_plain

/-- The directives of the program itself are those that it would read. -/
example : standard.directives? "warn" = some fallback ∧
    standard.directives? "symbol_matcher=trace" = some [everything] := by
  decide

/-- A directive of an environment is closer to an event than that of the verbose flag, and does not show it. -/
def Hides (library : Library) (env : Environment) (e : Event) : Prop :=
  ∃ d, Decides (library.ofEnvironment env false) e d ∧ everything.specificity < d.specificity ∧
    d.admits e.level = false

/-- Directives that are no closer to an event than the verbose flag hide nothing. -/
theorem not_hides (least : ∀ o ∈ library.ofEnvironment env false, o.applies e = true →
    o.specificity ≤ everything.specificity) : ¬ library.Hides env e := by
  rintro ⟨d, h, more, -⟩
  have := least d h.mem h.applies
  omega

theorem ofEnvironment_true (library : Library) (env : Environment) :
    library.ofEnvironment env true = library.ofEnvironment env false ++ [everything] := by
  simp [ofEnvironment]

/-- One that is closer than the verbose flag decides although that comes last. -/
theorem Documented.shows_of_closer (documented : library.Documented) {d : Directive}
    (h : Decides (library.ofEnvironment env false) e d) (closer : everything.specificity < d.specificity) :
    library.shows (library.ofEnvironment env true) e = d.admits e.level := by
  rw [ofEnvironment_true]
  exact documented.decides (h.concat fun _ => closer)

/-- **A verbose log leaves out exactly what a closer directive of the environment hides.** -/
theorem Documented.shows_verbose_iff (documented : library.Documented) :
    library.shows (library.ofEnvironment env true) e = true ↔ ¬ library.Hides env e := by
  by_cases closer : ∃ o ∈ library.ofEnvironment env false, o.applies e = true ∧
      everything.specificity < o.specificity
  · obtain ⟨o, mem, applies, more⟩ := closer
    obtain ⟨d, h⟩ := exists_decides mem applies
    have closer := Nat.lt_of_lt_of_le more (h.specificity_le mem applies)
    constructor
    · rintro shown ⟨d', h', closer', refused⟩
      rw [documented.shows_of_closer h' closer', refused] at shown
      cases shown
    · intro open'
      rw [documented.shows_of_closer h closer]
      by_contra refused
      exact open' ⟨d, h, closer, by simpa using refused⟩
  · have least : ∀ o ∈ library.ofEnvironment env false, o.applies e = true →
        o.specificity ≤ everything.specificity := by
      intro o mem applies
      by_contra more
      exact closer ⟨o, mem, applies, by omega⟩
    have shown : library.shows (library.ofEnvironment env true) e = true := by
      rw [ofEnvironment_true, documented.decides (decides_concat (applies_everything e) least), admits_everything]
    exact iff_of_true shown (not_hides least)

/-- A verbose log of events that nothing hides has a line for each of them. -/
theorem Documented.log_verbose (documented : library.Documented) {events : List Event}
    (h : ∀ e ∈ events, ¬ library.Hides env e) :
    library.log env true events = String.join (events.map library.line) := by
  rw [log, List.filter_eq_self.2 fun e he => documented.shows_verbose_iff.2 (h e he)]

end Command.Library

end SymbolRules
