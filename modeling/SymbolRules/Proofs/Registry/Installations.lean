import SymbolRules.Proofs.Registry.Run

/-!
# Installations that succeed

An installation succeeds when it builds a rule set (`installs_iff_builds`), so nothing is put in place while none
succeeds, and only then (`installed_after_eq_none_iff`). A history with one that succeeds has a first one
(`exists_firstInstall`), and from then on what that one built is in place (`FirstInstall.installed_after`).
-/

namespace SymbolRules.Registry

/-- A request is an installation, and succeeds. -/
def Installs (r : Registry) (s : Step) : Prop :=
  s.isInstallation = true ∧ r.answer s = .done

instance (r : Registry) (s : Step) : Decidable (r.Installs s) :=
  inferInstanceAs (Decidable (_ ∧ _))

/-- No installation of a history succeeds. -/
def NeverInstalls (r : Registry) (history : List Step) : Prop :=
  ∀ before s rest, history = before ++ s :: rest → ¬ (r.after before).Installs s

/-- The first installation of a history that succeeds, and the history before it. -/
structure FirstInstall (r : Registry) (history before : List Step) (s : Step) : Prop where
  here : ∃ rest, history = before ++ s :: rest
  installs : (r.after before).Installs s
  never : r.NeverInstalls before

variable {r : Registry} {s : Step} {set : RuleSet} {history before rest : List Step}

/-! ## One request -/

theorem answer_installFromVariable_error {name : String} {e : Error} (h : r.environment.ruleText name = .error e) :
    r.answer (.installFromVariable name) = .failed e := by
  rw [answer, step_installFromVariable_error h]
  rfl

/-- An installation from a variable succeeds exactly when the variable holds a text. -/
theorem answer_installFromVariable_done_iff {name : String} :
    r.answer (.installFromVariable name) = .done ↔ ∃ text, r.environment.lookup? name = some (Utf8.encode text) := by
  constructor
  · intro h
    rcases r.environment.ruleText_cases name with ⟨-, he⟩ | ⟨-, -, -, he⟩ | ⟨text, hl, -⟩
    · rw [answer_installFromVariable_error he] at h; cases h
    · rw [answer_installFromVariable_error he] at h; cases h
    · exact ⟨text, hl⟩
  · rintro ⟨text, hl⟩
    exact (next_of_builds (.fromVariable hl)).1

/-- The installations that succeed are those that build a rule set. -/
theorem installs_iff_builds : r.Installs s ↔ ∃ set, s.Builds r.environment set := by
  constructor
  · rintro ⟨installs, done⟩
    cases s with
    | install text settings => exact ⟨_, .text text settings⟩
    | installFromVariable name =>
      obtain ⟨text, hl⟩ := answer_installFromVariable_done_iff.1 done
      exact ⟨_, .fromVariable hl⟩
    | setVariable | unsetVariable | current | query => cases installs
  · rintro ⟨set, built⟩
    refine ⟨?_, (next_of_builds built).1⟩
    cases built <;> rfl

/-- What is in place is the same after a request that installs nothing. -/
theorem installed_next_of_not_installs (h : ¬ r.Installs s) : (r.next s).installed = r.installed := by
  rw [next_of_not_builds fun set built => h (installs_iff_builds.2 ⟨set, built⟩)]

/-! ## A history of requests -/

theorem neverInstalls_nil (r : Registry) : r.NeverInstalls [] := by
  intro before s rest h
  cases before <;> cases h

theorem neverInstalls_cons_iff :
    r.NeverInstalls (s :: rest) ↔ ¬ r.Installs s ∧ (r.next s).NeverInstalls rest := by
  constructor
  · intro h
    exact ⟨h [] s rest rfl, fun before t later he => h (s :: before) t later (by rw [he, List.cons_append])⟩
  · rintro ⟨hs, h⟩ before t later he
    cases before with
    | nil =>
      obtain ⟨rfl, -⟩ := List.cons.inj he
      exact hs
    | cons _ before =>
      obtain ⟨rfl, same⟩ := List.cons.inj he
      exact h before t later same

/-- While no installation succeeds, nothing is put in place. -/
theorem installed_after_of_neverInstalls (empty : r.installed = none) (never : r.NeverInstalls history) :
    (r.after history).installed = none := by
  induction history generalizing r with
  | nil => exact empty
  | cons s rest ih =>
    obtain ⟨hs, never⟩ := neverInstalls_cons_iff.1 never
    rw [after_cons]
    exact ih ((installed_next_of_not_installs hs).trans empty) never

/-- A history in which some installation succeeds has a first one. -/
theorem exists_firstInstall (h : ¬ r.NeverInstalls history) : ∃ before s, r.FirstInstall history before s := by
  induction history generalizing r with
  | nil => exact absurd (neverInstalls_nil r) h
  | cons s rest ih =>
    by_cases hs : r.Installs s
    · exact ⟨[], s, ⟨rest, rfl⟩, hs, neverInstalls_nil r⟩
    · obtain ⟨before, t, ⟨later, here⟩, installs, never⟩ := ih fun never => h (neverInstalls_cons_iff.2 ⟨hs, never⟩)
      refine ⟨s :: before, t, ⟨later, ?_⟩, installs, neverInstalls_cons_iff.2 ⟨hs, never⟩⟩
      rw [here, List.cons_append]

theorem FirstInstall.append (first : r.FirstInstall history before s) (later : List Step) :
    r.FirstInstall (history ++ later) before s := by
  obtain ⟨rest, here⟩ := first.here
  refine ⟨⟨rest ++ later, ?_⟩, first.installs, first.never⟩
  rw [here, List.append_assoc, List.cons_append]

/-- No other that succeeds is before the first one. -/
theorem FirstInstall.eq_nil_of_append {between : List Step} {t : Step} {later : List Step}
    (first : r.FirstInstall history (before ++ between) s) (here : history = before ++ t :: later)
    (installs : (r.after before).Installs t) : between = [] := by
  obtain ⟨rest, split⟩ := first.here
  cases between with
  | nil => rfl
  | cons u between =>
    rw [here, List.append_assoc] at split
    obtain ⟨rfl, -⟩ := List.cons.inj (List.append_cancel_left split)
    exact absurd installs (first.never before t between rfl)

/-- There is no more than one first installation. -/
theorem FirstInstall.unique {before' : List Step} {s' : Step} (first : r.FirstInstall history before s)
    (other : r.FirstInstall history before' s') : before = before' ∧ s = s' := by
  obtain ⟨rest, here⟩ := first.here
  obtain ⟨rest', here'⟩ := other.here
  have same : before = before' := by
    rcases List.append_eq_append_iff.1 (here.symm.trans here') with ⟨between, rfl, -⟩ | ⟨between, rfl, -⟩
    · rw [other.eq_nil_of_append here first.installs, List.append_nil]
    · rw [first.eq_nil_of_append here' other.installs, List.append_nil]
  subst same
  obtain ⟨rfl, -⟩ := List.cons.inj (List.append_cancel_left (here.symm.trans here'))
  exact ⟨rfl, rfl⟩

/-- The first installation that succeeds puts in place what it builds. -/
theorem FirstInstall.installed_after (first : r.FirstInstall history before s) (empty : r.installed = none)
    (built : s.Builds (r.after before).environment set) : (r.after history).installed = some set := by
  obtain ⟨rest, rfl⟩ := first.here
  rw [after_append, after_cons]
  refine Registry.installed_after ?_ rest
  rw [(next_of_builds built).2, installed_after_of_neverInstalls empty first.never, Option.getD_none]

/-- Where nothing was in place, nothing is exactly while no installation has succeeded. -/
theorem installed_after_eq_none_iff (empty : r.installed = none) :
    (r.after history).installed = none ↔ r.NeverInstalls history := by
  refine ⟨fun h => ?_, installed_after_of_neverInstalls empty⟩
  by_contra some
  obtain ⟨before, s, first⟩ := exists_firstInstall some
  obtain ⟨set, built⟩ := installs_iff_builds.1 first.installs
  rw [first.installed_after empty built] at h
  cases h

end SymbolRules.Registry
