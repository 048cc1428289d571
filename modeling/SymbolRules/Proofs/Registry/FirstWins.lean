import SymbolRules.Proofs.Registry.Installations

/-!
# The first installation wins

After any history of requests, what is in place is what the first installation that succeeded built, from
its text, its settings and the variables at that moment (`installed_eq_none_iff`, `installed_eq_some_iff`).
An installation from a variable fails on the variable alone, so also when a rule set is in place
(`answered`).
-/

namespace SymbolRules.Registry

open Environment (missing invalid isSettable stripStart?)

/-- A request after a history is an installation, and succeeds. -/
def Succeeds (before : List Step) (s : Step) : Prop :=
  s.isInstallation = true ∧ (initial.after before).answer s = .done

/-- No installation of a history succeeds. -/
def NoneSucceeds (history : List Step) : Prop :=
  ∀ before s rest, history = before ++ s :: rest → ¬ Succeeds before s

/-- The first installation of a history that succeeds, and the history before it. -/
structure FirstSuccess (history before : List Step) (s : Step) : Prop where
  here : ∃ rest, history = before ++ s :: rest
  succeeds : Succeeds before s
  first : NoneSucceeds before

/-! ## Which installations succeed -/

/-- An installation from a variable fails exactly when the variable is not there or holds no text. -/
theorem answer_installFromVariable_failed_iff {r : Registry} {name : String} {e : Error} :
    r.answer (.installFromVariable name) = .failed e ↔
      r.environment.lookup? name = none ∧ e = missing name ∨
      (∃ value, r.environment.lookup? name = some value ∧ ∀ text, value ≠ Utf8.encode text) ∧ e = invalid name := by
  rcases r.environment.ruleText_cases name with ⟨hl, he⟩ | ⟨value, hl, hv, he⟩ | ⟨text, hl, -⟩
  · rw [answer_installFromVariable_error he]
    simp [hl, eq_comm]
  · rw [answer_installFromVariable_error he]
    simp [hl, hv, eq_comm]
  · rw [(next_of_builds (.fromVariable hl)).1]
    constructor
    · exact nofun
    · rintro (⟨unset, -⟩ | ⟨⟨value, hv, noText⟩, -⟩)
      · rw [hl] at unset; cases unset
      · rw [hl] at hv
        exact absurd (Option.some.inj hv).symm (noText text)

/-- The installations that succeed are those that build a rule set. -/
theorem succeeds_iff_builds {before : List Step} {s : Step} :
    Succeeds before s ↔ ∃ set, s.Builds (environmentAfter before) set := by
  rw [← environment_after_initial]
  exact installs_iff_builds

/-! ## What is in place -/

theorem noneSucceeds_nil : NoneSucceeds [] :=
  neverInstalls_nil initial

theorem noneSucceeds_concat_iff {history : List Step} {s : Step} :
    NoneSucceeds (history ++ [s]) ↔ NoneSucceeds history ∧ ¬ Succeeds history s := by
  constructor
  · intro h
    refine ⟨fun before t rest he => h before t (rest ++ [s]) ?_, h history s [] rfl⟩
    rw [he, List.append_assoc, List.cons_append]
  · rintro ⟨h, hs⟩ before t rest he
    rcases List.eq_nil_or_concat rest with rfl | ⟨rest, last, rfl⟩
    · obtain ⟨rfl, hst⟩ := List.append_inj' he rfl
      obtain rfl := List.singleton_inj.1 hst
      exact hs
    · rw [List.concat_eq_append, ← List.cons_append, ← List.append_assoc] at he
      exact h before t rest (List.append_inj' he rfl).1

/-- The first installation that succeeds puts in place what it builds. -/
theorem installed_of_first {history before : List Step} {s : Step} {set : RuleSet}
    (h : FirstSuccess history before s) (built : s.Builds (environmentAfter before) set) :
    (initial.after history).installed = some set := by
  rw [← environment_after_initial] at built
  exact FirstInstall.installed_after ⟨h.here, h.succeeds, h.first⟩ rfl built

/-- A history in which some installation succeeds has a first one. -/
theorem exists_firstSuccess {history : List Step} (h : ¬ NoneSucceeds history) :
    ∃ before s, FirstSuccess history before s := by
  obtain ⟨before, s, first⟩ := exists_firstInstall h
  exact ⟨before, s, first.here, first.installs, first.never⟩

theorem installed_eq_none_iff {history : List Step} :
    (initial.after history).installed = none ↔ NoneSucceeds history :=
  installed_after_eq_none_iff rfl

theorem installed_eq_some_iff {history : List Step} {set : RuleSet} :
    (initial.after history).installed = some set ↔
      ∃ before s, FirstSuccess history before s ∧ s.Builds (environmentAfter before) set := by
  constructor
  · intro h
    have some : ¬ NoneSucceeds history := by
      rw [← installed_eq_none_iff, h]
      exact nofun
    obtain ⟨before, s, first⟩ := exists_firstSuccess some
    obtain ⟨built, hb⟩ := succeeds_iff_builds.1 first.succeeds
    rw [installed_of_first first hb] at h
    exact ⟨before, s, first, Option.some.inj h ▸ hb⟩
  · rintro ⟨before, s, first, built⟩
    exact installed_of_first first built

/-! ## Answers -/

theorem answer_current (r : Registry) :
    r.answer .current = (r.installed.map Answer.ruleSet).getD (.failed .notInstalled) := by
  rcases r with ⟨env, _ | set⟩ <;> rfl

theorem answer_query (r : Registry) (symbol : Symbol) :
    r.answer (.query symbol) =
      (r.installed.map fun set => .selected (set.querySymbol symbol).value).getD (.failed .notInstalled) := by
  rcases r with ⟨env, _ | set⟩ <;> rfl

/-- How the request after a history is answered. -/
structure Answered (history : List Step) : Prop where
  /-- The installation of a text always succeeds. -/
  install (text : String) (settings : Settings) : (initial.after history).answer (.install text settings) = .done
  /-- The installation from a variable fails exactly when the variable is not there or holds no text. -/
  fails (name : String) (e : Error) :
    (initial.after history).answer (.installFromVariable name) = .failed e ↔
      (environmentAfter history).lookup? name = none ∧ e = missing name ∨
      (∃ value, (environmentAfter history).lookup? name = some value ∧ ∀ text, value ≠ Utf8.encode text) ∧
        e = invalid name
  /-- Otherwise it succeeds. -/
  succeeds (name : String) :
    (initial.after history).answer (.installFromVariable name) = .done ↔
      ∃ text, (environmentAfter history).lookup? name = some (Utf8.encode text)
  /-- A variable is there exactly when the last request on it set it, and has that value. -/
  value (name : String) :
    isSettable name = true → (environmentAfter history).lookup? name = valueAfter name history
  /-- A name that begins with that of a variable and an equals sign is answered from inside the value of that variable,
  by what follows there after the rest of the name and another equals sign. -/
  inside (name inner : String) :
    isSettable name = true → '\x00' ∉ inner.toList →
      (environmentAfter history).lookup? (name ++ "=" ++ inner) =
        (valueAfter name history).bind (stripStart? (Utf8.encode (inner ++ "=")))
  /-- No variable answers to any other name. -/
  nameless (name : String) :
    name = "" ∨ '\x00' ∈ name.toList ∨ ['='] <+: name.toList → (environmentAfter history).lookup? name = none
  /-- A request that fails changes nothing. -/
  unchanged (s : Step) (e : Error) :
    (initial.after history).answer s = .failed e → (initial.after history).next s = initial.after history
  /-- What is in place is reported, exactly when there is something. -/
  current (set : RuleSet) :
    (initial.after history).answer .current = .ruleSet set ↔ (initial.after history).installed = some set
  current_none :
    (initial.after history).answer .current = .failed .notInstalled ↔ (initial.after history).installed = none
  /-- What is in place answers for symbols, exactly when there is something. -/
  query (symbol : Symbol) (set : RuleSet) :
    (initial.after history).installed = some set →
      (initial.after history).answer (.query symbol) = .selected (set.querySymbol symbol).value
  query_none (symbol : Symbol) :
    (initial.after history).answer (.query symbol) = .failed .notInstalled ↔
      (initial.after history).installed = none

theorem answered (history : List Step) : Answered history where
  install text settings := (next_of_builds (.text text settings)).1
  fails name e := by rw [← environment_after_initial, answer_installFromVariable_failed_iff]
  succeeds name := by rw [← environment_after_initial, answer_installFromVariable_done_iff]
  value name hn := lookup?_environmentAfter hn history
  inside name inner hn hi := by
    rw [Environment.lookup?_inside (wellNamed_environmentAfter history) hn hi, lookup?_environmentAfter hn]
  nameless name h := Environment.lookup?_eq_none (wellNamed_environmentAfter history) h
  unchanged s e := next_of_failed
  current set := by
    rw [answer_current]
    cases (initial.after history).installed <;> simp
  current_none := by
    rw [answer_current]
    cases (initial.after history).installed <;> simp
  query symbol set h := by rw [answer_query, h, Option.map_some, Option.getD_some]
  query_none symbol := by
    rw [answer_query]
    cases (initial.after history).installed <;> simp

/-- **The first installation wins.** After any history, what is in place is what the first installation
that succeeded built from its own text and settings and the variables at that moment. It stays, and it
answers every request that needs it. -/
theorem first_installation_wins (history : List Step) :
    ((initial.after history).installed = none ↔ NoneSucceeds history) ∧
    (∀ set, (initial.after history).installed = some set ↔
      ∃ before s, FirstSuccess history before s ∧ s.Builds (environmentAfter before) set) ∧
    (∀ set, (initial.after history).installed = some set →
      ∀ later, (initial.after (history ++ later)).installed = some set) ∧
    Answered history := by
  refine ⟨installed_eq_none_iff, fun set => installed_eq_some_iff, fun set h later => ?_, answered history⟩
  rw [after_append]
  exact installed_after h later

instance (before : List Step) (s : Step) : Decidable (Succeeds before s) :=
  inferInstanceAs (Decidable (_ ∧ _))

/-- A variable that is set after it was asked for. -/
def late : List Step :=
  [.installFromVariable "RULES", .setVariable "RULES" (Utf8.encode "a.*")]

/-- The installation from a variable that is set too late fails and changes nothing, the next one succeeds,
and the one after that leaves its rules in place. -/
theorem first_installation_wins_late :
    (initial.after late).next (.installFromVariable "OTHER") = initial.after late ∧
    (environmentAfter late).lookup? "RULES" = valueAfter "RULES" late ∧
    (initial.after (late ++ [.installFromVariable "RULES"] ++ [.install "b" {}])).installed =
      some (RuleSet.build "a.*" {}).value ∧
    (initial.after (late ++ [.installFromVariable "RULES"])).answer (.query (.text "a/b")) = .selected true := by
  have first : FirstSuccess (late ++ [.installFromVariable "RULES"]) late (.installFromVariable "RULES") := by
    refine ⟨⟨[], rfl⟩, by decide, ?_⟩
    show NoneSucceeds ([] ++ [_] ++ [_])
    rw [noneSucceeds_concat_iff, noneSucceeds_concat_iff]
    exact ⟨⟨noneSucceeds_nil, by decide⟩, by decide⟩
  have built : Step.Builds (environmentAfter late) (.installFromVariable "RULES") (RuleSet.build "a.*" {}).value :=
    .fromVariable (by decide)
  have won := (first_installation_wins (late ++ [.installFromVariable "RULES"])).2.1 _ |>.2 ⟨_, _, first, built⟩
  refine ⟨?_, ?_, ?_, ?_⟩
  · exact (first_installation_wins late).2.2.2.unchanged _ (missing "OTHER") (by decide)
  · exact (first_installation_wins late).2.2.2.value "RULES" (by decide)
  · exact (first_installation_wins _).2.2.1 _ won [.install "b" {}]
  · rw [(first_installation_wins _).2.2.2.query (.text "a/b") _ won]
    decide

end SymbolRules.Registry
