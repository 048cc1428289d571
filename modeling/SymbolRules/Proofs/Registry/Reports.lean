import SymbolRules.Proofs.Event
import SymbolRules.Proofs.Registry.FirstWins
import SymbolRules.Proofs.RuleSet.Compiled

/-!
# What the registry reports

A request reports one of four things (`Reported`): what it compiled and that this is in place now, that what was in
place still is, one hit, or nothing. Which of them it is depends on what is in place (`reported`). So from nothing in
place the first installation that succeeds compiles and no other request does, and what any installation reports to be
in place is the rule set of that one, whatever its own text and settings are (`CompilesOnce`).
-/

namespace SymbolRules

namespace Event

/-- What is reported while a rule text is compiled. -/
def isCompiling : Event → Bool
  | .compiled .. | .listed .. => true
  | .hit .. | .ready .. | .loaded _ => false

/-- The report that a rule set is in place. -/
def isReady : Event → Bool
  | .ready .. => true
  | .compiled .. | .listed .. | .hit .. | .loaded _ => false

/-- What is reported about installations. -/
def isInstalling (e : Event) : Bool :=
  e.isCompiling || e.isReady

theorem isReady_of_isCompiling {e : Event} (h : e.isCompiling = true) : e.isReady = false := by
  cases e with
  | compiled | listed => rfl
  | hit | ready | loaded => cases h

end Event

theorem RuleSet.events_build (text : String) (settings : Settings) :
    (build text settings).events = (build text settings).value.compileEvents settings.verbose := by
  rw [build, Logged.events_bind, Logged.events_emitAll, Logged.events_pure, List.append_nil]
  rfl

theorem RuleSet.isCompiling_of_mem_compileEvents {set : RuleSet} {verbose : Bool} {e : Event}
    (h : e ∈ set.compileEvents verbose) : e.isCompiling = true := by
  rw [compileEvents, List.mem_cons] at h
  rcases h with rfl | h
  · rfl
  · cases verbose with
    | false => cases h
    | true =>
      obtain ⟨i, hi, rfl⟩ := List.mem_mapIdx.1 h
      rfl

namespace Registry

/-- What a request reports. -/
def reports (r : Registry) (s : Step) : List Event :=
  (r.step s).events

/-- Whether a request asks for a report of every rule that it compiles. An installation from a variable has the
settings that hold when none are given. -/
def Step.isVerbose : Step → Bool
  | .install _ settings => settings.verbose
  | .installFromVariable _ => (default : Settings).verbose
  | .setVariable .. | .unsetVariable _ | .current | .query _ => false

/-- What a request may report. -/
inductive Reported (r : Registry) (s : Step) : List Event → Prop where
  /-- Nothing was in place, and what it built is now. -/
  | compiled {set : RuleSet} (empty : r.installed = none) (built : s.Builds r.environment set) :
    Reported r s (set.compileEvents s.isVerbose ++ [.ready set.size set.category])
  /-- What was in place stays. -/
  | again {set other : RuleSet} (there : r.installed = some set) (built : s.Builds r.environment other) :
    Reported r s [.ready set.size set.category]
  /-- A symbol is selected. -/
  | hit {candidate : String} {rule : Rule} (selected : r.answer s = .selected true) : Reported r s [.hit candidate rule]
  | silent (unbuilt : ∀ set, ¬ s.Builds r.environment set) : Reported r s []

variable {r : Registry} {s : Step} {set : RuleSet} {history : List Step}

/-! ## One request -/

theorem events_install (r : Registry) (text : String) (settings : Settings) :
    (r.install text settings).events =
      match r.installed with
      | none => (RuleSet.build text settings).value.compileEvents settings.verbose ++
          [.ready (RuleSet.build text settings).value.size (RuleSet.build text settings).value.category]
      | some set => [.ready set.size set.category] := by
  rcases r with ⟨env, _ | set⟩
  · rw [← RuleSet.events_build]
    rfl
  · rfl

theorem reports_install (r : Registry) (text : String) (settings : Settings) :
    r.reports (.install text settings) = (r.install text settings).events := by
  rw [reports, step, Logged.events_bind, Logged.events_pure, List.append_nil]

/-- A request that builds a rule set compiles it and says that it is in place, unless there is one. -/
theorem reports_of_builds (built : s.Builds r.environment set) :
    r.reports s = match r.installed with
      | none => set.compileEvents s.isVerbose ++ [.ready set.size set.category]
      | some there => [.ready there.size there.category] := by
  cases built with
  | text text settings => rw [reports_install, events_install]; rfl
  | fromVariable h =>
    rw [reports, step_installFromVariable h, ← reports, reports_install, events_install]
    rfl

theorem reports_current (r : Registry) : r.reports .current = [] := by
  rcases r with ⟨env, _ | set⟩ <;> rfl

theorem reports_query (r : Registry) (symbol : Symbol) :
    r.reports (.query symbol) =
      match r.installed with
      | none => []
      | some set => (set.querySymbol symbol).events := by
  rcases r with ⟨env, _ | set⟩
  · rfl
  · exact List.append_nil _

/-- A query reports its hit when it selects the symbol, and nothing otherwise. -/
theorem reported_query (r : Registry) (symbol : Symbol) : Reported r (.query symbol) (r.reports (.query symbol)) := by
  have unbuilt : ∀ set, ¬ (Step.query symbol).Builds r.environment set := nofun
  rw [reports_query]
  cases there : r.installed with
  | none => exact .silent unbuilt
  | some set =>
    simp only [RuleSet.querySymbol, RuleSet.events_query]
    cases first : set.firstHit? symbol.toText with
    | none => exact .silent unbuilt
    | some rule =>
      refine .hit ?_
      rw [answer_query, there, Option.map_some, Option.getD_some, RuleSet.querySymbol, RuleSet.value_query, first]
      rfl

/-- **Every request reports one of the four things.** -/
theorem reported (r : Registry) (s : Step) : Reported r s (r.reports s) := by
  by_cases hs : ∃ set, s.Builds r.environment set
  · obtain ⟨set, built⟩ := hs
    rw [reports_of_builds built]
    cases there : r.installed with
    | none => exact .compiled there built
    | some other => exact .again there built
  · have unbuilt : ∀ set, ¬ s.Builds r.environment set := fun set built => hs ⟨set, built⟩
    cases s with
    | setVariable | unsetVariable => exact .silent unbuilt
    | install text settings => exact absurd (.text text settings) (unbuilt _)
    | installFromVariable name =>
      rcases r.environment.ruleText_cases name with ⟨-, he⟩ | ⟨-, -, -, he⟩ | ⟨text, hl, -⟩
      · rw [reports, step_installFromVariable_error he]; exact .silent unbuilt
      · rw [reports, step_installFromVariable_error he]; exact .silent unbuilt
      · exact absurd (.fromVariable hl) (unbuilt _)
    | current => rw [reports_current]; exact .silent unbuilt
    | query symbol => exact reported_query r symbol

variable {events : List Event}

theorem Reported.eq_nil_of_failed (h : Reported r s events) {e : Error} (failed : r.answer s = .failed e) :
    events = [] := by
  cases h with
  | compiled _ built => rw [(next_of_builds built).1] at failed; cases failed
  | again _ built => rw [(next_of_builds built).1] at failed; cases failed
  | hit selected => rw [selected] at failed; cases failed
  | silent => rfl

/-- Nothing is compiled where something is in place, and nothing but by an installation that succeeds. -/
theorem Reported.isCompiling_eq_false (h : Reported r s events) (other : ¬ (r.installed = none ∧ r.Installs s))
    {e : Event} (he : e ∈ events) : e.isCompiling = false := by
  cases h with
  | compiled empty built => exact absurd ⟨empty, installs_iff_builds.2 ⟨_, built⟩⟩ other
  | again => rw [List.mem_singleton] at he; subst he; rfl
  | hit => rw [List.mem_singleton] at he; subst he; rfl
  | silent => cases he

/-- Of installations a request reports nothing unless it is one that succeeds. -/
theorem Reported.filter_of_not_installs (h : Reported r s events) (hs : ¬ r.Installs s) :
    events.filter Event.isInstalling = [] := by
  cases h with
  | compiled _ built => exact absurd (installs_iff_builds.2 ⟨_, built⟩) hs
  | again _ built => exact absurd (installs_iff_builds.2 ⟨_, built⟩) hs
  | hit => rfl
  | silent => rfl

/-! ## A history of requests -/

/-- What a history of requests reports. -/
def transcript (r : Registry) : List Step → List Event
  | [] => []
  | s :: rest => r.reports s ++ (r.next s).transcript rest

/-- How many installations of a history succeed. -/
def successes (r : Registry) : List Step → Nat
  | [] => 0
  | s :: rest => (if r.Installs s then 1 else 0) + (r.next s).successes rest

theorem transcript_append (r : Registry) (before rest : List Step) :
    r.transcript (before ++ rest) = r.transcript before ++ (r.after before).transcript rest := by
  induction before generalizing r with
  | nil => rfl
  | cons s before ih => rw [List.cons_append, transcript, ih, transcript, after_cons, List.append_assoc]

theorem successes_append (r : Registry) (before rest : List Step) :
    r.successes (before ++ rest) = r.successes before + (r.after before).successes rest := by
  induction before generalizing r with
  | nil => exact (Nat.zero_add _).symm
  | cons s before ih => rw [List.cons_append, successes, ih, successes, after_cons, Nat.add_assoc]

theorem successes_of_neverInstalls (never : r.NeverInstalls history) : r.successes history = 0 := by
  induction history generalizing r with
  | nil => rfl
  | cons s rest ih =>
    obtain ⟨hs, never⟩ := neverInstalls_cons_iff.1 never
    rw [successes, if_neg hs, ih never]

/-- Of installations nothing is reported while none succeeds. -/
theorem filter_transcript_of_neverInstalls (never : r.NeverInstalls history) :
    (r.transcript history).filter Event.isInstalling = [] := by
  induction history generalizing r with
  | nil => rfl
  | cons s rest ih =>
    obtain ⟨hs, never⟩ := neverInstalls_cons_iff.1 never
    rw [transcript, List.filter_append, (reported r s).filter_of_not_installs hs, ih never, List.append_nil]

/-- Where a rule set is in place, each installation that succeeds reports that one, and nothing is compiled. -/
theorem filter_transcript_of_installed (there : r.installed = some set) (history : List Step) :
    (r.transcript history).filter Event.isInstalling =
      List.replicate (r.successes history) (.ready set.size set.category) := by
  induction history generalizing r with
  | nil => rfl
  | cons s rest ih =>
    rw [transcript, List.filter_append, ih (installed_next there s), successes]
    by_cases hs : r.Installs s
    · obtain ⟨other, built⟩ := installs_iff_builds.1 hs
      rw [reports_of_builds built, there, if_pos hs, Nat.add_comm, List.replicate_succ]
      rfl
    · rw [(reported r s).filter_of_not_installs hs, if_neg hs, Nat.zero_add, List.nil_append]

/-- All that a history reports of installations: what the first one that succeeds compiles, and as many reports that
it is in place as installations succeed. -/
theorem FirstInstall.filter_transcript {before : List Step} (first : r.FirstInstall history before s)
    (empty : r.installed = none) (built : s.Builds (r.after before).environment set) :
    (r.transcript history).filter Event.isInstalling =
      set.compileEvents s.isVerbose ++ List.replicate (r.successes history) (.ready set.size set.category) := by
  obtain ⟨rest, rfl⟩ := first.here
  have nothing : (r.after before).installed = none := installed_after_of_neverInstalls empty first.never
  have placed : ((r.after before).next s).installed = some set := by
    rw [(next_of_builds built).2, nothing, Option.getD_none]
  have compiled : (set.compileEvents s.isVerbose).filter Event.isInstalling = set.compileEvents s.isVerbose := by
    rw [List.filter_eq_self]
    intro e he
    rw [Event.isInstalling, RuleSet.isCompiling_of_mem_compileEvents he, Bool.true_or]
  -- the history is what comes before, this installation, and a rest that begins with its rule set in place
  rw [transcript_append, List.filter_append, filter_transcript_of_neverInstalls first.never, List.nil_append,
    transcript, List.filter_append, filter_transcript_of_installed placed, reports_of_builds built, nothing,
    List.filter_append, compiled, List.append_assoc, successes_append, successes_of_neverInstalls first.never,
    successes, if_pos first.installs, Nat.zero_add, Nat.add_comm, List.replicate_succ]
  rfl

/-- What the requests of a history report of compiling and of installations. -/
structure CompilesOnce (r : Registry) (history : List Step) : Prop where
  /-- The first installation that succeeds reports what it compiles, each rule too if it asks for that, and then that
  this is in place. -/
  first {before : List Step} {s : Step} : r.FirstInstall history before s →
    ∃ set, s.Builds (r.after before).environment set ∧
      (r.after before).reports s =
        .compiled set.stats set.category :: (if s.isVerbose then set.rules.mapIdx Event.listed else []) ++
          [.ready set.size set.category] ∧
      (r.transcript history).filter Event.isInstalling =
        set.compileEvents s.isVerbose ++ List.replicate (r.successes history) (.ready set.size set.category)
  /-- No other request reports that anything is compiled. -/
  other {before rest : List Step} {s : Step} : history = before ++ s :: rest → ¬ r.FirstInstall history before s →
    ∀ e ∈ (r.after before).reports s, e.isCompiling = false
  /-- Each installation that succeeds ends with the one report that what the first one built is in place, which names
  the number of its rules and its category. -/
  ready {before rest : List Step} {s : Step} : history = before ++ s :: rest → (r.after before).Installs s →
    ∃ earlier t set work, r.FirstInstall history earlier t ∧ t.Builds (r.after earlier).environment set ∧
      (r.after before).reports s = work ++ [.ready set.size set.category] ∧ (∀ e ∈ work, e.isReady = false) ∧
      (Event.ready set.size set.category).line =
        "DEBUG " ++ ("全局匹配器已就绪，规则数：" ++ toString set.size ++ "，内存类别：" ++ set.category.name)
  /-- A request that fails reports nothing. -/
  failed {before rest : List Step} {s : Step} {e : Error} : history = before ++ s :: rest →
    (r.after before).answer s = .failed e → (r.after before).reports s = []
  /-- Nothing is reported of installations where none succeeds. -/
  never : r.NeverInstalls history → (r.transcript history).filter Event.isInstalling = []

theorem reports_first {before : List Step} (empty : r.installed = none) (first : r.FirstInstall history before s) :
    ∃ set, s.Builds (r.after before).environment set ∧
      (r.after before).reports s = set.compileEvents s.isVerbose ++ [.ready set.size set.category] := by
  obtain ⟨set, built⟩ := installs_iff_builds.1 first.installs
  refine ⟨set, built, ?_⟩
  rw [reports_of_builds built, installed_after_of_neverInstalls empty first.never]

/-- **Rules are compiled once.** Whatever requests are made where nothing is in place, the first installation that
succeeds reports what it compiles and no other request does. Each installation that succeeds ends with the report that
what the first one built is in place, whatever its own text and settings are. -/
theorem compiles_once (empty : r.installed = none) (history : List Step) : CompilesOnce r history where
  first first := by
    obtain ⟨set, built, reports⟩ := reports_first empty first
    exact ⟨set, built, reports, first.filter_transcript empty built⟩
  other here later e he := by
    refine (reported _ _).isCompiling_eq_false ?_ he
    rintro ⟨nothing, installs⟩
    exact later ⟨⟨_, here⟩, installs, (installed_after_eq_none_iff empty).1 nothing⟩
  ready := by
    intro before rest s here installs
    by_cases never : r.NeverInstalls before
    · have first : r.FirstInstall history before s := ⟨⟨rest, here⟩, installs, never⟩
      obtain ⟨set, built, reports⟩ := reports_first empty first
      refine ⟨before, s, set, _, first, built, reports, fun e he => ?_, Event.line_ready _ _⟩
      exact Event.isReady_of_isCompiling (RuleSet.isCompiling_of_mem_compileEvents he)
    · obtain ⟨earlier, t, first⟩ := exists_firstInstall never
      obtain ⟨set, built⟩ := installs_iff_builds.1 first.installs
      obtain ⟨other, builtNow⟩ := installs_iff_builds.1 installs
      refine ⟨earlier, t, set, [], here ▸ first.append (s :: rest), built, ?_, fun e he => (by cases he),
        Event.line_ready _ _⟩
      rw [reports_of_builds builtNow, first.installed_after empty built]
      rfl
  failed _ failed := (reported _ _).eq_nil_of_failed failed
  never := filter_transcript_of_neverInstalls

/-- A variable that holds no text yet, an installation that lists its rules, and later ones with other rules. -/
def relisted : List Step :=
  [.installFromVariable "RULES", .install "a.*,b" ⟨.logging, true⟩, .setVariable "RULES" (Utf8.encode "c"),
    .installFromVariable "RULES", .query (.text "b"), .install "d;e;f" ⟨.compiler, true⟩]

theorem compiles_once_relisted :
    (initial.transcript relisted).filter Event.isInstalling =
      (RuleSet.build "a.*,b" ⟨.logging, true⟩).events ++ List.replicate 3 (.ready 2 .logging) ∧
    ((initial.after (relisted.take 3)).reports (.installFromVariable "RULES")).getLast? = some (.ready 2 .logging) ∧
    (∀ e ∈ (initial.after (relisted.take 4)).reports (.query (.text "b")), e.isCompiling = false) ∧
    initial.reports (.installFromVariable "RULES") = [] ∧
    (initial.transcript (relisted.take 1)).filter Event.isInstalling = [] := by
  have once : CompilesOnce initial relisted := compiles_once rfl relisted
  have unset : initial.NeverInstalls (relisted.take 1) :=
    neverInstalls_cons_iff.2 ⟨by decide, neverInstalls_nil _⟩
  have first : initial.FirstInstall relisted (relisted.take 1) (.install "a.*,b" ⟨.logging, true⟩) :=
    ⟨⟨relisted.drop 2, rfl⟩, by decide, unset⟩
  refine ⟨?_, ?_, ?_, ?_, ?_⟩
  · obtain ⟨set, built, -, filtered⟩ := once.first first
    cases built
    exact filtered
  · have installs : (initial.after (relisted.take 3)).Installs (.installFromVariable "RULES") := by decide
    obtain ⟨before, s, set, work, found, built, reports, -⟩ := once.ready rfl installs
    obtain ⟨rfl, rfl⟩ := found.unique first
    cases built
    rw [reports, List.getLast?_concat]
    rfl
  · have later : ¬ initial.FirstInstall relisted (relisted.take 4) (.query (.text "b")) := fun h => by
      cases h.installs.1
    exact once.other rfl later
  · have failed : initial.answer (.installFromVariable "RULES") = .failed (Environment.missing "RULES") := by decide
    exact once.failed (show relisted = [] ++ _ from rfl) failed
  · exact (compiles_once rfl (relisted.take 1)).never unset

end Registry

end SymbolRules
