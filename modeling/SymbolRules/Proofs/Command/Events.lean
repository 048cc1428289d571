import SymbolRules.Proofs.Command.DebugOptions
import SymbolRules.Proofs.Command.LogFilter
import SymbolRules.Proofs.Event

/-!
# What a verbose check reports

A check reports nothing before it has its rules. Then a verbose one opens with the counts of the rule text, each
rule and the rules together (`openingLines`), whatever becomes of the candidates, and each query adds one line if its
candidate is matched (`HitLine`). `Transcribed` puts these lines together, and `transcribed_check` says that a check
reports them. On their way to standard error a library looks at them, and the directives of the environment may hide
some (`verbose_log_complete`, `verbose_log_hides_hits`).
-/

namespace SymbolRules.Command

open Event (line_compiled line_listed line_hit line_loaded)
open RuleSet (IsFirstHit rulesOf)

/-! ## The lines -/

/-- The rules of a text, as they are written. -/
def ruleTexts (text : String) : List String :=
  (segments text).filter (· ≠ "")

/-- The lines of a verbose check up to its candidates: the counts of the rule text, each of its rules with its kind, and
the rules one after another. -/
def openingLines (text : String) : List String :=
  ("DEBUG " ++ ("规则编译完成，耗时#，分段" ++ toString (segments text).length ++ "个、保留" ++
      toString (ruleTexts text).length ++ "条、丢弃空分段" ++ toString ((segments text).countP (· = "")) ++
      "个、通配规则" ++ toString ((ruleTexts text).countP ('*' ∈ ·.toList)) ++ "条，内存类别：" ++ "internal")) ::
    ((ruleTexts text).mapIdx fun i rule =>
        "DEBUG " ++ ("规则#" ++ toString i ++ "：" ++ rule ++ "（" ++ Rule.kindWord rule ++ "）")) ++
      ["DEBUG " ++ ("已加载规则：" ++ ",".intercalate (ruleTexts text))]

/-- The line that a matched candidate has, with the first of the rules that matches it. -/
inductive HitLine (rules : List String) (candidate : String) : String → Prop where
  | hit {rule : String} {before after : List String} (here : rules = before ++ rule :: after)
    (matched : Rule.matchesText rule candidate = true)
    (first : ∀ other ∈ before, Rule.matchesText other candidate = false) :
    HitLine rules candidate ("TRACE " ++ ("符号" ++ candidate ++ "命中规则" ++ rule))

/-- The lines that a verbose check reports, in order, where it prints a text on standard output. -/
inductive Transcribed (inv : Invocation) (host : Host) (stdout : String) : List String → Prop where
  /-- Without a rule text there are none. -/
  | noRules (missing : ∀ text, ¬ RuleText host inv.rules text) : Transcribed inv host stdout []
  /-- Without a text of candidates there are those of the opening. -/
  | noCandidates {text : String} (rules : RuleText host inv.rules text)
    (missing : ∀ lines, ¬ CandidateText host inv.candidateFile lines) :
    Transcribed inv host stdout (openingLines text)
  /-- With both there are those of the opening, and then one for each outcome that is printed as matched. -/
  | judged {text lines : String} {outcomes : List Outcome} {hits : List String} (rules : RuleText host inv.rules text)
    (candidates : CandidateText host inv.candidateFile lines)
    (each : outcomes.map (·.candidate) = inv.candidates ++ (Lines.ofText lines).filter (!·.isEmpty))
    (matched : ∀ o ∈ outcomes, o.matched = true ↔ ∃ rule ∈ ruleTexts text, Rule.matchesText rule o.candidate = true)
    (printed : Shown outcomes inv.json stdout)
    (told : List.Forall₂ (fun o => HitLine (ruleTexts text) o.candidate) (outcomes.filter (·.matched)) hits) :
    Transcribed inv host stdout (openingLines text ++ hits)

/-! ## The events -/

/-- The events of a verbose check up to its candidates. -/
def opening (text : String) : List Event :=
  .compiled (RuleSet.statsOf text) .internal ::
    ((rulesOf text).mapIdx Event.listed ++ [.loaded (",".intercalate ((rulesOf text).map (·.text)))])

theorem ruleTexts_eq (text : String) : ruleTexts text = (rulesOf text).map (·.text) :=
  (RuleSet.map_text_rulesOf text).symm

theorem map_line_listed (text : String) : ((rulesOf text).mapIdx Event.listed).map Event.line =
    (ruleTexts text).mapIdx fun i rule =>
      "DEBUG " ++ ("规则#" ++ toString i ++ "：" ++ rule ++ "（" ++ Rule.kindWord rule ++ "）") := by
  apply List.ext_getElem?
  intro i
  rw [ruleTexts_eq]
  simp only [List.getElem?_map, List.getElem?_mapIdx, Option.map_map]
  exact congrArg (Option.map · _) (funext (line_listed i))

/-- The events of the opening have its lines. -/
theorem map_line_opening (text : String) : (opening text).map Event.line = openingLines text := by
  have kept : (rulesOf text).length = (ruleTexts text).length := by
    rw [ruleTexts_eq, List.length_map]
  have wild : (rulesOf text).countP ('*' ∈ ·.text.toList) = (ruleTexts text).countP ('*' ∈ ·.toList) := by
    rw [ruleTexts_eq, List.countP_map]
    rfl
  rw [opening, List.map_cons, List.map_append, List.map_cons, List.map_nil, map_line_listed, line_compiled,
    line_loaded, ← ruleTexts_eq, RuleSet.statsOf_eq, kept, wild]
  rfl

/-- The event of a hit has its line. -/
theorem hitLine_of_isFirstHit {text candidate : String} {r : Rule} (h : IsFirstHit (rulesOf text) candidate r) :
    HitLine (ruleTexts text) candidate (Event.hit candidate r).line := by
  obtain ⟨before, after, split, accepts, refuse⟩ := h
  have here : ruleTexts text = before.map (·.text) ++ r.text :: after.map (·.text) := by
    rw [ruleTexts_eq, split, List.map_append, List.map_cons]
  rw [line_hit]
  refine .hit here (by rw [← Rule.accepts_eq, accepts]) fun other ho => ?_
  obtain ⟨q, hq, rfl⟩ := List.mem_map.1 ho
  rw [← Rule.accepts_eq, refuse q hq]

/-- The matched outcomes of candidates and the lines of their queries correspond, one for one and in order. -/
theorem forall₂_hitLine_judge (text : String) (candidates : List String) :
    List.Forall₂ (fun o => HitLine (ruleTexts text) o.candidate) ((judge text candidates).filter (·.matched))
      ((candidates.flatMap fun candidate => ((RuleSet.ofText text).query candidate).events).map Event.line) := by
  induction candidates with
  | nil => exact .nil
  | cons candidate candidates ih =>
    rw [judge, List.map_cons, List.flatMap_cons, RuleSet.events_query, RuleSet.value_query]
    cases first : (RuleSet.ofText text).firstHit? candidate with
    | none => exact ih
    | some r => exact .cons (hitLine_of_isFirstHit (RuleSet.firstHit?_eq_some_iff.1 first)) ih

/-- A rule text selects the candidates that one of its rules matches. -/
theorem value_query_iff_matchesText {text candidate : String} :
    ((RuleSet.ofText text).query candidate).value = true ↔
      ∃ rule ∈ ruleTexts text, Rule.matchesText rule candidate = true := by
  rw [RuleSet.value_query_iff, RuleSet.rules_ofText, ruleTexts_eq]
  simp [Rule.accepts_eq]

/-! ## A check -/

variable {inv : Invocation} {host : Host} {text : String}

theorem events_check_of_noRules (h : ∀ text, findRules inv host ≠ .ok text) : (check inv host).events = [] := by
  rw [check]
  cases found : findRules inv host with
  | error failure => rfl
  | ok text => exact absurd found (h text)

/-- What is reported up to the candidates. -/
theorem events_build (verbose : inv.verbose = true) :
    (RuleSet.build text ⟨.internal, inv.verbose⟩).events ++
      [.loaded (RuleSet.build text ⟨.internal, inv.verbose⟩).value.text] = opening text := by
  rw [verbose, opening, RuleSet.build, Logged.events_bind, Logged.events_emitAll, Logged.events_pure, List.append_nil]
  rfl

theorem events_check_of_noCandidates (verbose : inv.verbose = true) (found : findRules inv host = .ok text)
    (h : ∀ candidates, gatherCandidates inv host ≠ .ok candidates) : (check inv host).events = opening text := by
  rw [check, found]
  cases gathered : gatherCandidates inv host with
  | error failure =>
    rw [← events_build verbose]
    simp only [Logged.events_bind, Logged.events_emit, Logged.events_pure, List.append_nil]
  | ok candidates => exact absurd gathered (h candidates)

theorem events_check_of_candidates (verbose : inv.verbose = true) (found : findRules inv host = .ok text)
    {candidates : List String} (gathered : gatherCandidates inv host = .ok candidates) :
    (check inv host).events =
      opening text ++ candidates.flatMap fun candidate => ((RuleSet.ofText text).query candidate).events := by
  rw [check, found, gathered, ← events_build verbose]
  simp only [Logged.events_bind, Logged.events_emit, Logged.events_mapM, Logged.events_pure, RuleSet.query_build,
    List.append_nil, List.append_assoc]

/-- **A verbose check reports its lines**, by the rules and candidates that it has and by what it prints. -/
theorem transcribed_check (verbose : inv.verbose = true) (library : Library) :
    Transcribed inv host (performWith library (.check inv) host).stdout ((check inv host).events.map Event.line) := by
  have printed : (performWith library (.check inv) host).stdout = report inv.json (check inv host).value := rfl
  by_cases noRules : ∀ text, ¬ RuleText host inv.rules text
  · rw [events_check_of_noRules fun text found => noRules text (findRules_eq_ok_iff.1 found)]
    exact .noRules noRules
  obtain ⟨text, rules⟩ := not_forall_not.1 noRules
  have found := findRules_eq_ok_iff.2 rules
  by_cases noText : ∀ lines, ¬ CandidateText host inv.candidateFile lines
  · rw [events_check_of_noCandidates verbose found, map_line_opening]
    · exact .noCandidates rules noText
    · intro candidates gathered
      obtain ⟨lines, there, -⟩ := gatherCandidates_eq_ok_iff.1 gathered
      exact noText lines there
  obtain ⟨lines, there⟩ := not_forall_not.1 noText
  have gathered := gatherCandidates_eq_ok_iff.2 ⟨lines, there, rfl⟩
  have result := value_check_eq_ok_iff.2 ⟨text, lines, rules, there, rfl⟩
  rw [printed, result, events_check_of_candidates verbose found gathered, List.map_append, map_line_opening]
  refine .judged rules there map_candidate_judge ?_ (shown_report _ _) (forall₂_hitLine_judge text _)
  intro o ho
  rw [matched_of_mem_judge ho, value_query_iff_matchesText]

/-! ## The log -/

/-- **The log of a verbose check has the line of each event, in order, but for those that a closer directive hides.**
What is reported is what the rules, the candidates and standard output call for (`Transcribed`). The line of an event
reaches standard error unless a directive of the environment is closer to the event than the verbose flag is, and does
not show it. So where there is none all lines are there, as they are when none of their characters could steer a
terminal. -/
theorem verbose_log_complete {library : Library} (documented : library.Documented) (inv : Invocation) (host : Host)
    (verbose : inv.verbose = true) :
    Transcribed inv host (performWith library (.check inv) host).stdout ((check inv host).events.map Event.line) ∧
    (∃ shown : Event → Bool, (∀ e, shown e = true ↔ ¬ library.Hides host.environment e) ∧
      (performWith library (.check inv) host).stderr =
        String.join (((check inv host).events.filter shown).map fun e => library.written e.line ++ "\n") ++
          failureLine (check inv host).value) ∧
    ((∀ e ∈ (check inv host).events, ¬ library.Hides host.environment e) →
      (∀ line ∈ (check inv host).events.map Event.line, LogFilter.Plain line) →
      (performWith library (.check inv) host).stderr =
        String.join (((check inv host).events.map Event.line).map (· ++ "\n")) ++
          failureLine (check inv host).value) := by
  have logged : (performWith library (.check inv) host).stderr =
      library.log host.environment true (check inv host).events ++ failureLine (check inv host).value := by
    rw [← verbose]
    rfl
  refine ⟨transcribed_check verbose library, ⟨_, fun e => documented.shows_verbose_iff, logged⟩, fun seen plain => ?_⟩
  have lines : (check inv host).events.map library.line = ((check inv host).events.map Event.line).map (· ++ "\n") := by
    rw [List.map_map]
    apply List.map_congr_left
    intro e he
    rw [Library.line, documented.plain (plain _ (List.mem_map_of_mem he))]
    rfl
  rw [logged, documented.log_verbose seen, lines]

/-- A verbose check of rules of each kind, with an empty segment between them and a rule that is never the first hit. -/
def loud : Invocation where
  rules := some (.literal "a.*;,a/b,x*y")
  candidateFile := some [dash]
  json := false
  verbose := true
  candidates := ["a/b", "q"]

/-- Where the directives ask for less than the verbose flag does. -/
def subdued (stdin : List UInt8) : Host where
  environment := .ofList [("RUST_LOG", Utf8.encode "symbol_matcher=off,info")]
  fileAt _ := .error .notFound
  stdin := stdin

/-- What it reports with a candidate `x` besides. -/
def loudEvents : List Event :=
  [.compiled ⟨4, 3, 1, 2⟩ .internal, .listed 0 (.ofText "a.*" (by decide)), .listed 1 (.ofText "a/b" (by decide)),
    .listed 2 (.ofText "x*y" (by decide)), .loaded "a.*,a/b,x*y", .hit "a/b" (.ofText "a.*" (by decide)),
    .hit "x" (.ofText "x*y" (by decide))]

/-- The lines of these events. -/
def loudLines : List String :=
  ["DEBUG 规则编译完成，耗时#，分段4个、保留3条、丢弃空分段1个、通配规则2条，内存类别：internal", "DEBUG 规则#0：a.*（prefix）",
    "DEBUG 规则#1：a/b（exact）", "DEBUG 规则#2：x*y（prefix(truncated)）", "DEBUG 已加载规则：a.*,a/b,x*y",
    "TRACE 符号a/b命中规则a.*", "TRACE 符号x命中规则x*y"]

/-- The whole of standard error with a candidate on standard input, and the lines that are reported where that is not
text. -/
theorem verbose_log_complete_subdued :
    Library.standard.Documented ∧ loud.verbose = true ∧
    (∀ e, ¬ Library.standard.Hides (subdued [0x78, 0x0A]).environment e) ∧
    (performWith .standard (.check loud) (subdued [0x78, 0x0A])).stderr = String.join (loudLines.map (· ++ "\n")) ∧
    (check loud (subdued [0x78, 0x0A, 0xFF])).events.map Event.line = openingLines "a.*;,a/b,x*y" := by
  have seen (e : Event) :
      ¬ Library.standard.Hides (.ofList [("RUST_LOG", Utf8.encode "symbol_matcher=off,info")]) e := by
    have directives : Library.standard.ofEnvironment
        (.ofList [("RUST_LOG", Utf8.encode "symbol_matcher=off,info")]) false =
        [⟨some "symbol_matcher", none, none, none⟩, ⟨none, none, none, some .info⟩] := by decide
    refine Library.not_hides fun d hd _ => ?_
    simp only [directives, List.mem_cons, List.not_mem_nil, or_false] at hd
    rcases hd with rfl | rfl <;> decide
  refine ⟨Library.documented_standard, rfl, seen, ?_, ?_⟩
  · obtain ⟨-, -, whole⟩ := verbose_log_complete Library.documented_standard loud (subdued [0x78, 0x0A]) rfl
    have events : (check loud (subdued [0x78, 0x0A])).events = loudEvents := by decide
    have lines : loudEvents.map Event.line = loudLines := by decide +kernel
    have succeeds : failureLine (check loud (subdued [0x78, 0x0A])).value = "" := by decide
    have plain : ∀ e ∈ loudEvents, LogFilter.Plain e.line := by
      simp only [loudEvents, List.forall_mem_cons, line_compiled, line_listed, line_loaded, line_hit,
        LogFilter.plain_append]
      decide
    rw [events, lines, succeeds, String.append_empty] at whole
    exact whole (fun e _ => seen e) (lines ▸ List.forall_mem_map.2 plain)
  · obtain ⟨transcribed, -⟩ :=
      verbose_log_complete Library.documented_standard loud (subdued [0x78, 0x0A, 0xFF]) rfl
    generalize (check loud (subdued [0x78, 0x0A, 0xFF])).events.map Event.line = lines at *
    rcases transcribed with missing | ⟨⟨⟩, -⟩ | ⟨-, there⟩
    · exact absurd (.literal _) (missing _)
    · rfl
    · exact absurd there (not_candidateText_stdin rfl (by decide) _)

/-- A verbose check of a candidate that the only rule matches. -/
def hitting : Invocation where
  rules := some (.literal "a")
  candidateFile := none
  json := false
  verbose := true
  candidates := ["a"]

/-- A directive for the part of the program that matches leaves hits out of a verbose log: the candidate is printed as
matched, and the line that is reported for it does not reach standard error. -/
theorem verbose_log_hides_hits :
    parse (["-v", "--patterns", "a", "a"].map Utf8.encode) = .ok (.check hitting) ∧
    (check hitting (variablesAlone [("RUST_LOG", Utf8.encode "symbol_matcher::matcher=off")])).events.map Event.line =
      ["DEBUG 规则编译完成，耗时#，分段1个、保留1条、丢弃空分段0个、通配规则0条，内存类别：internal", "DEBUG 规则#0：a（exact）",
        "DEBUG 已加载规则：a", "TRACE 符号a命中规则a"] ∧
    perform (.check hitting) (variablesAlone [("RUST_LOG", Utf8.encode "symbol_matcher::matcher=off")]) =
      ⟨0, "MATCH\ta\n",
        "DEBUG 规则编译完成，耗时#，分段1个、保留1条、丢弃空分段0个、通配规则0条，内存类别：internal\nDEBUG 规则#0：a（exact）\n" ++
        "DEBUG 已加载规则：a\n"⟩ := by
  refine ⟨rfl, by decide +kernel, by decide +kernel⟩

end SymbolRules.Command
