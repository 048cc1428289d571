import Mathlib.Data.List.Basic
import SymbolRules.Command.Arguments
import SymbolRules.Proofs.Result

/-!
# Command lines that differ in one option

The reader treats every argument by itself and looks at what it has read only to refuse a repetition. So
two readings that have come to drafts in some relation stay in it over the same arguments, as long as both
go on, if each option, flag and candidate keeps the relation (`Kept`, `finish_of_readAll`). Two relations
of this kind tell what one option changes: another path after `--file` makes another candidate file
(`parse_file`), and `--json` asks for a document (`parse_json`); all else stays.
-/

namespace SymbolRules.Command

/-! ## Two readings of the same arguments -/

/-- A relation of drafts that stays as long as both take the same option, flag or candidate. -/
structure Kept (R : Draft → Draft → Prop) : Prop where
  setValue : ∀ {d e d' e' o bs}, R d e → d.setValue o bs = .ok d' → e.setValue o bs = .ok e' → R d' e'
  addCandidate : ∀ {d e d' e' bs}, R d e → d.addCandidate bs = .ok d' → e.addCandidate bs = .ok e' → R d' e'
  setFlag : ∀ {d e d' e' f}, R d e → setFlag d f = .ok (.more d') → setFlag e f = .ok (.more e') → R d' e'

/-- Two readings go on in the same way, with related drafts. -/
inductive Alongside (R : Draft → Draft → Prop) : Progress → Progress → Prop where
  | more {d e : Draft} (h : R d e) : Alongside R (.more d) (.more e)
  | awaiting {d e : Draft} (o : ValueOption) (h : R d e) : Alongside R (.awaiting d o) (.awaiting e o)
  | page (p : Page) : Alongside R (.page p) (.page p)

/-- Setting a flag goes on with the next letter or argument, or it asks for a page. -/
theorem setFlag_eq_ok {d : Draft} {f : Flag} {p : Progress} (h : setFlag d f = .ok p) :
    (∃ d', p = .more d' ∧ ∀ page, f ≠ .page page) ∨ ∃ page, p = .page page ∧ f = .page page := by
  cases f with
  | page page => exact .inr ⟨page, (Except.ok.inj h).symm, rfl⟩
  | json | verbose =>
    obtain ⟨-, rfl⟩ := guard_eq_ok_iff.1 h
    exact .inl ⟨_, rfl, nofun⟩

section Related

variable {R : Draft → Draft → Prop} {d e : Draft} {p q : Progress}

/-- Readings that come to a draft each go on with it. -/
theorem alongside_more {x y : Except ArgumentError Draft} (h : ∀ {d e}, x = .ok d → y = .ok e → R d e)
    (hp : (do return Progress.more (← x)) = .ok p) (hq : (do return Progress.more (← y)) = .ok q) :
    Alongside R p q := by
  obtain ⟨d, hd, ⟨⟩⟩ := bind_eq_ok_iff.1 hp
  obtain ⟨e, he, ⟨⟩⟩ := bind_eq_ok_iff.1 hq
  exact .more (h hd he)

variable (kept : Kept R)
include kept

theorem alongside_setFlag {f : Flag} (h : R d e) (hp : setFlag d f = .ok p) (hq : setFlag e f = .ok q) :
    Alongside R p q := by
  rcases setFlag_eq_ok hp with ⟨d', rfl, -⟩ | ⟨page, rfl, rfl⟩
  · rcases setFlag_eq_ok hq with ⟨e', rfl, -⟩ | ⟨page, rfl, rfl⟩
    · exact .more (kept.setFlag h hp hq)
    · cases hp
  · obtain rfl := Except.ok.inj hq
    exact .page page

theorem alongside_readLong {body : List UInt8} (h : R d e) (hp : readLong d body = .ok p)
    (hq : readLong e body = .ok q) : Alongside R p q := by
  simp only [readLong] at hp hq
  generalize longSwitch? _ = switch at hp hq
  rcases switch with _ | o | f
  · cases hp
  · by_cases alone : (body.drop (body.takeWhile (· ≠ equals)).length).isEmpty = true
    · simp only [if_pos alone] at hp hq
      obtain rfl := Except.ok.inj hp
      obtain rfl := Except.ok.inj hq
      exact .awaiting o h
    · simp only [if_neg alone] at hp hq
      exact alongside_more (kept.setValue h) hp hq
  · by_cases alone : (body.drop (body.takeWhile (· ≠ equals)).length).isEmpty = true
    · simp only [if_pos alone] at hp hq
      exact alongside_setFlag kept h hp hq
    · simp only [if_neg alone] at hp
      cases hp

theorem alongside_readShort {letters : List UInt8} (h : R d e) (hp : readShort d letters = .ok p)
    (hq : readShort e letters = .ok q) : Alongside R p q := by
  induction letters generalizing d e with
  | nil =>
    obtain rfl := Except.ok.inj hp
    obtain rfl := Except.ok.inj hq
    exact .more h
  | cons letter rest ih =>
    simp only [readShort] at hp hq
    generalize shortSwitch? letter = switch at hp hq
    rcases switch with _ | o | f
    · cases hp
    · by_cases alone : rest.isEmpty = true
      · simp only [if_pos alone] at hp hq
        obtain rfl := Except.ok.inj hp
        obtain rfl := Except.ok.inj hq
        exact .awaiting o h
      · simp only [if_neg alone] at hp hq
        exact alongside_more (kept.setValue h) hp hq
    · obtain ⟨p', hp', hp⟩ := bind_eq_ok_iff.1 hp
      obtain ⟨q', hq', hq⟩ := bind_eq_ok_iff.1 hq
      cases alongside_setFlag kept h hp' hq' with
      | more h' => exact ih h' hp hq
      | awaiting o h' =>
        obtain rfl := Except.ok.inj hp
        obtain rfl := Except.ok.inj hq
        exact .awaiting o h'
      | page p =>
        obtain rfl := Except.ok.inj hp
        obtain rfl := Except.ok.inj hq
        exact .page p

theorem alongside_readArgument {arg : List UInt8} (h : R d e) (hp : readArgument d arg = .ok p)
    (hq : readArgument e arg = .ok q) : Alongside R p q := by
  rcases arg with _ | ⟨a, _ | ⟨b, rest⟩⟩
  · exact alongside_more (kept.addCandidate h) hp hq
  · exact alongside_more (kept.addCandidate h) hp hq
  simp only [readArgument] at hp hq
  by_cases long : (a = dash && b = dash) = true
  · simp only [if_pos long] at hp hq
    exact alongside_readLong kept h hp hq
  simp only [if_neg long] at hp hq
  by_cases short : a = dash
  · simp only [if_pos short] at hp hq
    exact alongside_readShort kept h hp hq
  · simp only [if_neg short] at hp hq
    exact alongside_more (kept.addCandidate h) hp hq

theorem related_foldlM {args : List (List UInt8)} {d' e' : Draft} (h : R d e)
    (hp : args.foldlM Draft.addCandidate d = .ok d') (hq : args.foldlM Draft.addCandidate e = .ok e') : R d' e' := by
  induction args generalizing d e with
  | nil =>
    obtain rfl := Except.ok.inj hp
    obtain rfl := Except.ok.inj hq
    exact h
  | cons arg args ih =>
    rw [List.foldlM_cons] at hp hq
    obtain ⟨d1, hd, hp⟩ := bind_eq_ok_iff.1 hp
    obtain ⟨e1, he, hq⟩ := bind_eq_ok_iff.1 hq
    exact ih (kept.addCandidate h hd he) hp hq

/-- Two readings of the same arguments that both come to a check end with related drafts. -/
theorem finish_of_readAll {args : List (List UInt8)} {due : Option ValueOption} {i j : Invocation} (h : R d e)
    (hi : readAll d due args = .ok (.check i)) (hj : readAll e due args = .ok (.check j)) :
    ∃ d' e', R d' e' ∧ d'.finish = .ok (.check i) ∧ e'.finish = .ok (.check j) := by
  induction args generalizing d e due with
  | nil =>
    cases due with
    | some o => cases hi
    | none => exact ⟨d, e, h, hi, hj⟩
  | cons arg args ih =>
    cases due with
    | some o =>
      simp only [readAll] at hi hj
      by_cases value : isValue arg = true
      · simp only [if_pos value] at hi hj
        obtain ⟨d', hd, hi⟩ := bind_eq_ok_iff.1 hi
        obtain ⟨e', he, hj⟩ := bind_eq_ok_iff.1 hj
        exact ih (kept.setValue h hd he) hi hj
      · simp only [if_neg value] at hi
        cases hi
    | none =>
      simp only [readAll] at hi hj
      by_cases last : arg = [dash, dash]
      · simp only [if_pos last] at hi hj
        obtain ⟨d', hd, hi⟩ := bind_eq_ok_iff.1 hi
        obtain ⟨e', he, hj⟩ := bind_eq_ok_iff.1 hj
        exact ⟨d', e', related_foldlM kept h hd he, hi, hj⟩
      · simp only [if_neg last] at hi hj
        obtain ⟨p, hp, hi⟩ := bind_eq_ok_iff.1 hi
        obtain ⟨q, hq, hj⟩ := bind_eq_ok_iff.1 hj
        cases alongside_readArgument kept h hp hq with
        | more h' => exact ih h' hi hj
        | awaiting o h' => exact ih h' hi hj
        | page => cases hi

end Related

/-! ## One option changed -/

/-- Arguments are read after others as from the draft these come to, unless they rule a check out. -/
theorem readAll_append {pre : List (List UInt8)} (free : [dash, dash] ∉ pre) (d : Draft) (due : Option ValueOption) :
    (∃ d' due', ∀ rest, readAll d due (pre ++ rest) = readAll d' due' rest) ∨
      ∀ rest inv, readAll d due (pre ++ rest) ≠ .ok (.check inv) := by
  induction pre generalizing d due with
  | nil => exact .inl ⟨d, due, fun _ => rfl⟩
  | cons arg pre ih =>
    have different : arg ≠ [dash, dash] := fun h => free (h ▸ List.mem_cons_self)
    have free : [dash, dash] ∉ pre := fun h => free (List.mem_cons_of_mem arg h)
    simp only [List.cons_append, readAll, if_neg different]
    cases due with
    | some o =>
      by_cases value : isValue arg = true
      · simp only [if_pos value]
        cases d.setValue o arg with
        | error _ => exact .inr fun _ _ => nofun
        | ok d' => exact ih free d' none
      · simp only [if_neg value]
        exact .inr fun _ _ => nofun
    | none =>
      cases readArgument d arg with
      | error _ => exact .inr fun _ _ => nofun
      | ok p =>
        cases p with
        | more d' => exact ih free d' none
        | awaiting d' o => exact ih free d' (some o)
        | page => exact .inr fun _ _ => nofun

/-- What stands after other arguments is read from one draft, whatever it is. -/
theorem readAll_of_parse {pre post post' : List (List UInt8)} (free : [dash, dash] ∉ pre) {i j : Invocation}
    (hi : parse (pre ++ post) = .ok (.check i)) (hj : parse (pre ++ post') = .ok (.check j)) :
    ∃ d due, readAll d due post = .ok (.check i) ∧ readAll d due post' = .ok (.check j) := by
  rcases readAll_append free .empty none with ⟨d, due, same⟩ | none
  · exact ⟨d, due, same post ▸ hi, same post' ▸ hj⟩
  · exact absurd hi (none post i)

/-- Drafts that name the same rules are finished to the same, but for what else they name. -/
theorem finish_of_same_rules {d e : Draft} {i j : Invocation} (hi : d.finish = .ok (.check i))
    (hj : e.finish = .ok (.check j)) (literal : e.literal = d.literal) (envVar : e.envVar = d.envVar)
    (ruleFile : e.ruleFile = d.ruleFile) :
    ∃ rules, i = ⟨rules, d.candidateFile, d.json, d.verbose, d.candidates⟩ ∧
      j = ⟨rules, e.candidateFile, e.json, e.verbose, e.candidates⟩ := by
  simp only [Draft.finish, literal, envVar, ruleFile] at hi hj
  generalize d.literal = literal, d.envVar = envVar, d.ruleFile = ruleFile at hi hj
  rcases literal with _ | text <;> rcases envVar with _ | name <;> rcases ruleFile with _ | path <;>
    cases hi <;> cases hj <;> exact ⟨_, rfl, rfl⟩

/-! ### The candidate file -/

/-- The same draft with another candidate file. -/
structure Elsewhere (path path' : List UInt8) (d e : Draft) : Prop where
  here : d.candidateFile = some path
  there : e = { d with candidateFile := some path' }

theorem kept_elsewhere (path path' : List UInt8) : Kept (Elsewhere path path') where
  setValue := by
    rintro d _ d' e' o bs ⟨here, rfl⟩ hd he
    cases o with
    | candidateFile =>
      have free := (once_eq_ok_iff.1 hd).1
      rw [here] at free
      cases free
    | literal | envVar | ruleFile =>
      obtain ⟨-, _, value, rfl⟩ := once_eq_ok_iff.1 hd
      obtain ⟨-, _, value', rfl⟩ := once_eq_ok_iff.1 he
      cases value.symm.trans value'
      exact ⟨here, rfl⟩
  addCandidate := by
    rintro d _ d' e' bs ⟨here, rfl⟩ hd he
    obtain ⟨_, text, ⟨⟩⟩ := bind_eq_ok_iff.1 hd
    obtain ⟨_, text', ⟨⟩⟩ := bind_eq_ok_iff.1 he
    cases text.symm.trans text'
    exact ⟨here, rfl⟩
  setFlag := by
    rintro d _ d' e' f ⟨here, rfl⟩ hd he
    cases f with
    | page => cases hd
    | json | verbose =>
      obtain ⟨-, ⟨⟩⟩ := guard_eq_ok_iff.1 hd
      obtain ⟨-, ⟨⟩⟩ := guard_eq_ok_iff.1 he
      exact ⟨here, rfl⟩

/-- The spellings of the option that names the candidate file. -/
inductive FileOption : List UInt8 → List (List UInt8) → Prop where
  | long (path : List UInt8) : FileOption path [Utf8.encode "--file", path]
  | longAttached (path : List UInt8) : FileOption path [Utf8.encode "--file=" ++ path]
  | short (path : List UInt8) : FileOption path [Utf8.encode "-f", path]
  | shortAttached (path : List UInt8) : FileOption path [Utf8.encode "-f=" ++ path]
  | shortJoined {b : UInt8} (path : List UInt8) (h : b ≠ equals) :
    FileOption (b :: path) [Utf8.encode "-f" ++ b :: path]

/-- A path is taken as it is. -/
theorem setValue_candidateFile {d d' : Draft} {path : List UInt8} (h : d.setValue .candidateFile path = .ok d') :
    d' = { d with candidateFile := some path } := by
  obtain ⟨-, taken, hp, rfl⟩ := once_eq_ok_iff.1 h
  obtain ⟨-, rfl⟩ := guard_eq_ok_iff.1 hp
  rfl

section Value

variable {d : Draft} {o : ValueOption} {arg value : List UInt8} {rest : List (List UInt8)} {inv : Invocation}

/-- An option whose value is the next argument sets it. -/
theorem setValue_of_awaiting (last : arg ≠ [dash, dash]) (h : readArgument d arg = .ok (.awaiting d o))
    (read : readAll d none (arg :: value :: rest) = .ok (.check inv)) :
    ∃ d', d.setValue o value = .ok d' ∧ readAll d' none rest = .ok (.check inv) := by
  simp only [readAll, if_neg last, h] at read
  by_cases fits : isValue value = true
  · exact bind_eq_ok_iff.1 ((if_pos fits).symm.trans read)
  · cases (if_neg fits).symm.trans read

/-- An option with its value in the same argument sets it. -/
theorem setValue_of_attached (last : arg ≠ [dash, dash])
    (h : readArgument d arg = do return .more (← d.setValue o value))
    (read : readAll d none (arg :: rest) = .ok (.check inv)) :
    ∃ d', d.setValue o value = .ok d' ∧ readAll d' none rest = .ok (.check inv) := by
  simp only [readAll, if_neg last, h] at read
  obtain ⟨_, more, read⟩ := bind_eq_ok_iff.1 read
  obtain ⟨d', set, ⟨⟩⟩ := bind_eq_ok_iff.1 more
  exact ⟨d', set, read⟩

end Value

/-- However it is spelled, the option gives the draft its path, where no other value is due. -/
theorem readAll_fileOption {path : List UInt8} {option post : List (List UInt8)} (h : FileOption path option)
    {d : Draft} {due : Option ValueOption} {inv : Invocation}
    (read : readAll d due (option ++ post) = .ok (.check inv)) :
    readAll { d with candidateFile := some path } none post = .ok (.check inv) := by
  cases due with
  | some o => cases h <;> cases read
  | none =>
    have set : ∃ d', d.setValue .candidateFile path = .ok d' ∧ readAll d' none post = .ok (.check inv) := by
      cases h with
      | long | short => exact setValue_of_awaiting (by decide) rfl read
      | longAttached | shortAttached => exact setValue_of_attached (by nofun) rfl read
      | @shortJoined b path h =>
        have joined : attachedValue (b :: path) = b :: path := if_neg fun e => h (Option.some.inj e)
        refine setValue_of_attached (by nofun) ?_ read
        show (do return Progress.more (← d.setValue .candidateFile (attachedValue (b :: path)))) = _
        rw [joined]
    obtain ⟨d', set, read⟩ := set
    exact setValue_candidateFile set ▸ read

/-- Command lines that differ in the path of the candidate file ask for the same otherwise. -/
theorem parse_file {pre post option option' : List (List UInt8)} {path path' : List UInt8} {i j : Invocation}
    (free : [dash, dash] ∉ pre) (ho : FileOption path option) (ho' : FileOption path' option')
    (hi : parse (pre ++ (option ++ post)) = .ok (.check i)) (hj : parse (pre ++ (option' ++ post)) = .ok (.check j)) :
    i.candidateFile = some path ∧ j = { i with candidateFile := some path' } := by
  obtain ⟨d, due, hi, hj⟩ := readAll_of_parse free hi hj
  replace hi := readAll_fileOption ho hi
  replace hj := readAll_fileOption ho' hj
  obtain ⟨d', e', ⟨here, rfl⟩, hi, hj⟩ := finish_of_readAll (kept_elsewhere path path') ⟨rfl, rfl⟩ hi hj
  obtain ⟨rules, rfl, rfl⟩ := finish_of_same_rules hi hj rfl rfl rfl
  exact ⟨here, rfl⟩

/-! ### The form of the report -/

/-- The same draft, asking for a document. -/
structure AsDocument (d e : Draft) : Prop where
  lines : d.json = false
  document : e = { d with json := true }

theorem kept_asDocument : Kept AsDocument where
  setValue := by
    rintro d _ d' e' o bs ⟨lines, rfl⟩ hd he
    cases o with
    | literal | envVar | ruleFile | candidateFile =>
      obtain ⟨-, _, value, rfl⟩ := once_eq_ok_iff.1 hd
      obtain ⟨-, _, value', rfl⟩ := once_eq_ok_iff.1 he
      cases value.symm.trans value'
      exact ⟨lines, rfl⟩
  addCandidate := by
    rintro d _ d' e' bs ⟨lines, rfl⟩ hd he
    obtain ⟨_, text, ⟨⟩⟩ := bind_eq_ok_iff.1 hd
    obtain ⟨_, text', ⟨⟩⟩ := bind_eq_ok_iff.1 he
    cases text.symm.trans text'
    exact ⟨lines, rfl⟩
  setFlag := by
    rintro d _ d' e' f ⟨lines, rfl⟩ hd he
    cases f with
    | page => cases hd
    | json => cases he
    | verbose =>
      obtain ⟨-, ⟨⟩⟩ := guard_eq_ok_iff.1 hd
      obtain ⟨-, ⟨⟩⟩ := guard_eq_ok_iff.1 he
      exact ⟨lines, rfl⟩

/-- The flag is read where no value is due, once. -/
theorem readAll_json {d : Draft} {due : Option ValueOption} {post : List (List UInt8)} {inv : Invocation}
    (read : readAll d due (Utf8.encode "--json" :: post) = .ok (.check inv)) :
    due = none ∧ d.json = false ∧ readAll { d with json := true } none post = .ok (.check inv) := by
  cases due with
  | some o => cases read
  | none =>
    have last : Utf8.encode "--json" ≠ [dash, dash] := by decide
    simp only [readAll, if_neg last] at read
    obtain ⟨p, set, read⟩ := bind_eq_ok_iff.1 read
    obtain ⟨lines, rfl⟩ := guard_eq_ok_iff.1 (show setFlag d .json = .ok p from set)
    exact ⟨rfl, lines, read⟩

/-- A command line that asks for a document as well asks for the same otherwise. -/
theorem parse_json {pre post : List (List UInt8)} {i j : Invocation} (free : [dash, dash] ∉ pre)
    (hi : parse (pre ++ post) = .ok (.check i)) (hj : parse (pre ++ Utf8.encode "--json" :: post) = .ok (.check j)) :
    i.json = false ∧ j = { i with json := true } := by
  obtain ⟨d, due, hi, hj⟩ := readAll_of_parse free hi hj
  obtain ⟨rfl, lines, hj⟩ := readAll_json hj
  obtain ⟨d', e', ⟨lines, rfl⟩, hi, hj⟩ := finish_of_readAll kept_asDocument ⟨lines, rfl⟩ hi hj
  obtain ⟨rules, rfl, rfl⟩ := finish_of_same_rules hi hj rfl rfl rfl
  exact ⟨lines, rfl⟩

end SymbolRules.Command
