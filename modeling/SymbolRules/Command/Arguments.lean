import SymbolRules.Text.Utf8

/-!
# Command-line arguments

Arguments are read from left to right, and the first that is wrong decides; asking for the version or for
help stops the reading. Options are `--name value`, `--name=value`, `-p value`, `-pvalue` or `-p=value`, flags
may stand together after one `-`, and everything after `--` is a candidate.

The program leaves this reading to a library. Assumed of it is what its documentation says of such options: names
are not abbreviated, an option or flag stands once, a value that is an argument of its own begins with no `-`
unless it is `-` alone, a path is not empty, and all but paths is text.
-/

namespace SymbolRules.Command

/-- Where the rule text comes from. -/
inductive RuleSource where
  /-- The argument itself. -/
  | literal (text : String)
  /-- An environment variable. -/
  | envVar (name : String)
  /-- A file, by its path. -/
  | file (path : List UInt8)
deriving DecidableEq, Repr

/-- What a check is asked to do. -/
structure Invocation where
  rules : Option RuleSource
  /-- The path of a file with more candidates, `-` for standard input. -/
  candidateFile : Option (List UInt8)
  /-- Report as a JSON document. -/
  json : Bool
  verbose : Bool
  candidates : List String
deriving DecidableEq, Repr

/-- What the program can show in place of a check. -/
inductive Page where
  | version
  | help
deriving DecidableEq, Repr

/-- What the arguments ask for. -/
inductive Request where
  | check (invocation : Invocation)
  | page (p : Page)
deriving DecidableEq, Repr

/-- What is wrong with the arguments. -/
inductive ArgumentError where
  | unknownOption
  | repeatedOption
  /-- An option stands where its value is due, or nothing does. -/
  | missingValue
  /-- A flag has a value. -/
  | unexpectedValue
  | emptyPath
  | notUtf8
  /-- The rule text is to come from two places. -/
  | severalSources
deriving DecidableEq, Repr

/-- An option that takes a value. -/
inductive ValueOption where
  | literal
  | envVar
  | ruleFile
  | candidateFile
deriving DecidableEq, Repr

/-- An option that takes none. -/
inductive Flag where
  | json
  | verbose
  | page (p : Page)
deriving DecidableEq, Repr

/-- What an option's name stands for. -/
inductive Switch where
  | value (o : ValueOption)
  | flag (f : Flag)
deriving DecidableEq, Repr

/-- The options by their long names. -/
def longSwitches : List (String × Switch) :=
  [("patterns", .value .literal), ("patterns-env", .value .envVar),
    ("patterns-file", .value .ruleFile), ("file", .value .candidateFile),
    ("json", .flag .json), ("verbose", .flag .verbose), ("version", .flag (.page .version)),
    ("help", .flag (.page .help))]

/-- The options by their letters. -/
def shortSwitches : List (Char × Switch) :=
  [('p', .value .literal), ('f', .value .candidateFile), ('v', .flag .verbose), ('V', .flag (.page .version)),
    ('h', .flag (.page .help))]

/-- The option of a long name given as bytes. -/
def longSwitch? (name : List UInt8) : Option Switch :=
  (longSwitches.find? (Utf8.encode ·.1 == name)).map (·.2)

/-- The option of a letter given as a byte. -/
def shortSwitch? (letter : UInt8) : Option Switch :=
  (shortSwitches.find? (·.1.toNat == letter.toNat)).map (·.2)

/-- The options and candidates read so far. -/
structure Draft where
  literal : Option String
  envVar : Option String
  ruleFile : Option (List UInt8)
  candidateFile : Option (List UInt8)
  json : Bool
  verbose : Bool
  candidates : List String
deriving DecidableEq, Repr

namespace Draft

/-- Before the first argument. -/
def empty : Draft := ⟨none, none, none, none, false, false, []⟩

/-- The text of an argument that must be text. -/
def text (bs : List UInt8) : Except ArgumentError String :=
  match Utf8.decode? bs with
  | some s => .ok s
  | none => .error .notUtf8

/-- A path, which may hold any bytes but not none. -/
def path (bs : List UInt8) : Except ArgumentError (List UInt8) :=
  if bs.isEmpty then .error .emptyPath else .ok bs

/-- Gives an option its value, once. -/
def setValue (d : Draft) (o : ValueOption) (bs : List UInt8) : Except ArgumentError Draft :=
  match o with
  | .literal => do
    if d.literal.isSome then throw .repeatedOption
    return { d with literal := some (← text bs) }
  | .envVar => do
    if d.envVar.isSome then throw .repeatedOption
    return { d with envVar := some (← text bs) }
  | .ruleFile => do
    if d.ruleFile.isSome then throw .repeatedOption
    return { d with ruleFile := some (← path bs) }
  | .candidateFile => do
    if d.candidateFile.isSome then throw .repeatedOption
    return { d with candidateFile := some (← path bs) }

/-- Adds a candidate. -/
def addCandidate (d : Draft) (bs : List UInt8) : Except ArgumentError Draft := do
  return { d with candidates := d.candidates ++ [← text bs] }

/-- The finished invocation; at most one source of rule text may have been named. -/
def finish (d : Draft) : Except ArgumentError Request :=
  let check rules := .ok (.check ⟨rules, d.candidateFile, d.json, d.verbose, d.candidates⟩)
  match d.literal, d.envVar, d.ruleFile with
  | none, none, none => check none
  | some text, none, none => check (some (.literal text))
  | none, some name, none => check (some (.envVar name))
  | none, none, some path => check (some (.file path))
  | _, _, _ => .error .severalSources

end Draft

/-- How the reading goes on after one argument. -/
inductive Progress where
  | more (d : Draft)
  /-- The next argument is this option's value. -/
  | awaiting (d : Draft) (o : ValueOption)
  /-- A page was asked for. -/
  | page (p : Page)

/-- Sets a flag, once. -/
def setFlag (d : Draft) : Flag → Except ArgumentError Progress
  | .json => if d.json then .error .repeatedOption else .ok (.more { d with json := true })
  | .verbose => if d.verbose then .error .repeatedOption else .ok (.more { d with verbose := true })
  | .page p => .ok (.page p)

/-- The byte `-`. -/
def dash : UInt8 := 0x2D

/-- The byte `=`. -/
def equals : UInt8 := 0x3D

/-- Reads a long option, which may have its value after an equals sign. -/
def readLong (d : Draft) (body : List UInt8) : Except ArgumentError Progress :=
  let name := body.takeWhile (· ≠ equals)
  let attached := body.drop name.length
  match longSwitch? name with
  | none => .error .unknownOption
  | some (.flag f) => if attached.isEmpty then setFlag d f else .error .unexpectedValue
  | some (.value o) =>
    if attached.isEmpty then .ok (.awaiting d o)
    else do return .more (← d.setValue o (attached.drop 1))

/-- The value after a letter, without one equals sign before it. -/
def attachedValue (rest : List UInt8) : List UInt8 :=
  if rest.head? = some equals then rest.drop 1 else rest

/-- Reads letters that stand together. A letter that takes a value takes the rest, or the next argument
when nothing is left. -/
def readShort (d : Draft) : List UInt8 → Except ArgumentError Progress
  | [] => .ok (.more d)
  | letter :: rest =>
    match shortSwitch? letter with
    | none => .error .unknownOption
    | some (.flag f) => do
      match ← setFlag d f with
      | .more d => readShort d rest
      | progress => return progress
    | some (.value o) =>
      if rest.isEmpty then .ok (.awaiting d o)
      else do return .more (← d.setValue o (attachedValue rest))

/-- Reads one argument where options may stand and no value is due. -/
def readArgument (d : Draft) : List UInt8 → Except ArgumentError Progress
  | arg@(a :: b :: rest) =>
    if a = dash && b = dash then readLong d rest
    else if a = dash then readShort d (b :: rest)
    else do return .more (← d.addCandidate arg)
  | arg => do return .more (← d.addCandidate arg)

/-- Whether an argument can be the value of the option before it. -/
def isValue (arg : List UInt8) : Bool :=
  arg.head? ≠ some dash || arg = [dash]

/-- Reads arguments, the first of which may be due as a value. -/
def readAll (d : Draft) (due : Option ValueOption) : List (List UInt8) → Except ArgumentError Request
  | [] => if due.isSome then .error .missingValue else d.finish
  | arg :: rest =>
    match due with
    | some o =>
      if isValue arg then do readAll (← d.setValue o arg) none rest else .error .missingValue
    | none =>
      if arg = [dash, dash] then do (← rest.foldlM Draft.addCandidate d).finish
      else do
        match ← readArgument d arg with
        | .more d => readAll d none rest
        | .awaiting d o => readAll d (some o) rest
        | .page p => return .page p

/-- How the program is called, in a line. -/
def usage : String :=
  "usage: symbol-matcher [--patterns RULES | --patterns-env VAR | --patterns-file PATH] " ++
    "[--file PATH] [--json] [--verbose] [CANDIDATE]..."

/-- What the arguments ask for. -/
def parse (args : List (List UInt8)) : Except ArgumentError Request :=
  readAll .empty none args

end SymbolRules.Command
