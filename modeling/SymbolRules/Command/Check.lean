import SymbolRules.Command.Arguments
import SymbolRules.Command.LogFilter
import SymbolRules.Outcome
import SymbolRules.Source
import SymbolRules.RuleSet

/-!
# Checking candidates

A check finds its rule text, then its candidates, and reports an outcome for each candidate. A failure ends
it with a line on standard error and nothing on standard output.
-/

namespace SymbolRules.Command

/-- What standard input delivers: bytes, and then its end or a failure to read on. -/
structure Input where
  bytes : List UInt8
  failure : Option SystemError
deriving DecidableEq, Repr

/-- Bytes that are delivered to the end. -/
instance : Coe (List UInt8) Input := ⟨fun bytes => ⟨bytes, none⟩⟩

/-- The lines of standard input, decoded one by one. Where it fails, a line that ended before and is not text
comes first, and what has been delivered of the next line is not looked at. -/
def Input.lines (input : Input) : Except SystemError (List String) :=
  match input.failure with
  | none =>
    match Lines.ofBytes? input.bytes with
    | none => .error .notUtf8
    | some lines => .ok lines
  | some cause =>
    if (input.bytes.splitOn 0x0A).dropLast.all fun line => (Utf8.decode? line).isSome then .error cause
    else .error .notUtf8

/-- What surrounds a check. -/
structure Host where
  environment : Environment
  /-- The content of the file at a path. -/
  fileAt : List UInt8 → Except SystemError (List UInt8)
  stdin : Input

/-- Why a check fails. -/
inductive Failure where
  /-- No source of rule text is named. -/
  | noRules
  /-- The variable gives no rule text. -/
  | ruleVariable (cause : Error)
  /-- The rule file gives no rule text. -/
  | ruleFile (path : List UInt8) (cause : Error)
  /-- The candidate file cannot be read. -/
  | candidateFile (path : List UInt8) (cause : SystemError)
  /-- Standard input cannot be read. -/
  | stdin (cause : SystemError)
deriving DecidableEq, Repr

/-- The text of an error, with the text of the one that it passes on. -/
def chain (e : Error) : String :=
  ": ".intercalate (e.message :: e.source.toList)

/-- The text of a failure. -/
def Failure.message : Failure → String
  | .noRules => "必须通过 --patterns、--patterns-env 或 --patterns-file 提供规则串"
  | .ruleVariable cause => chain cause
  | .ruleFile path cause => "读取规则文件失败：" ++ Utf8.repair path ++ ": " ++ chain cause
  | .candidateFile path cause => "读取候选文件失败：" ++ Utf8.repair path ++ ": " ++ cause.message
  | .stdin cause => cause.message

/-- The line that ends a check that fails. -/
def Failure.line (f : Failure) : String :=
  "错误：" ++ f.message ++ "\n"

/-- The rule text of a check. -/
def findRules (inv : Invocation) (host : Host) : Except Failure String :=
  match inv.rules with
  | none => .error .noRules
  | some (.literal text) => .ok text
  | some (.envVar name) => (host.environment.ruleText name).mapError .ruleVariable
  | some (.file path) => (fileRuleText (host.fileAt path)).mapError (.ruleFile path)

/-- The lines of the candidate file or of standard input; none when there is no such file. -/
def candidateLines (inv : Invocation) (host : Host) : Except Failure (List String) :=
  match inv.candidateFile with
  | none => .ok []
  | some path =>
    if path = [dash] then
      host.stdin.lines.mapError .stdin
    else
      match fileText (host.fileAt path) with
      | .error cause => .error (.candidateFile path cause)
      | .ok text => .ok (Lines.ofText text)

/-- The candidates of a check: those among the arguments, then the lines that are not empty. -/
def gatherCandidates (inv : Invocation) (host : Host) : Except Failure (List String) := do
  return inv.candidates ++ (← candidateLines inv host).filter (!·.isEmpty)

/-- A check, with what it reports on the way. -/
def check (inv : Invocation) (host : Host) : Logged (Except Failure (List Outcome)) := do
  match findRules inv host with
  | .error failure => return .error failure
  | .ok text =>
    let set ← RuleSet.build text { category := .internal, verbose := inv.verbose }
    Logged.emit (.loaded set.text)
    match gatherCandidates inv host with
    | .error failure => return .error failure
    | .ok candidates =>
      let outcomes ← candidates.mapM fun candidate => do
        return Outcome.mk candidate (← set.query candidate)
      return .ok outcomes

/-- What a finished process leaves behind. -/
structure Transcript where
  exit : Nat
  stdout : String
  stderr : String
deriving DecidableEq, Repr

/-- The exit code: something matched, nothing did, or the run failed. -/
def exitCode : Except Failure (List Outcome) → Nat
  | .ok outcomes => if outcomes.any (·.matched) then 0 else 1
  | .error _ => 2

/-- What standard output shows of a result. -/
def report (json : Bool) : Except Failure (List Outcome) → String
  | .ok outcomes => if json then Outcome.document outcomes else Outcome.listing outcomes
  | .error _ => ""

/-- The line that a result ends standard error with. -/
def failureLine : Except Failure (List Outcome) → String
  | .ok _ => ""
  | .error failure => failure.line

/-- The version that the program states. -/
def versionLine : String := "symbol-matcher 0.1.0\n"

/-- Carries out a request with a library. -/
def performWith (library : Library) (request : Request) (host : Host) : Transcript :=
  match request with
  | .page .version => ⟨0, versionLine, ""⟩
  | .page .help => ⟨0, library.helpPage, ""⟩
  | .check inv =>
    let result := check inv host
    { exit := exitCode result.value
      stdout := report inv.json result.value
      stderr := library.log host.environment inv.verbose result.events ++ failureLine result.value }

/-- The library that stands in for the one the program is built with. -/
def Library.standard : Library where
  helpPage := usage ++ "\n"
  directives? := LogFilter.directives?
  shows := LogFilter.shows
  written := LogFilter.showLine

/-- Carries out a request. -/
def perform : Request → Host → Transcript :=
  performWith .standard

end SymbolRules.Command
