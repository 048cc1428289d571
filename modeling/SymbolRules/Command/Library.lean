import SymbolRules.Command.LogFilter.Directive
import SymbolRules.Environment

/-!
# What the program leaves to a library

The words of the help page are a library's, and so is the log: a library reads directives, decides by them which
events are shown, and writes lines. The program itself hands over the value of one variable, adds one directive
for a verbose run, and passes its events on in order.
-/

namespace SymbolRules

namespace LogFilter

/-- The target that covers all events of this program. -/
def program : String := "symbol_matcher"

/-- The target of an event, which names the part of the program that reports it. -/
def eventTarget : Event → String
  | .compiled .. | .listed .. => program ++ "::compiler::compiler"
  | .hit .. => program ++ "::matcher::matcher"
  | .ready .. => program ++ "::matcher::global"
  | .loaded .. => program

/-- The variable that holds the directives. -/
def variableName : String := "RUST_LOG"

/-- What holds when the variable gives no directives: `warn`. -/
def fallback : List Directive := [⟨none, none, none, some .warn⟩]

/-- What is added to the directives for a verbose run, everything that this program reports:
`symbol_matcher=trace`. -/
def everything : Directive := ⟨some program, none, none, some .trace⟩

end LogFilter

namespace Command

open LogFilter

/-- What a library does for the program. -/
structure Library where
  /-- The page that is shown when help is asked for. -/
  helpPage : String
  /-- The directives of a value, if it can be read. -/
  directives? : String → Option (List Directive)
  /-- Whether directives show an event. -/
  shows : List Directive → Event → Bool
  /-- A line as it is written to a log. -/
  written : String → String

namespace Library

/-- The directives of an environment, for a verbose run or not. -/
def ofEnvironment (library : Library) (env : Environment) (verbose : Bool) : List Directive :=
  ((env.lookup? variableName >>= Utf8.decode?) >>= library.directives?).getD fallback ++
    if verbose then [everything] else []

/-- The line that a log has for an event. -/
def line (library : Library) (e : Event) : String :=
  library.written e.line ++ "\n"

/-- The log of some events, by the directives of an environment. -/
def log (library : Library) (env : Environment) (verbose : Bool) (events : List Event) : String :=
  String.join ((events.filter (library.shows (library.ofEnvironment env verbose))).map library.line)

end Library

end Command

end SymbolRules
