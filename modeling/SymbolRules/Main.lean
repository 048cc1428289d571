import SymbolRules.Command.Check

/-!
# The command line program

Reads the arguments, the environment and the files that a run needs, and writes its transcript.
-/

namespace SymbolRules.Main

open Command

/-- The paths of the files that a request reads. -/
def paths : Request → List (List UInt8)
  | .page _ => []
  | .check inv =>
    let rules := match inv.rules with
      | some (.file path) => [path]
      | _ => []
    rules ++ inv.candidateFile.toList.filter (· ≠ [dash])

/-- Whether a request reads standard input. -/
def readsStdin : Request → Bool
  | .page _ => false
  | .check inv => inv.candidateFile == some [dash]

/-- The names of the variables that a request looks at. -/
def names : Request → List String
  | .page _ => []
  | .check inv =>
    match inv.rules with
    | some (.envVar name) => [LogFilter.variableName, name]
    | _ => [LogFilter.variableName]

/-- The cause that a failed system call stands for. -/
def causeOf : IO.Error → SystemError
  | .noFileOrDirectory .. => .notFound
  | .inappropriateType .. => .isDirectory
  | e => .other (toString e)

/-- The content of a file. -/
def readPath (path : List UInt8) : IO (Except SystemError (List UInt8)) := do
  if path.contains 0 then return .error .nulInPath
  try
    let content ← IO.FS.readBinFile (Utf8.repair path)
    return .ok content.toList
  catch e => return .error (causeOf e)

/-- Everything on standard input, up to its end or to a failure. -/
def readStdin : IO Input := do
  let stdin ← IO.getStdin
  let mut bytes := ByteArray.empty
  repeat
    try
      let more ← stdin.read 0x10000
      if more.isEmpty then return bytes.toList
      bytes := bytes ++ more
    catch e => return ⟨bytes.toList, some (causeOf e)⟩
  return bytes.toList

/-- What surrounds a request. -/
def hostFor (request : Request) : IO Host := do
  let bindings ← (names request).filterMapM fun name => do
    return (← IO.getEnv name).map fun value => (name, Utf8.encode value)
  let files ← (paths request).mapM fun path => do
    return (path, ← readPath path)
  let stdin ← if readsStdin request then readStdin else pure ([] : List UInt8)
  return {
    environment := .ofList bindings
    fileAt := fun path => (files.lookup path).getD (.error .notFound)
    stdin := stdin }

end SymbolRules.Main

/-- Runs the program on its arguments. -/
def main (args : List String) : IO UInt32 := do
  match SymbolRules.Command.parse (args.map SymbolRules.Utf8.encode) with
  | .error _ =>
    IO.eprintln SymbolRules.Command.usage
    return 2
  | .ok request =>
    let t := SymbolRules.Command.perform request (← SymbolRules.Main.hostFor request)
    IO.print t.stdout
    IO.eprint t.stderr
    return UInt32.ofNat t.exit
