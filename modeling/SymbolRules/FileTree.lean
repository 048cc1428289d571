import SymbolRules.Error
import SymbolRules.Text.Utf8

/-!
# File trees

The files and directories below a base directory, and what reading a path gives. A path is followed one
component at a time, and the first component that cannot be followed decides the error.
-/

namespace SymbolRules

/-- Files and directories by their components from the base; a directory has no content, and the
directories above an entry exist with it. -/
structure FileTree where
  entries : List (List (List UInt8) × Option (List UInt8))
deriving DecidableEq, Repr

namespace FileTree

/-- Nothing but the base directory. -/
def empty : FileTree := ⟨[]⟩

/-- The byte `/`. -/
def slash : UInt8 := 0x2F

/-- The places that a path from the base passes, the last one first. -/
def passed (components : List (List UInt8)) : List (List (List UInt8)) :=
  components.foldl (fun places name =>
    let here := places.head?.getD []
    if name = [] || name = [0x2E] then places
    else if name = [0x2E, 0x2E] then here.dropLast :: places
    else (here ++ [name]) :: places) []

/-- With a file (its bytes) or a directory (`none`) made at a path, and the directories on the way to it. -/
def put (tree : FileTree) (path : String) (content : Option (List UInt8)) : FileTree :=
  match passed ((Utf8.encode path).splitOn slash) with
  | [] => tree
  | place :: way => ⟨(place, content) :: way.map (·, none) ++ tree.entries⟩

/-- The tree with the given files and directories, made one after another. -/
def ofList (files : List (String × Option (List UInt8))) : FileTree :=
  files.foldl (fun tree f => tree.put f.1 f.2) empty

/-- Where a path has come to. -/
inductive Place where
  /-- Below the base directory, or at it. -/
  | inside (components : List (List UInt8))
  /-- Above the base directory, where nothing is known. -/
  | outside

/-- What stands at a place. -/
inductive Node where
  | directory
  | file (content : List UInt8)

/-- What stands at a place, if anything does. -/
def node? (tree : FileTree) : Place → Option Node
  | .outside | .inside [] => some .directory
  | .inside components =>
    match tree.entries.find? (·.1 == components) with
    | some (_, some content) => some (.file content)
    | some (_, none) => some .directory
    | none => if tree.entries.any (components.isPrefixOf ·.1) then some .directory else none

/-- The place one level up. -/
def Place.parent : Place → Place
  | .inside [] | .outside => .outside
  | .inside components => .inside components.dropLast

/-- The place one level down. -/
def Place.child? : Place → List UInt8 → Option Place
  | .inside components, name => some (.inside (components ++ [name]))
  | .outside, _ => none

/-- The most bytes that a component may have. -/
def componentLimit : Nat := 255

/-- The least number of bytes that a path may not have. -/
def pathLimit : Nat := 4096

/-- Follows one component from a directory. -/
def enter (tree : FileTree) (place : Place) (name : List UInt8) : Except SystemError Place :=
  if name = [] || name = [0x2E] then .ok place
  else if name = [0x2E, 0x2E] then .ok place.parent
  else if name.length > componentLimit then .error .nameTooLong
  else match place.child? name with
    | none => .error .notFound
    | some place => if (tree.node? place).isSome then .ok place else .error .notFound

/-- Follows the components of a path from a place. -/
def follow (tree : FileTree) (place : Place) : List (List UInt8) → Except SystemError Place
  | [] => .ok place
  | name :: rest =>
    match tree.node? place with
    | some .directory => do tree.follow (← tree.enter place name) rest
    | _ => .error .notDirectory

/-- The content of the file at a path. -/
def read (tree : FileTree) (path : List UInt8) : Except SystemError (List UInt8) := do
  if path.contains 0 then throw .nulInPath
  if path = [] then throw .notFound
  if path.length ≥ pathLimit then throw .nameTooLong
  let start := if path.head? = some slash then .outside else .inside []
  let place ← tree.follow start (path.splitOn slash)
  match tree.node? place with
  | some (.file content) => return content
  | some .directory => throw .isDirectory
  | none => throw .notFound

end FileTree

end SymbolRules
