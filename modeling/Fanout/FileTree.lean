import Fanout.OsError
import Fanout.Text.Utf8

/-!
# File trees

Directories and files by absolute path, as far as reading, appending, starting and making
directories tell. A step of a path through something that is no directory, or through nothing, is
an error of its own.
-/
namespace Fanout

inductive Entry where
  | file (content : Bytes) (executable : Bool)
  | dir

/-- What there is, by the names on the way from the root. -/
structure FileTree where
  entries : List (List String × Entry)

namespace FileTree

/-- The root alone. -/
def empty : FileTree := ⟨[]⟩

/-- What a place holds; the root is a directory. -/
def at? (t : FileTree) (place : List String) : Option Entry :=
  if place.isEmpty then some .dir else t.entries.lookup place

/-- Puts something at a place, instead of what was there. -/
def put (t : FileTree) (place : List String) (e : Entry) : FileTree :=
  if (t.at? place).isSome then
    ⟨t.entries.map fun x => if x.1 == place then (place, e) else x⟩
  else ⟨t.entries ++ [(place, e)]⟩

/-- Takes away what is at a place, and all below it. -/
def remove (t : FileTree) (place : List String) : FileTree :=
  ⟨t.entries.filter fun e => !place.isPrefixOf e.1⟩

/-- The parts of a path between its slashes. -/
def parts (path : String) : List String :=
  path.splitOn "/"

/-- Follows the parts of a path from a place. All but the last have to lead to directories. -/
def follow (t : FileTree) : List String → List String → Except OsError (List String)
  | place, [] => .ok place
  | place, name :: rest =>
    match t.at? place with
    | none => .error .notFound
    | some (.file _ _) => .error .notDirectory
    | some .dir =>
      if name.isEmpty ∨ name = "." then follow t place rest
      else if name = ".." then follow t place.dropLast rest
      else follow t (place ++ [name]) rest

/-- The place a path leads to, seen from a directory. No path holds a NUL. -/
def resolve (t : FileTree) (workDir path : String) : Except OsError (List String) :=
  if path.contains '\x00' then .error .nulInPath
  else if path.isEmpty then .error .notFound
  else
    let full := if path.startsWith "/" then path else workDir ++ "/" ++ path
    t.follow [] (parts full)

/-- What a path leads to. -/
def find (t : FileTree) (workDir path : String) : Except OsError Entry := do
  let place ← t.resolve workDir path
  match t.at? place with
  | some e => .ok e
  | none => .error .notFound

/-- The octets of a file. -/
def read (t : FileTree) (workDir path : String) : Except OsError Bytes := do
  match ← t.find workDir path with
  | .file content _ => .ok content
  | .dir => .error .isDirectory

/-- The text of a file. -/
def readText (t : FileTree) (workDir path : String) : Except OsError String := do
  match Utf8.decode? (← t.read workDir path) with
  | some s => .ok s
  | none => .error .notUtf8

/-- Changes a file, which is made if it is missing. -/
def change (t : FileTree) (workDir path : String) (f : Bytes → Bytes) :
    Except OsError FileTree := do
  let place ← t.resolve workDir path
  match t.at? place with
  | some (.file content x) => .ok (t.put place (.file (f content) x))
  | some .dir => .error .isDirectory
  | none =>
    match t.at? place.dropLast with
    | some .dir => .ok (t.put place (.file (f []) false))
    | some (.file _ _) => .error .notDirectory
    | none => .error .notFound

/-- Adds to the end of a file. -/
def append (t : FileTree) (workDir path : String) (bytes : Bytes) : Except OsError FileTree :=
  t.change workDir path (· ++ bytes)

/-- Writes a file anew. -/
def write (t : FileTree) (workDir path : String) (bytes : Bytes) : Except OsError FileTree :=
  t.change workDir path fun _ => bytes

/-- Makes the directories a path names, as far as they are missing. -/
def makeDirsFrom (t : FileTree) : List String → List String → Except OsError FileTree
  | _, [] => .ok t
  | place, name :: rest =>
    if name.isEmpty ∨ name = "." then makeDirsFrom t place rest
    else if name = ".." then makeDirsFrom t place.dropLast rest
    else
      let place' := place ++ [name]
      match t.at? place' with
      | some .dir => makeDirsFrom t place' rest
      | some (.file _ _) => .error (if rest.isEmpty then .alreadyExists else .notDirectory)
      | none => makeDirsFrom (t.put place' .dir) place' rest

/-- Makes a directory and those above it. -/
def makeDirs (t : FileTree) (workDir path : String) : Except OsError FileTree :=
  if path.contains '\x00' then .error .nulInPath
  else if path.isEmpty then .ok t
  else
    let full := if path.startsWith "/" then path else workDir ++ "/" ++ path
    t.makeDirsFrom [] (parts full)

end FileTree

end Fanout
