import Fanout.Shell.Utility

/-!
# Finding programs

A name with a slash is a path; any other is looked for in the directories of the search path, of
which the system's hold the utilities. A file has to be executable, and its first line names the
program that reads it.
-/
namespace Fanout.Shell

inductive Program where
  | utility (name : String)
  | script (path : String) (content : Bytes)

namespace Program

def systemDirs : List String := ["/bin", "/usr/bin"]

/-- The places of the utilities, which are executable files. -/
def systemPlaces : List (List String) :=
  [["bin"], ["usr", "bin"]].flatMap fun dir => Utility.names.map fun name => dir ++ [name]

def defaultSearchPath : String := "/bin:/usr/bin"

/-- The program at a path. -/
def atPath (files : FileTree) (workDir path : String) : Except OsError Program :=
  let system := systemDirs.findSome? fun dir =>
    let name := if path.startsWith (dir ++ "/") then
        String.ofList (path.toList.drop (dir.length + 1)) else ""
    if Utility.isInstalled name then some name else none
  match system, files.find workDir path with
  | some name, _ => .ok (.utility name)
  | none, .ok (.file content true) => .ok (.script path content)
  | none, .ok _ => .error .noPermission
  | none, .error e => .error e

/-- Looks in one directory after the other. That a file was there but could not be run is told
only if there is no other. -/
def inDirs (files : FileTree) (workDir name : String) : OsError → List String →
    Except OsError Program
  | e, [] => .error e
  | e, dir :: dirs =>
    match atPath files workDir (if dir.isEmpty then "./" ++ name else dir ++ "/" ++ name) with
    | .ok p => .ok p
    | .error e' => inDirs files workDir name (if e' = .noPermission then e' else e) dirs

/-- The program of a name. -/
def locate (files : FileTree) (workDir : String) (searchPath : Option String) (name : String) :
    Except OsError Program :=
  if name.isEmpty then .error .notFound
  else if name.contains '/' then atPath files workDir name
  else inDirs files workDir name .notFound ((searchPath.getD defaultSearchPath).splitOn ":")

/-- The program that reads a script and the words between it and the script's path. -/
def reader? (content : Bytes) : Option (String × List String) :=
  match Octets.ofBytes content with
  | '#' :: '!' :: cs =>
    let line := (cs.takeWhile (· ≠ '\n')).dropWhile fun c => c = ' ' ∨ c = '\t'
    let name := line.takeWhile fun c => c ≠ ' ' ∧ c ≠ '\t'
    let rest := (line.drop name.length).dropWhile fun c => c = ' ' ∨ c = '\t'
    let rest := (rest.reverse.dropWhile fun c => c = ' ' ∨ c = '\t').reverse
    if name.isEmpty then none
    else some (Octets.toText name, if rest.isEmpty then [] else [Octets.toText rest])
  | _ => none

/-- Follows the readers of scripts to a utility, with the arguments that it gets. -/
def resolve (files : FileTree) (workDir : String) (searchPath : Option String) :
    Nat → Program → List String → Except OsError (String × List String)
  | 0, _, _ => .error (.code 40)
  | _ + 1, .utility name, args => .ok (name, args)
  | fuel + 1, .script path content, args =>
    match reader? content with
    | none => .error (.code 8)
    | some (name, words) => do
      let p ← atPath files workDir name
      resolve files workDir searchPath fuel p (words ++ path :: args)

end Program

end Fanout.Shell
