import Fanout.Config.Codec
import Fanout.FileTree
import Fanout.Path.Locate

/-!
# Loading the cluster file

The file is located, read, parsed and checked, in this order; the first of these that fails tells
what it was doing with which file.
-/
namespace Fanout.Config

/-- Why a cluster file cannot be used. -/
def unreadable (path : String) (cause : OsError) : Failure :=
  .context ("Could not read cluster file " ++ path) (.os cause)

def notToml (path : String) (cause : Toml.Error) : Failure :=
  .context ("Invalid TOML format in " ++ path) (.message cause.message)

def invalidLayout (path : String) (cause : LayoutError) : Failure :=
  .context ("Invalid cluster file " ++ path) (.message cause.message)

/-- The configuration in a file. -/
def readFile (files : FileTree) (env : Environment) (path : String) : Except Failure Config := do
  let text ← (files.readText env.workDir path).mapError (unreadable path)
  let config ← (ofText text).mapError (notToml path)
  match config.invalid? with
  | some e => .error (invalidLayout path e)
  | none => return config

def loadedNote (path : String) (config : Config) : Log.Record :=
  ⟨.debug, Log.Topic.config,
    "Loaded cluster file " ++ path ++ s!" ({config.segments.length} segments)"⟩

/-- The configuration in the cluster file, wherever it is. -/
def load (files : FileTree) (env : Environment) (given : Option String) : Path.Logged Config :=
  let (located, log) := Path.configFile env given
  match located with
  | .error e => (.error e, log)
  | .ok path =>
    match readFile files env path with
    | .error e => (.error e, log)
    | .ok config => (.ok config, log ++ [loadedNote path config])

end Fanout.Config
