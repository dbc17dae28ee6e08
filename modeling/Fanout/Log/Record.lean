/-!
# Log records

A record has a level, a topic and a text. A threshold admits the levels up to it.
-/
namespace Fanout.Log

/-- Levels from the gravest to the most talkative. -/
inductive Level where
  | error
  | warn
  | info
  | debug
  | trace
  deriving DecidableEq, Repr

namespace Level

def rank : Level → Nat
  | .error => 1
  | .warn => 2
  | .info => 3
  | .debug => 4
  | .trace => 5

def all : List Level := [.error, .warn, .info, .debug, .trace]

/-- The level in capitals. -/
def title : Level → String
  | .error => "ERROR"
  | .warn => "WARN"
  | .info => "INFO"
  | .debug => "DEBUG"
  | .trace => "TRACE"

end Level

/-- Which levels are let through. -/
inductive Threshold where
  | off
  | upTo (level : Level)
  deriving DecidableEq, Repr

namespace Threshold

def rank : Threshold → Nat
  | .off => 0
  | .upTo level => level.rank

def admits (t : Threshold) (level : Level) : Bool :=
  level.rank ≤ t.rank

/-- The more talkative of two. -/
def max (s t : Threshold) : Threshold :=
  if s.rank ≤ t.rank then t else s

def all : List Threshold := .off :: Level.all.map .upTo

def name : Threshold → String
  | .off => "off"
  | .upTo .error => "error"
  | .upTo .warn => "warn"
  | .upTo .info => "info"
  | .upTo .debug => "debug"
  | .upTo .trace => "trace"

/-- The threshold in capitals. -/
def title : Threshold → String
  | .off => "OFF"
  | .upTo level => level.title

def ofName? (name : String) : Option Threshold :=
  all.find? fun t => t.name = name

end Threshold

structure Record where
  level : Level
  topic : String
  text : String
  deriving DecidableEq

/-! What the parts of the program call themselves in the log. -/
namespace Topic

def program : String := "gpcluster"

def runner : String := "gpcluster::runner"

def paths : String := "gpcluster::paths"

def config : String := "gpcluster::config"

def dispatcher : String := "dispatch::dispatcher"

def retry : String := "dispatch::retry"

/-- The topic of the report at the end of a dispatch. -/
def report : String := "dispatch::report"

end Topic

end Fanout.Log
