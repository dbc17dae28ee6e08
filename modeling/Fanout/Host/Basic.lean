/-!
# Hosts

An addressable member of a cluster. A host is known within one dispatch by its id: its bare
hostname, or hostname and port once it has one, or whatever a caller puts in place.
-/
namespace Fanout

/-- What a host does in the cluster. -/
inductive Role where
  | coordinator
  | primary
  | mirror
  deriving DecidableEq, Repr

namespace Role

def all : List Role := [.coordinator, .primary, .mirror]

def name : Role → String
  | .coordinator => "coordinator"
  | .primary => "primary"
  | .mirror => "mirror"

def ofName? (name : String) : Option Role :=
  all.find? fun r => r.name = name

end Role

structure Host where
  id : String
  hostname : String
  port : Option UInt16
  role : Role
  content : Option Int32
  dataDir : Option String
  deriving DecidableEq

/-- The id of an endpoint: hostname, colon, port. -/
def endpointId (hostname : String) (port : UInt16) : String :=
  hostname ++ ":" ++ toString port.toNat

namespace Host

/-- A primary known by its hostname, nothing else being set. -/
def ofHostname (hostname : String) : Host :=
  ⟨hostname, hostname, none, .primary, none, none⟩

def withId (h : Host) (id : String) : Host :=
  { h with id }

/-- Sets the port; the id becomes that of the endpoint. -/
def withPort (h : Host) (port : UInt16) : Host :=
  { h with port := some port, id := endpointId h.hostname port }

def withRole (h : Host) (role : Role) : Host :=
  { h with role }

def withContent (h : Host) (content : Int32) : Host :=
  { h with content := some content }

def withDataDir (h : Host) (dir : String) : Host :=
  { h with dataDir := some dir }

/-- The coordinator, whose content id is -1. -/
def coordinator (hostname : String) : Host :=
  (ofHostname hostname).withRole .coordinator |>.withContent (-1)

/-- A segment, known by its endpoint. -/
def segment (content : Int32) (role : Role) (hostname : String) (port : UInt16) : Host :=
  (ofHostname hostname).withRole role |>.withPort port |>.withContent content

/-- The port as text, empty if there is none. -/
def portText (h : Host) : String :=
  h.port.elim "" fun p => toString p.toNat

/-- The content id as text, empty if there is none. -/
def contentText (h : Host) : String :=
  h.content.elim "" fun c => toString c.toInt

def dataDirText (h : Host) : String :=
  h.dataDir.getD ""

end Host

end Fanout
