import Fanout.Cluster
import Fanout.Json.Decode

/-!
# Hosts as JSON

A host is written as an object of its six fields in order, absent values as null. It may be read
from an object with the optional fields missing, or from an array of all six.
-/
namespace Fanout

namespace Role

def toJson (r : Role) : Json := .str r.name

def decoder : Json.Decoder Role :=
  Json.Decode.variant ofName? (all.map name)

end Role

namespace Target

def toJson (t : Target) : Json := .str t.name

def decoder : Json.Decoder Target :=
  Json.Decode.variant ofName? ["segments", "hosts"]

end Target

namespace Host

def toJson (h : Host) : Json :=
  .obj [("id", .str h.id), ("hostname", .str h.hostname),
    ("port", Json.ofOption (fun p => .int p.toNat) h.port), ("role", h.role.toJson),
    ("content_id", Json.ofOption (fun c => .int c.toInt) h.content),
    ("data_dir", Json.ofOption .str h.dataDir)]

open Json.Decode in
/-- The fields of a host. -/
def fields : List Field :=
  [field "id" text, field "hostname" text, field "port" (nullable portNumber),
    field "role" Role.decoder, field "content_id" (nullable contentNumber),
    field "data_dir" (nullable text)]

open Json.Decode in
def decoder : Json.Decoder Host := fun t => do
  let found ← record "Host" fields t
  let id ← required "id" text found
  let hostname ← required "hostname" text found
  let port ← maybe "port" portNumber found
  let role ← required "role" Role.decoder found
  let content ← maybe "content_id" contentNumber found
  let dataDir ← maybe "data_dir" text found
  return { id, hostname, port, role, content, dataDir }

/-- Several hosts as an array. -/
def listToJson (hosts : List Host) : Json := .arr (hosts.map toJson)

def listDecoder : Json.Decoder (List Host) := Json.Decode.list decoder

end Host

end Fanout
