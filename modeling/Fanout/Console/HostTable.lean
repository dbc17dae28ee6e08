import Fanout.Cluster
import Fanout.Console.Basic

/-!
# The table of hosts

One row per host: id, role, content id, and the data directory if it has one. The column of ids is
as wide as the longest id has octets.
-/
namespace Fanout.Console

/-- The width of the column of ids. -/
def idWidth (hosts : List Host) : Nat :=
  (hosts.map fun h => h.id.utf8ByteSize).foldl max 0

def row (colors : Bool) (width : Nat) (h : Host) : String :=
  let content := h.content.elim "-" fun c => toString c.toInt
  let dir := h.dataDir.elim "" fun d => "  " ++ paint colors .dimmed d
  "  " ++ Text.padRight width h.id ++ "  " ++ Text.padRight 11 h.role.name ++ "  " ++
    Text.padLeft 3 ' ' content ++ dir

def rows (colors : Bool) (hosts : List Host) : List String :=
  hosts.map (row colors (idWidth hosts))

/-- The hosts of a selection, and the number of content ids in the cluster. -/
def hostTable (colors : Bool) (hosts : HostSet) (contents : Nat) : String :=
  if hosts.isEmpty then warning colors "No hosts selected"
  else
    header colors s!"Hosts ({hosts.size})" ++
      String.join ((rows colors hosts.hosts).map line) ++ line "" ++
      pair colors "Segments" (Text.count contents "content id")

end Fanout.Console
