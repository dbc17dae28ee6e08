import Fanout.Fault
import Fanout.Host.Basic

/-!
# Host sets

Hosts with pairwise distinct ids, in the order in which they were given; workers take them in that
order. A list with a repeated id is refused, and the refusal names the first id that repeats one
before it.
-/
namespace Fanout

structure HostSet where
  hosts : List Host
  nodup : (hosts.map Host.id).Nodup

/-- The first id that is among `seen` or repeats one before it. -/
def firstRepeated (seen : List String) : List Host → Option String
  | [] => none
  | h :: hs => if h.id ∈ seen then some h.id else firstRepeated (h.id :: seen) hs

theorem nodup_of_firstRepeated_eq_none {seen : List String} {hosts : List Host}
    (h : firstRepeated seen hosts = none) :
    (hosts.map Host.id).Nodup ∧ ∀ x ∈ hosts, x.id ∉ seen := by
  induction hosts generalizing seen with
  | nil => simp
  | cons x xs ih =>
    simp only [firstRepeated] at h
    split at h
    · cases h
    · rename_i hx
      obtain ⟨hnd, hseen⟩ := ih h
      refine ⟨?_, ?_⟩
      · simp only [List.map_cons, List.nodup_cons, List.mem_map, not_exists, not_and]
        exact ⟨fun y hy hid => hseen y hy (by simp [hid]), hnd⟩
      · intro y hy
        rcases List.mem_cons.mp hy with rfl | hy
        · exact hx
        · exact fun hmem => hseen y hy (List.mem_cons_of_mem _ hmem)

namespace HostSet

/-- The set of some hosts, unless two of them have one id. -/
def ofList (hosts : List Host) : Except Fault HostSet :=
  match h : firstRepeated [] hosts with
  | some id => .error (.duplicateHost id)
  | none => .ok ⟨hosts, (nodup_of_firstRepeated_eq_none h).1⟩

/-- A set of hosts known by their hostnames. -/
def ofHostnames (names : List String) : Except Fault HostSet :=
  ofList (names.map Host.ofHostname)

def size (s : HostSet) : Nat := s.hosts.length

def isEmpty (s : HostSet) : Bool := s.hosts.isEmpty

def ids (s : HostSet) : List String := s.hosts.map Host.id

def get? (s : HostSet) (id : String) : Option Host :=
  s.hosts.find? fun h => h.id = id

end HostSet

end Fanout
