import Fanout.Proofs.Dispatch.Step

/-!
# What the journal tells of one host

The events of one host, in order, are determined by how far the host has come: none while it waits,
then its start, the end of its operation, and its completion. A host that was cancelled has its
completion alone. Every action moves this trail on together with the phase of the worker.
-/
namespace Fanout.Dispatch

/-! ## Hosts and places -/

section Places

variable {hosts : HostSet}

theorem getElem?_ids (i : Fin hosts.size) : hosts.ids[i.val]? = some (hostAt hosts i).id := by
  have h : i.val < hosts.hosts.length := i.isLt
  simp only [HostSet.ids, hostAt, List.getElem?_map, List.getElem?_eq_getElem h, Option.map_some]
  rfl

theorem id_mem_ids (i : Fin hosts.size) : (hostAt hosts i).id ∈ hosts.ids :=
  List.mem_of_getElem? (getElem?_ids i)

theorem exists_hostAt {id : String} (h : id ∈ hosts.ids) : ∃ i, (hostAt hosts i).id = id := by
  obtain ⟨h, hmem, rfl⟩ := List.mem_map.mp h
  obtain ⟨i, hi, rfl⟩ := List.getElem_of_mem hmem
  exact ⟨⟨i, hi⟩, rfl⟩

theorem length_ids : hosts.ids.length = hosts.size := by
  simp [HostSet.ids, HostSet.size]

theorem nodup_ids (hosts : HostSet) : hosts.ids.Nodup :=
  hosts.nodup

theorem eq_of_id_eq {i j : Fin hosts.size} (h : (hostAt hosts i).id = (hostAt hosts j).id) :
    i = j := by
  have hi : i.val < hosts.ids.length := by rw [length_ids]; exact i.isLt
  have he : hosts.ids[i.val]? = hosts.ids[j.val]? := by rw [getElem?_ids, getElem?_ids, h]
  exact Fin.ext ((List.getElem?_inj hi (nodup_ids hosts)).mp he)

theorem hostAt_ne {i j : Fin hosts.size} (h : i ≠ j) : hostAt hosts i ≠ hostAt hosts j :=
  fun he => h (eq_of_id_eq (congrArg Host.id he))

end Places

/-! ## Trails -/

def Event.host? : Event → Option Host
  | .started h => some h
  | .executed h _ => some h
  | .completed h _ => some h
  | _ => none

/-- What the journal says of one host. -/
def trail (h : Host) (journal : List Event) : List Event :=
  journal.filter fun e => e.host? = some h

@[simp] theorem trail_nil (h : Host) : trail h [] = [] := rfl

theorem trail_cons (h : Host) (e : Event) (es : List Event) :
    trail h (e :: es) = if e.host? = some h then e :: trail h es else trail h es := by
  simp [trail, List.filter_cons]

@[simp] theorem trail_append (h : Host) (es fs : List Event) :
    trail h (es ++ fs) = trail h es ++ trail h fs := by
  simp [trail]

@[simp] theorem trail_logged (h : Host) (log : List Log.Record) :
    trail h (log.map .logged) = [] := by
  simp [trail, Event.host?]

theorem mem_trail {h : Host} {e : Event} {journal : List Event} :
    e ∈ trail h journal ↔ e ∈ journal ∧ e.host? = some h := by
  simp [trail]

/-- How a host came to an outcome: its operation ran once, or it was cancelled before. -/
inductive Reached (h : Host) : Outcome → List Event → Prop where
  | ran (a : Answer) : Reached h a.outcome [.started h, .executed h a]
  | skipped : Reached h .cancelled []

/-- The trail of a host that has its outcome and is announced. -/
def Closed (h : Host) (o : Outcome) (t : List Event) : Prop :=
  ∃ r, Reached h o r ∧ t = r ++ [.completed h o]

/-- What the trail of the host at place `i` is while a worker has it in its hands. -/
inductive Tells {n : Nat} (h : Host) (i : Fin n) : Phase n → List Event → Prop where
  | holding : Tells h i (.holding i) []
  | cleared : Tells h i (.cleared i) []
  | running : Tells h i (.running i) [.started h]
  | failing {a : Answer} (hf : a.outcome.isFailure = true) :
      Tells h i (.failing i a.outcome) [.started h, .executed h a]
  | settled {o : Outcome} {t : List Event} (hr : Reached h o t) : Tells h i (.settled i o) t
  | announced {o : Outcome} {t : List Event} (hc : Closed h o t) : Tells h i (.announced i o) t

def Phase.place? {n : Nat} : Phase n → Option (Fin n)
  | .holding i => some i
  | .cleared i => some i
  | .running i => some i
  | .failing i _ => some i
  | .settled i _ => some i
  | .announced i _ => some i
  | .idle => none
  | .done => none

section Advances

variable {policy : Policy} {hosts : HostSet} {w : Nat} {i : Fin hosts.size} {c fired : Bool}
  {l : Label} {p p' : Phase hosts.size} {es : List Event}

theorem Advance.place?_eq (ha : Advance policy hosts w i c l p p' es fired) :
    p.place? = some i ∧ p'.place? = some i := by
  cases ha <;> exact ⟨rfl, rfl⟩

/-- Moving one host on leaves no trace in the trails of the others. -/
theorem Advance.trail_of_ne (ha : Advance policy hosts w i c l p p' es fired) {h : Host}
    (hne : hostAt hosts i ≠ h) : trail h es = [] := by
  cases ha <;> simp [trail_cons, Event.host?, fireNotice, hne]

/-- The trail of a host keeps step with the phase of its worker. -/
theorem Advance.tells (ha : Advance policy hosts w i c l p p' es fired) {t : List Event}
    (ht : Tells (hostAt hosts i) i p t) :
    Tells (hostAt hosts i) i p' (t ++ trail (hostAt hosts i) es) := by
  cases ha with
  | clear => cases ht; exact .cleared
  | skip => cases ht; exact .settled .skipped
  | start =>
      cases ht
      simpa [trail_cons, Event.host?] using Tells.running
  | fail e hf =>
      cases ht
      simpa [trail_cons, Event.host?] using Tells.failing hf
  | settle e =>
      cases ht
      simpa [trail_cons, Event.host?] using Tells.settled (.ran e.answer)
  | fire =>
      cases ht
      simpa [trail_cons, Event.host?, fireNotice] using Tells.settled (.ran _)
  | refire =>
      cases ht
      simpa using Tells.settled (.ran _)
  | announce o =>
      cases ht with
      | settled hr => exact .announced ⟨_, hr, by simp [trail_cons, Event.host?]⟩

end Advances

end Fanout.Dispatch
