import Fanout.Cluster
import Fanout.Proofs.Host.Set
import Fanout.Proofs.Lookup

/-!
# One host per machine

A selection by machines names every hostname among the members once, in the order in which they first
appear, and never fails. Wider flags cover the machines of narrower ones, although another member may
then stand for a machine.
-/
namespace Fanout

variable {seen : List String} {hosts : List Host} {h : Host}

/-! ## The first member of a machine -/

theorem ids_onePerMachine (seen : List String) (hosts : List Host) :
    (onePerMachine seen hosts).map Host.id =
      ((hosts.map Host.hostname).filter (· ∉ seen)).eraseDups := by
  induction hosts generalizing seen with
  | nil => rfl
  | cons h hs ih =>
      rw [onePerMachine, List.map_cons]
      by_cases hseen : h.hostname ∈ seen
      · rw [if_pos hseen, ih, List.filter_cons_of_neg (by simpa using hseen)]
      · have hrest : (hs.map Host.hostname).filter (· ∉ h.hostname :: seen) =
            ((hs.map Host.hostname).filter (· ∉ seen)).filter (fun name => !name == h.hostname) := by
          rw [List.filter_filter]
          refine List.filter_congr fun name _ => ?_
          by_cases he : name = h.hostname <;> simp [he]
        rw [if_neg hseen, List.filter_cons_of_pos (by simpa using hseen), List.eraseDups_cons,
          List.map_cons, ih, hrest]
        rfl

theorem ids_onePerMachine_nil (hosts : List Host) :
    (onePerMachine [] hosts).map Host.id = (hosts.map Host.hostname).eraseDups := by
  simp [ids_onePerMachine]

theorem nodup_ids_onePerMachine (hosts : List Host) :
    ((onePerMachine [] hosts).map Host.id).Nodup := by
  rw [ids_onePerMachine_nil]
  exact nodup_eraseDups _

theorem exists_first (hmem : h ∈ onePerMachine seen hosts) :
    ∃ before m after, hosts = before ++ m :: after ∧ m.hostname ∉ seen ∧
      (∀ x ∈ before, x.hostname ≠ m.hostname) ∧ h = { m with id := m.hostname } := by
  induction hosts generalizing seen with
  | nil => cases hmem
  | cons x xs ih =>
      rw [onePerMachine] at hmem
      split at hmem
      · rename_i hx
        obtain ⟨before, m, after, rfl, hseen, hbefore, hm⟩ := ih hmem
        refine ⟨x :: before, m, after, rfl, hseen, ?_, hm⟩
        exact List.forall_mem_cons.mpr ⟨fun he => hseen (he ▸ hx), hbefore⟩
      · rename_i hx
        rcases List.mem_cons.mp hmem with rfl | hmem
        · exact ⟨[], x, xs, rfl, hx, by simp, rfl⟩
        · obtain ⟨before, m, after, rfl, hseen, hbefore, hm⟩ := ih hmem
          obtain ⟨hne, hseen⟩ := not_or.mp (mt List.mem_cons.mpr hseen)
          refine ⟨x :: before, m, after, rfl, hseen, ?_, hm⟩
          exact List.forall_mem_cons.mpr ⟨Ne.symm hne, hbefore⟩

namespace Cluster

variable {c : Cluster} {scope wider : Scope}

/-! ## Wider scopes -/

theorem members_sublist (hc : scope.coordinator = true → wider.coordinator = true)
    (hm : scope.mirrors = true → wider.mirrors = true) :
    (c.members scope).Sublist (c.members wider) := by
  refine List.Sublist.append ?_ ?_
  · cases hs : scope.coordinator with
    | false => exact List.nil_sublist _
    | true => rw [hc hs]
  · refine List.monotone_filter_right c.segments fun s hs => ?_
    rcases Bool.or_eq_true_iff.mp hs with hrole | hmirrors
    · exact Bool.or_eq_true_iff.mpr (.inl hrole)
    · exact Bool.or_eq_true_iff.mpr (.inr (hm hmirrors))

/-! ## Selections -/

/-- What a selection by machines holds: every hostname once, as it first appears, each with the first
member on it. -/
structure OnePerMachine (members : List Host) (set : HostSet) : Prop where
  ids : set.ids = (members.map Host.hostname).eraseDups
  first : ∀ h ∈ set.hosts, ∃ before m after, members = before ++ m :: after ∧
    (∀ x ∈ before, x.hostname ≠ m.hostname) ∧ h = { m with id := m.hostname }

theorem OnePerMachine.mem_ids {members : List Host} {set : HostSet}
    (h : OnePerMachine members set) {name : String} :
    name ∈ set.ids ↔ name ∈ members.map Host.hostname := by
  rw [h.ids, List.mem_eraseDups]

theorem exists_select_hosts (c : Cluster) (coordinator mirrors : Bool) :
    ∃ set, c.select ⟨.hosts, coordinator, mirrors⟩ = .ok set ∧
      OnePerMachine (c.members ⟨.hosts, coordinator, mirrors⟩) set := by
  refine ⟨_, HostSet.ofList_eq_ok (nodup_ids_onePerMachine _), ids_onePerMachine_nil _, ?_⟩
  intro h hmem
  obtain ⟨before, m, after, hsplit, -, hbefore, hm⟩ := exists_first hmem
  exact ⟨before, m, after, hsplit, hbefore, hm⟩

theorem select_segments_eq_ok_iff {set : HostSet} {coordinator mirrors : Bool} :
    c.select ⟨.segments, coordinator, mirrors⟩ = .ok set ↔
      set.hosts = c.members ⟨.segments, coordinator, mirrors⟩ :=
  HostSet.ofList_eq_ok_iff

/-- A selection by machines has one host for every hostname among the members, and so covers what the
instances cover. Wider flags drop no machine, and of the instances they keep those there were, in their
order. -/
theorem machines_selected (c : Cluster) (coordinator mirrors : Bool) :
    let members := (if coordinator then c.coordinator.toList else []) ++
      c.segments.filter fun s => s.role ≠ .mirror || mirrors
    ∃ set, c.select ⟨.hosts, coordinator, mirrors⟩ = .ok set ∧ OnePerMachine members set ∧
      (∀ instances, c.select ⟨.segments, coordinator, mirrors⟩ = .ok instances →
        instances.hosts = members ∧
        ∀ name, name ∈ instances.hosts.map Host.hostname ↔ name ∈ set.ids) ∧
      ∀ coordinator' mirrors', (coordinator = true → coordinator' = true) →
        (mirrors = true → mirrors' = true) →
        (∃ wider, c.select ⟨.hosts, coordinator', mirrors'⟩ = .ok wider ∧ set.ids ⊆ wider.ids) ∧
        ∀ larger, c.select ⟨.segments, coordinator', mirrors'⟩ = .ok larger →
          ∃ smaller, c.select ⟨.segments, coordinator, mirrors⟩ = .ok smaller ∧
            smaller.hosts.Sublist larger.hosts := by
  intro members
  obtain ⟨set, hset, hone⟩ := exists_select_hosts c coordinator mirrors
  have hone : OnePerMachine members set := hone
  refine ⟨set, hset, hone, fun instances hinst => ?_, fun coordinator' mirrors' hc hm => ?_⟩
  · have hhosts : instances.hosts = members := select_segments_eq_ok_iff.mp hinst
    exact ⟨hhosts, fun name => by rw [hhosts, hone.mem_ids]⟩
  · have hwide (target : Target) : (c.members ⟨target, coordinator, mirrors⟩).Sublist
        (c.members ⟨target, coordinator', mirrors'⟩) := members_sublist hc hm
    constructor
    · obtain ⟨wider, hwider, hone'⟩ := exists_select_hosts c coordinator' mirrors'
      refine ⟨wider, hwider, fun name hname => hone'.mem_ids.mpr ?_⟩
      exact ((hwide .hosts).map Host.hostname).subset (hone.mem_ids.mp hname)
    · intro larger hlarger
      have hsub : members.Sublist larger.hosts :=
        select_segments_eq_ok_iff.mp hlarger ▸ hwide .segments
      exact ⟨⟨members, larger.nodup.sublist (hsub.map Host.id)⟩, select_segments_eq_ok_iff.mpr rfl,
        hsub⟩

/-- The coordinator and a mirror are on the machine of the second primary. -/
def shared : Cluster :=
  { coordinator := some (Host.coordinator "sdw1")
    segments := [Host.segment 0 .primary "sdw2" 6000, Host.segment 0 .mirror "sdw1" 7000,
      Host.segment 1 .primary "sdw1" 6000] }

/-- With the flags on, the machines come in another order and another member stands for one of them. -/
theorem machines_selected_shared : ∃ set wider instances larger : HostSet,
    shared.select ⟨.hosts, false, false⟩ = .ok set ∧ set.ids = ["sdw2", "sdw1"] ∧
    shared.select ⟨.hosts, true, true⟩ = .ok wider ∧ set.ids ⊆ wider.ids ∧
    shared.select ⟨.segments, false, false⟩ = .ok instances ∧
    (∀ name, name ∈ instances.hosts.map Host.hostname ↔ name ∈ set.ids) ∧
    shared.select ⟨.segments, true, true⟩ = .ok larger ∧ instances.hosts.Sublist larger.hosts := by
  have hlarger : shared.select ⟨.segments, true, true⟩ =
      .ok ⟨shared.members ⟨.segments, true, true⟩, by decide⟩ := select_segments_eq_ok_iff.mpr rfl
  obtain ⟨set, hset, hone, hcover, hflags⟩ := machines_selected shared false false
  obtain ⟨⟨wider, hwider, hids⟩, hinstances⟩ := hflags true true nofun nofun
  obtain ⟨smaller, hsmaller, hsub⟩ := hinstances _ hlarger
  exact ⟨set, wider, smaller, _, hset, hone.ids.trans (by decide), hwider, hids, hsmaller,
    (hcover _ hsmaller).2, hlarger, hsub⟩

end Cluster

end Fanout
