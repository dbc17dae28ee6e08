import Fanout.Proofs.Cluster.Machines
import Fanout.Proofs.Config.Layout
import Fanout.Proofs.Host.Endpoint
import Fanout.Proofs.Host.Set

/-!
# What a valid cluster file can be dispatched to

In a valid file no endpoint is listed twice, and endpoints have ids of their own, so the hosts of a
selection have distinct ids. The one exception is a coordinator without a port whose hostname reads as
the endpoint of a segment: its bare hostname is its id.
-/
namespace Fanout

/-! ## Endpoints of a valid file -/

/-- The endpoint of a segment, as validity counts it. -/
def SegmentEntry.place (s : SegmentEntry) : Endpoint :=
  (s.hostname, some s.port)

theorem SegmentEntry.nodup_endpoints {segments : List SegmentEntry}
    (h : (segments.map place).Nodup) : (segments.map endpoint).Nodup := by
  rw [List.Nodup, List.pairwise_map] at h ⊢
  refine h.imp fun hne heq => hne ?_
  obtain ⟨hname, hport⟩ := eq_of_endpointId_eq heq
  simp only [place, hname, hport]

namespace Config

variable {c : Config} {scope : Scope}

theorem places_of_valid (h : c.invalid? = none) : (c.segments.map SegmentEntry.place).Nodup ∧
    ∀ k, c.coordinator = some k → ∀ s ∈ c.segments, s.place ≠ (k.hostname, k.port) := by
  have hlisted := (invalid?_eq_none_iff.mp h).segments
  constructor
  · have hnd := hlisted.endpoints
    rw [List.Nodup, List.pairwise_map] at hnd ⊢
    exact hnd.imp fun hne he => hne (by simpa [SegmentEntry.place] using he)
  · intro k hk s hs he
    obtain ⟨hname, hport⟩ := Prod.mk.inj he
    exact hlisted.apart k hk s hs hname.symm hport.symm

/-! ## The hosts of a file -/

theorem id_segment (s : SegmentEntry) : (s.dataDir.elim
    (Host.segment s.content s.role s.hostname s.port)
    (Host.segment s.content s.role s.hostname s.port).withDataDir).id = s.endpoint := by
  cases s.dataDir <;> rfl

theorem role_segment (s : SegmentEntry) : (s.dataDir.elim
    (Host.segment s.content s.role s.hostname s.port)
    (Host.segment s.content s.role s.hostname s.port).withDataDir).role = s.role := by
  cases s.dataDir <;> rfl

/-- The segments of a file that a scope covers. -/
def covered (c : Config) (scope : Scope) : List SegmentEntry :=
  c.segments.filter fun s => s.role ≠ .mirror || scope.mirrors

theorem mem_covered {s : SegmentEntry} : s ∈ c.covered scope ↔
    s ∈ c.segments ∧ (s.role = .mirror → scope.mirrors = true) := by
  simp [covered, Decidable.imp_iff_not_or]

/-- The hosts of those segments are known by their endpoints. -/
theorem ids_covered (c : Config) (scope : Scope) :
    (c.cluster.segments.filter fun s => s.role ≠ .mirror || scope.mirrors).map Host.id =
      (c.covered scope).map SegmentEntry.endpoint := by
  simp only [cluster, covered, List.filter_map, List.map_map, Function.comp_def, role_segment,
    id_segment]

theorem nodup_covered (hv : c.invalid? = none) :
    ((c.covered scope).map SegmentEntry.endpoint).Nodup :=
  (SegmentEntry.nodup_endpoints (places_of_valid hv).1).sublist (List.filter_sublist.map _)

/-- The id of the coordinator. -/
def coordinatorId (k : CoordinatorEntry) : String :=
  k.port.elim k.hostname (endpointId k.hostname)

theorem cluster_coordinator {k : CoordinatorEntry} (hk : c.coordinator = some k) :
    ∃ h, c.cluster.coordinator = some h ∧ h.id = coordinatorId k := by
  simp only [cluster, hk, Option.map_some]
  refine ⟨_, rfl, ?_⟩
  cases k.dataDir <;> cases hp : k.port <;> simp only [coordinatorId, hp] <;> rfl

/-! ## Selections -/

/-- The coordinator is known by a bare hostname that reads as the endpoint of a segment, and the scope
covers both. -/
structure Shadows (c : Config) (scope : Scope) (name : String) : Prop where
  target : scope.target = .segments
  included : scope.coordinator = true
  coordinator : ∃ k, c.coordinator = some k ∧ k.port = none ∧ k.hostname = name
  segment : ∃ s ∈ c.segments, (s.role = .mirror → scope.mirrors = true) ∧ s.endpoint = name

/-- What a scope by segments selects: the coordinator, if there is one and the scope includes it, and
the segments that it covers. -/
theorem candidates_cases (c : Config) (ht : scope.target = .segments) :
    ((scope.coordinator = false ∨ c.coordinator = none) ∧
      (c.cluster.candidates scope).map Host.id = (c.covered scope).map SegmentEntry.endpoint) ∨
    (scope.coordinator = true ∧ ∃ k h hs, c.coordinator = some k ∧ h.id = coordinatorId k ∧
      hs.map Host.id = (c.covered scope).map SegmentEntry.endpoint ∧
      c.cluster.candidates scope = h :: hs) := by
  simp only [Cluster.candidates, ht, Cluster.members]
  cases hi : scope.coordinator with
  | false => exact Or.inl ⟨Or.inl rfl, ids_covered c scope⟩
  | true =>
      cases hk : c.coordinator with
      | none =>
          have hnone : c.cluster.coordinator = none := by simp [cluster, hk]
          rw [hnone]
          exact Or.inl ⟨Or.inr rfl, ids_covered c scope⟩
      | some k =>
          obtain ⟨h, hh, hid⟩ := cluster_coordinator hk
          rw [hh]
          exact Or.inr ⟨rfl, k, h, _, rfl, hid, ids_covered c scope, rfl⟩

/-- In a valid file the id of the coordinator is that of a segment only by shadowing it. -/
theorem shadows_of_mem (hv : c.invalid? = none) (ht : scope.target = .segments)
    (hi : scope.coordinator = true) {k : CoordinatorEntry} (hk : c.coordinator = some k)
    (hmem : coordinatorId k ∈ (c.covered scope).map SegmentEntry.endpoint) :
    c.Shadows scope (coordinatorId k) := by
  obtain ⟨s, hs, hid⟩ := List.mem_map.mp hmem
  obtain ⟨hs, hcovers⟩ := mem_covered.mp hs
  have hport : k.port = none := by
    cases hp : k.port with
    | none => rfl
    | some p =>
        simp only [coordinatorId, hp, Option.elim_some] at hid
        obtain ⟨hname, hsame⟩ := eq_of_endpointId_eq hid
        refine absurd ?_ ((places_of_valid hv).2 k hk s hs)
        simp only [SegmentEntry.place, hname, hsame, hp]
  have hname : k.hostname = coordinatorId k := by simp only [coordinatorId, hport, Option.elim_none]
  exact ⟨ht, hi, ⟨k, hk, hport, hname⟩, s, hs, hcovers, hid⟩

theorem nodup_ids_candidates (hv : c.invalid? = none) (hno : ∀ name, ¬ c.Shadows scope name) :
    ((c.cluster.candidates scope).map Host.id).Nodup := by
  cases ht : scope.target with
  | hosts =>
      simp only [Cluster.candidates, ht]
      exact nodup_ids_onePerMachine _
  | segments =>
      rcases c.candidates_cases ht with ⟨-, hids⟩ | ⟨hi, k, h, hs, hk, hid, hids, hall⟩
      · exact hids ▸ nodup_covered hv
      · rw [hall, List.map_cons, hids, hid]
        exact List.nodup_cons.mpr
          ⟨fun hmem => hno _ (shadows_of_mem hv ht hi hk hmem), nodup_covered hv⟩

/-- A file that is found valid can be dispatched to in every scope: the hosts that are selected form a
set. The one exception is where the bare hostname of the coordinator shadows a segment, and then it is
the id that the refusal names. -/
theorem select_of_valid (hv : c.invalid? = none) (scope : Scope) :
    ((∀ name, ¬ c.Shadows scope name) →
      ∃ set, c.cluster.select scope = .ok set ∧ set.hosts = c.cluster.candidates scope) ∧
    ∀ name, c.Shadows scope name → c.cluster.select scope = .error (.duplicateHost name) := by
  constructor
  · intro hno
    exact ⟨_, HostSet.ofList_eq_ok (nodup_ids_candidates hv hno), rfl⟩
  · rintro name ⟨ht, hi, ⟨k, hk, hport, rfl⟩, s, hs, hcovers, hname⟩
    rcases c.candidates_cases ht with ⟨hout | hout, -⟩ | ⟨-, k', h, hs', hk', hid, hids, hall⟩
    · rw [hi] at hout
      cases hout
    · rw [hk] at hout
      cases hout
    · obtain rfl : k = k' := Option.some.inj (hk.symm.trans hk')
      have hbare : h.id = k.hostname := by simp only [hid, coordinatorId, hport, Option.elim_none]
      rw [Cluster.select, hall, ← hbare]
      refine HostSet.ofList_cons_eq_error (hids ▸ nodup_covered hv) ?_
      rw [hids, hbare, ← hname]
      exact List.mem_map_of_mem (mem_covered.mpr ⟨hs, hcovers⟩)

/-- A coordinator without a port, whose hostname is written as an endpoint, and the segment there. -/
def portless : Config :=
  { coordinator := some ⟨"sdw1:6000", none, none⟩
    segments := [⟨0, .primary, "sdw1", 6000, none⟩]
    dispatch := .default
    ssh := .default }

/-- Validity alone does not make every selection a set. -/
theorem valid_not_selectable_portless : portless.invalid? = none ∧
    portless.cluster.select ⟨.segments, true, false⟩ = .error (.duplicateHost "sdw1:6000") :=
  ⟨by decide, rfl⟩

theorem select_of_valid_portless : portless.invalid? = none ∧
    (∃ set, portless.cluster.select ⟨.hosts, true, false⟩ = .ok set ∧
      set.hosts = portless.cluster.candidates ⟨.hosts, true, false⟩) ∧
    portless.cluster.select ⟨.segments, true, false⟩ = .error (.duplicateHost "sdw1:6000") := by
  have hv : portless.invalid? = none := by decide
  refine ⟨hv, (select_of_valid hv _).1 fun name hs => ?_, (select_of_valid hv _).2 _ ?_⟩
  · cases hs.target
  · exact ⟨rfl, rfl, ⟨_, rfl, rfl, rfl⟩, _, List.mem_cons_self, nofun, by decide⟩

end Config

end Fanout
