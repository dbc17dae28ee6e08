import Fanout.Program.Listing
import Fanout.Proofs.Config.Selection
import Mathlib.Data.List.Sort

/-!
# The content ids of a cluster

The content ids are those of the primary segments, in increasing order and each once, however the segments
are listed. In a valid file no two primary segments hold one content, so there are as many ids as primary
segments, and that is the number that a listing of hosts ends in.
-/
namespace Fanout

variable {x d : Int32} {ds : List Int32}

/-! ## Putting a number in its place -/

theorem mem_insertContent_iff : x ∈ insertContent d ds ↔ x = d ∨ x ∈ ds := by
  induction ds with
  | nil => simp [insertContent]
  | cons e ds ih =>
      unfold insertContent
      split
      · exact List.mem_cons
      · split
        · rename_i he
          subst he
          simp
        · rw [List.mem_cons, List.mem_cons, ih, or_left_comm]

theorem pairwise_insertContent (h : ds.Pairwise (· < ·)) : (insertContent d ds).Pairwise (· < ·) := by
  induction ds with
  | nil => exact List.pairwise_singleton _ _
  | cons e ds ih =>
      obtain ⟨he, hds⟩ := List.pairwise_cons.mp h
      unfold insertContent
      split
      · rename_i hlt
        apply List.pairwise_cons.mpr
        refine ⟨fun y hy => ?_, h⟩
        rcases List.mem_cons.mp hy with rfl | hy
        · exact hlt
        · exact Int32.lt_trans hlt (he y hy)
      · rename_i hnlt
        split
        · exact h
        · rename_i hne
          have hlt : e < d := Int32.lt_of_le_of_ne (Int32.not_lt.mp hnlt) (Ne.symm hne)
          apply List.pairwise_cons.mpr
          refine ⟨fun y hy => ?_, ih hds⟩
          rcases mem_insertContent_iff.mp hy with rfl | hy
          · exact hlt
          · exact he y hy

theorem mem_foldr_insertContent_iff : x ∈ ds.foldr insertContent [] ↔ x ∈ ds := by
  induction ds with
  | nil => exact Iff.rfl
  | cons d ds ih => rw [List.foldr_cons, mem_insertContent_iff, ih, List.mem_cons]

theorem pairwise_foldr_insertContent (ds : List Int32) :
    (ds.foldr insertContent []).Pairwise (· < ·) := by
  induction ds with
  | nil => exact List.Pairwise.nil
  | cons d ds ih => exact pairwise_insertContent ih

namespace Cluster

variable {c c' : Cluster}

/-- The content ids of primary segments, as they are listed. -/
def primaryContents (c : Cluster) : List Int32 :=
  (c.segments.filter fun s => s.role = .primary).filterMap Host.content

theorem contentIds_eq (c : Cluster) : c.contentIds = c.primaryContents.foldr insertContent [] :=
  rfl

theorem contentIds_pairwise (c : Cluster) : c.contentIds.Pairwise (· < ·) :=
  pairwise_foldr_insertContent c.primaryContents

theorem mem_contentIds_iff : x ∈ c.contentIds ↔
    ∃ s ∈ c.segments, s.role = .primary ∧ s.content = some x := by
  rw [contentIds_eq, mem_foldr_insertContent_iff]
  simp only [primaryContents, List.mem_filterMap, List.mem_filter, decide_eq_true_eq, and_assoc]

/-- Order and repetition of the segments leave no trace. -/
theorem contentIds_eq_of_same (h : ∀ s, s ∈ c.segments ↔ s ∈ c'.segments) :
    c.contentIds = c'.contentIds := by
  apply c.contentIds_pairwise.eq_of_mem_iff c'.contentIds_pairwise
  intro x
  simp only [mem_contentIds_iff, h]

theorem length_contentIds (h : c.primaryContents.Nodup) :
    c.contentIds.length = c.primaryContents.length := by
  have hperm : c.contentIds.Perm c.primaryContents :=
    (List.perm_ext_iff_of_nodup c.contentIds_pairwise.nodup h).mpr fun _ =>
      mem_foldr_insertContent_iff
  exact hperm.length_eq

end Cluster

/-! ## The contents of a file -/

theorem content_segment (s : SegmentEntry) : (s.dataDir.elim
    (Host.segment s.content s.role s.hostname s.port)
    (Host.segment s.content s.role s.hostname s.port).withDataDir).content = some s.content := by
  cases s.dataDir <;> rfl

/-- Where no content is held twice in one role, no two primary segments hold one. -/
theorem WellListed.nodup_primaries {k : Option CoordinatorEntry} {segments : List SegmentEntry}
    (h : WellListed k segments) :
    ((segments.filter fun s => s.role = .primary).map SegmentEntry.content).Nodup := by
  have hnd := h.assignments.sublist ((List.filter_sublist (p := fun s => s.role = .primary)).map _)
  rw [List.Nodup, List.pairwise_map] at hnd ⊢
  apply hnd.imp_of_mem
  intro s t hs ht hne he
  have hs : s.role = .primary := by simpa using (List.mem_filter.mp hs).2
  have ht : t.role = .primary := by simpa using (List.mem_filter.mp ht).2
  exact hne (by rw [he, hs, ht])

namespace Config

variable {c : Config}

theorem primaryContents_cluster (c : Config) : c.cluster.primaryContents =
    (c.segments.filter fun s => s.role = .primary).map SegmentEntry.content := by
  simp only [Cluster.primaryContents, cluster, List.filter_map, List.filterMap_map, Function.comp_def,
    role_segment, content_segment, List.filterMap_eq_map']

theorem length_contentIds_cluster (hv : c.invalid? = none) :
    c.cluster.contentIds.length = c.segments.countP fun s => s.role = .primary := by
  have hnd : c.cluster.primaryContents.Nodup := by
    rw [primaryContents_cluster]
    exact (invalid?_eq_none_iff.mp hv).segments.nodup_primaries
  rw [Cluster.length_contentIds hnd, primaryContents_cluster, List.length_map,
    List.countP_eq_length_filter]

theorem nonneg_of_mem_contentIds (hv : c.invalid? = none) (hx : x ∈ c.cluster.contentIds) : 0 ≤ x := by
  rw [Cluster.contentIds_eq, mem_foldr_insertContent_iff, primaryContents_cluster] at hx
  obtain ⟨s, hs, rfl⟩ := List.mem_map.mp hx
  exact (invalid?_eq_none_iff.mp hv).segments.content s (List.mem_filter.mp hs).1

/-- A listing of hosts as text ends in the number of content ids. -/
theorem listing_ends {scope : Scope} {hosts : HostSet} (hselect : c.cluster.select scope = .ok hosts)
    (hsome : hosts.isEmpty = false) (colors : Bool) :
    ∃ table, listing colors false c scope = .ok (table ++
      Console.pair colors "Segments" (Text.count c.cluster.contentIds.length "content id")) := by
  simp only [listing, hselect, Console.hostTable, hsome, Bool.false_eq_true, if_false]
  exact ⟨_, rfl⟩

/-- Content ids enumerate what the primary segments hold. In a valid file each primary segment adds one,
which is no negative number, and a listing of hosts tells how many primary segments there are. -/
theorem contentIds_enumerate :
    (∀ c : Cluster, c.contentIds.Pairwise (· < ·) ∧
      ∀ x, x ∈ c.contentIds ↔ ∃ s ∈ c.segments, s.role = .primary ∧ s.content = some x) ∧
    (∀ c c' : Cluster, (∀ s, s ∈ c.segments ↔ s ∈ c'.segments) → c.contentIds = c'.contentIds) ∧
    ∀ c : Config, c.invalid? = none →
      let primaries := c.segments.countP fun s => s.role = .primary
      c.cluster.contentIds.length = primaries ∧ (∀ x ∈ c.cluster.contentIds, 0 ≤ x) ∧
      ∀ colors scope hosts, c.cluster.select scope = .ok hosts → hosts.isEmpty = false →
        ∃ table, listing colors false c scope =
          .ok (table ++ Console.pair colors "Segments" (Text.count primaries "content id")) := by
  refine ⟨fun c => ⟨c.contentIds_pairwise, fun x => Cluster.mem_contentIds_iff⟩,
    fun c c' => Cluster.contentIds_eq_of_same, fun c hv => ?_⟩
  have hlength := length_contentIds_cluster hv
  refine ⟨hlength, fun x => nonneg_of_mem_contentIds hv, fun colors scope hosts hselect hsome => ?_⟩
  rw [← hlength]
  exact listing_ends hselect hsome colors

/-- Primary segments out of order, with a mirror of each between them. -/
def shuffled : Config :=
  { coordinator := some ⟨"cdw", some 5432, none⟩
    segments := [⟨7, .primary, "sdw2", 6000, none⟩, ⟨0, .mirror, "sdw2", 7000, none⟩,
      ⟨7, .mirror, "sdw1", 7000, some "/data"⟩, ⟨0, .primary, "sdw1", 6000, some "/data"⟩]
    dispatch := .default
    ssh := .default }

theorem contentIds_enumerate_shuffled : shuffled.invalid? = none ∧
    shuffled.cluster.contentIds = [0, 7] ∧ shuffled.cluster.contentIds.length = 2 ∧
    (∀ x ∈ shuffled.cluster.contentIds, 0 ≤ x) ∧
    { shuffled.cluster with segments := shuffled.cluster.segments ++ shuffled.cluster.segments.reverse
      }.contentIds = [0, 7] ∧
    ∃ table, listing false false shuffled ⟨.segments, false, false⟩ =
      .ok (table ++ "  Segments: 2 content ids\n") := by
  obtain ⟨-, hsame, hvalid⟩ := contentIds_enumerate
  have hv : shuffled.invalid? = none := by decide
  have hids : shuffled.cluster.contentIds = [0, 7] := by decide
  obtain ⟨hlength, hnonneg, hlisting⟩ := hvalid shuffled hv
  refine ⟨hv, hids, hlength, hnonneg, ?_, ?_⟩
  · rw [← hids]
    exact hsame _ _ fun s => by simp
  · have hselect : shuffled.cluster.select ⟨.segments, false, false⟩ =
        .ok ⟨shuffled.cluster.members ⟨.segments, false, false⟩, by decide⟩ :=
      Cluster.select_segments_eq_ok_iff.mpr rfl
    exact hlisting false _ _ hselect rfl

end Config

end Fanout
