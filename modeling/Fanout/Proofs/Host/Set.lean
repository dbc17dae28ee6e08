import Fanout.Host.Set
import Mathlib.Data.List.Nodup

/-!
# When hosts form a set

A list of hosts forms a set exactly when no id is in it twice. The set is the list as it is, and a host
is found in it by its id. Otherwise the refusal names the first id that repeats one before it.
-/
namespace Fanout

/-! ## The scan for a repeated id -/

variable {seen : List String} {hosts xs : List Host} {x h : Host}

/-- No host has an id that was seen or that another of them has. -/
def Fresh (seen : List String) (hosts : List Host) : Prop :=
  (hosts.map Host.id).Nodup ∧ ∀ x ∈ hosts, x.id ∉ seen

theorem fresh_nil : Fresh seen [] :=
  ⟨List.nodup_nil, List.forall_mem_nil _⟩

theorem fresh_cons : Fresh seen (x :: xs) ↔ x.id ∉ seen ∧ Fresh (x.id :: seen) xs := by
  simp only [Fresh, List.map_cons, List.nodup_cons, List.mem_cons, forall_eq_or_imp, not_or,
    imp_and, forall_and, List.mem_map, not_exists, not_and]
  tauto

theorem firstRepeated_eq_none_iff : firstRepeated seen hosts = none ↔ Fresh seen hosts := by
  refine ⟨nodup_of_firstRepeated_eq_none, fun hfresh => ?_⟩
  induction hosts generalizing seen with
  | nil => rfl
  | cons x xs ih =>
      obtain ⟨hx, hxs⟩ := fresh_cons.mp hfresh
      rw [firstRepeated, if_neg hx, ih hxs]

/-- A host has an id that was seen or that a host before it has, and none before it does so. -/
def FirstRepeat (seen : List String) (hosts : List Host) (h : Host) : Prop :=
  ∃ earlier later, hosts = earlier ++ h :: later ∧ Fresh seen earlier ∧
    (h.id ∈ seen ∨ h.id ∈ earlier.map Host.id)

theorem firstRepeat_cons : FirstRepeat seen (x :: xs) h ↔
    (x = h ∧ x.id ∈ seen) ∨ (x.id ∉ seen ∧ FirstRepeat (x.id :: seen) xs h) := by
  constructor
  · rintro ⟨earlier, later, he, hfresh, hrep⟩
    rcases List.cons_eq_append_iff.mp he with ⟨rfl, hx⟩ | ⟨earlier, rfl, rfl⟩
    · obtain ⟨rfl, -⟩ := List.cons.inj hx
      exact .inl ⟨rfl, by simpa using hrep⟩
    · obtain ⟨hx, hfresh⟩ := fresh_cons.mp hfresh
      -- for the tail, the head is one of the ids seen
      rw [List.map_cons, List.mem_cons, or_left_comm, ← or_assoc, ← List.mem_cons] at hrep
      exact .inr ⟨hx, earlier, later, rfl, hfresh, hrep⟩
  · rintro (⟨rfl, hx⟩ | ⟨hx, earlier, later, rfl, hfresh, hrep⟩)
    · exact ⟨[], xs, rfl, fresh_nil, .inl hx⟩
    · rw [List.mem_cons, or_assoc, or_left_comm, ← List.mem_cons, ← List.map_cons] at hrep
      exact ⟨x :: earlier, later, rfl, fresh_cons.mpr ⟨hx, hfresh⟩, hrep⟩

/-- The scan stops at the first repeat. -/
theorem firstRepeated_eq_some_iff {id : String} :
    firstRepeated seen hosts = some id ↔ ∃ h, FirstRepeat seen hosts h ∧ h.id = id := by
  induction hosts generalizing seen with
  | nil => simp [firstRepeated, FirstRepeat]
  | cons x xs ih =>
      simp only [firstRepeated, firstRepeat_cons]
      by_cases hx : x.id ∈ seen
      · simp [hx]
      · simpa [hx] using ih

namespace HostSet

/-! ## Building a set -/

/-- Building a set follows the scan. -/
theorem ofList_cases (hosts : List Host) :
    (∃ id, firstRepeated [] hosts = some id ∧ ofList hosts = .error (.duplicateHost id)) ∨
    ∃ hnd, firstRepeated [] hosts = none ∧ ofList hosts = .ok ⟨hosts, hnd⟩ := by
  simp only [ofList]
  split
  case h_1 id hid => exact .inl ⟨id, hid, rfl⟩
  case h_2 hnone => exact .inr ⟨(nodup_of_firstRepeated_eq_none hnone).1, hnone, rfl⟩

theorem ofList_eq_ok (h : (hosts.map Host.id).Nodup) : ofList hosts = .ok ⟨hosts, h⟩ := by
  have hnone : firstRepeated [] hosts = none :=
    firstRepeated_eq_none_iff.mpr ⟨h, fun _ _ => List.not_mem_nil⟩
  rcases ofList_cases hosts with ⟨id, hid, -⟩ | ⟨_, -, hok⟩
  · cases hnone.symm.trans hid
  · exact hok

theorem ofList_eq_ok_iff {set : HostSet} : ofList hosts = .ok set ↔ set.hosts = hosts := by
  constructor
  · intro h
    rcases ofList_cases hosts with ⟨id, -, herror⟩ | ⟨hnd, -, hok⟩
    · cases herror.symm.trans h
    · obtain rfl := Except.ok.inj (hok.symm.trans h)
      rfl
  · rintro rfl
    exact ofList_eq_ok set.nodup

theorem ofList_eq_error_iff {fault : Fault} : ofList hosts = .error fault ↔
    ∃ h, FirstRepeat [] hosts h ∧ fault = .duplicateHost h.id := by
  rcases ofList_cases hosts with ⟨id, hid, herror⟩ | ⟨hnd, hnone, hok⟩
  · obtain ⟨h, hh, rfl⟩ := firstRepeated_eq_some_iff.mp hid
    rw [herror]
    constructor
    · rintro ⟨⟩
      exact ⟨h, hh, rfl⟩
    · rintro ⟨x, hx, rfl⟩
      have hsame := hid.symm.trans (firstRepeated_eq_some_iff.mpr ⟨x, hx, rfl⟩)
      rw [Option.some.inj hsame]
  · rw [hok]
    constructor
    · intro h
      cases h
    · rintro ⟨x, hx, -⟩
      cases hnone.symm.trans (firstRepeated_eq_some_iff.mpr ⟨x, hx, rfl⟩)

/-- A host put before others that have distinct ids is the one whose id repeats, if any does. -/
theorem ofList_cons_eq_error {h : Host} {hs : List Host} (hnd : (hs.map Host.id).Nodup)
    (hmem : h.id ∈ hs.map Host.id) : ofList (h :: hs) = .error (.duplicateHost h.id) := by
  obtain ⟨x, hx, hid⟩ := List.mem_map.mp hmem
  obtain ⟨earlier, later, rfl⟩ := List.append_of_mem hx
  rw [List.map_append, List.map_cons, List.nodup_middle, List.nodup_cons, List.mem_append] at hnd
  have hnew : h.id ∉ earlier.map Host.id := fun hin => hnd.1 (.inl (hid ▸ hin))
  have hearlier : ((h :: earlier).map Host.id).Nodup :=
    List.nodup_cons.mpr ⟨hnew, hnd.2.sublist (List.sublist_append_left _ _)⟩
  have hrep : x.id ∈ (h :: earlier).map Host.id := hid ▸ List.mem_cons_self
  exact ofList_eq_error_iff.mpr ⟨x, ⟨h :: earlier, later, rfl,
    ⟨hearlier, fun _ _ => List.not_mem_nil⟩, .inr hrep⟩, hid ▸ rfl⟩

theorem exists_ofList_eq_error (h : ¬ (hosts.map Host.id).Nodup) :
    ∃ id, ofList hosts = .error (.duplicateHost id) := by
  rcases ofList_cases hosts with ⟨id, -, herror⟩ | ⟨hnd, -, -⟩
  · exact ⟨id, herror⟩
  · exact absurd hnd h

theorem exists_ofList_eq_ok_iff :
    (∃ set, ofList hosts = .ok set) ↔ hosts.Pairwise fun x y => x.id ≠ y.id := by
  rw [← List.pairwise_map (f := Host.id) (R := (· ≠ ·))]
  constructor
  · rintro ⟨set, hset⟩
    rw [← ofList_eq_ok_iff.mp hset]
    exact set.nodup
  · intro hnd
    exact ⟨_, ofList_eq_ok hnd⟩

/-! ## Finding a host -/

/-- Two hosts of a set with one id are the same. -/
theorem eq_of_id_eq (set : HostSet) {x y : Host} (hx : x ∈ set.hosts) (hy : y ∈ set.hosts)
    (hid : x.id = y.id) : x = y :=
  List.inj_on_of_nodup_map set.nodup hx hy hid

theorem get?_eq_none_iff {set : HostSet} {id : String} : set.get? id = none ↔ id ∉ set.ids := by
  simp [get?, ids, List.find?_eq_none]

theorem get?_eq_some_iff {set : HostSet} {id : String} {h : Host} :
    set.get? id = some h ↔ h ∈ set.hosts ∧ h.id = id := by
  constructor
  · intro hget
    exact ⟨List.mem_of_find?_eq_some hget, by simpa using List.find?_some hget⟩
  · rintro ⟨hmem, rfl⟩
    cases hget : set.get? h.id with
    | none => exact absurd (List.mem_map_of_mem hmem) (get?_eq_none_iff.mp hget)
    | some x =>
        have hid : x.id = h.id := by simpa using List.find?_some hget
        rw [set.eq_of_id_eq (List.mem_of_find?_eq_some hget) hmem hid]

/-! ## What a list of hosts comes to -/

/-- Hosts form a set just if their ids are pairwise distinct. The set holds them as they were given, and
finds for an id the one host that has it. Otherwise the refusal names the id of the first host that has
that of a host before it. -/
theorem formed_or_first_repeat (hosts : List Host) :
    ((∃ set, ofList hosts = .ok set) ↔ hosts.Pairwise fun x y => x.id ≠ y.id) ∧
    (∀ set, ofList hosts = .ok set → set.hosts = hosts ∧
      (∀ id h, set.get? id = some h ↔ h ∈ hosts ∧ h.id = id) ∧
      ∀ id, set.get? id = none ↔ ∀ h ∈ hosts, h.id ≠ id) ∧
    ∀ fault, ofList hosts = .error fault ↔ ∃ earlier h later, hosts = earlier ++ h :: later ∧
      (earlier.Pairwise fun x y => x.id ≠ y.id) ∧ (∃ x ∈ earlier, x.id = h.id) ∧
      fault = .duplicateHost h.id := by
  refine ⟨exists_ofList_eq_ok_iff, fun set hset => ?_, fun fault => ?_⟩
  · obtain rfl := ofList_eq_ok_iff.mp hset
    refine ⟨rfl, fun id h => get?_eq_some_iff, fun id => ?_⟩
    simp [get?_eq_none_iff, ids]
  · rw [ofList_eq_error_iff]
    constructor
    · rintro ⟨h, ⟨earlier, later, he, ⟨hnd, -⟩, hrep⟩, rfl⟩
      have hrep : h.id ∈ earlier.map Host.id := hrep.resolve_left List.not_mem_nil
      exact ⟨earlier, h, later, he, List.pairwise_map.mp hnd, List.mem_map.mp hrep, rfl⟩
    · rintro ⟨earlier, h, later, he, hnd, hrep, rfl⟩
      have hfresh : Fresh [] earlier := ⟨List.pairwise_map.mpr hnd, fun _ _ => List.not_mem_nil⟩
      exact ⟨h, ⟨earlier, later, he, hfresh, .inr (List.mem_map.mpr hrep)⟩, rfl⟩

/-- Of two ids that repeat, the one whose second host comes first is named, not the one that was listed
first; segments on one machine are told apart by their ports. -/
theorem formed_or_first_repeat_machines :
    let crowd := ["sdw1", "sdw2", "sdw2", "sdw1"].map Host.ofHostname
    let pair := [Host.segment 0 .primary "sdw1" 6000, Host.segment 1 .primary "sdw1" 6001]
    ofList crowd = .error (.duplicateHost "sdw2") ∧
    ∃ set, ofList pair = .ok set ∧ set.hosts = pair ∧
      set.get? "sdw1:6001" = some (Host.segment 1 .primary "sdw1" 6001) ∧
      set.get? "sdw1" = none := by
  intro crowd pair
  obtain ⟨-, -, hrefused⟩ := formed_or_first_repeat crowd
  obtain ⟨hformed, hfound, -⟩ := formed_or_first_repeat pair
  obtain ⟨set, hset⟩ := hformed.mpr (by decide)
  obtain ⟨hhosts, hsome, hnone⟩ := hfound set hset
  have hcrowd : ofList crowd = .error (.duplicateHost "sdw2") :=
    (hrefused _).mpr ⟨crowd.take 2, Host.ofHostname "sdw2", [Host.ofHostname "sdw1"], rfl,
      by decide, ⟨Host.ofHostname "sdw2", by decide, rfl⟩, rfl⟩
  exact ⟨hcrowd, set, hset, hhosts, (hsome _ _).mpr (by decide), (hnone _).mpr (by decide)⟩

end HostSet

end Fanout
