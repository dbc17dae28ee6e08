import Fanout.Proofs.Collector
import Fanout.Proofs.Lookup
import Fanout.Proofs.Text.Utf8
import Mathlib.Data.Finset.Card
import Mathlib.Data.List.Induction
import Mathlib.Data.List.Perm.Subperm

/-!
# The first outcome counts

A collector that is given outcomes one after the other keeps the first one of every host it expects
and nothing else. That its outcomes are complete is seen from two numbers alone, because what it has
stored is part of what it expects, each host once.
-/
namespace Fanout

theorem length_eraseDups (ids : List String) : ids.eraseDups.length = ids.toFinset.card := by
  rw [← List.toFinset_card_of_nodup (nodup_eraseDups ids)]
  refine congrArg Finset.card (Finset.ext fun id => ?_)
  rw [List.mem_toFinset, List.mem_toFinset, List.mem_eraseDups]

namespace Collector

/-! ## A sequence of calls -/

/-- The fault that a call meets, if it meets one. -/
def fault? (c : Collector) (call : String × Outcome) : Option Fault :=
  match c.record call.1 call.2 with
  | .ok _ => none
  | .error f => some f

/-- The collector after a call. One that fails leaves it as it was. -/
def after (c : Collector) (call : String × Outcome) : Collector :=
  match c.record call.1 call.2 with
  | .ok c' => c'
  | .error _ => c

def afterAll (c : Collector) (calls : List (String × Outcome)) : Collector :=
  calls.foldl after c

/-- What a collector for some hosts holds after some calls. -/
structure Holds (ids : List String) (calls : List (String × Outcome)) (c : Collector) : Prop where
  expected : c.expected = ids.eraseDups
  nodup : (c.stored.map Prod.fst).Nodup
  /-- The outcome stored for a host is the first one given for it. -/
  mem_stored : ∀ id o, (id, o) ∈ c.stored ↔ id ∈ ids ∧ calls.lookup id = some o

namespace Holds

variable {ids : List String} {calls : List (String × Outcome)} {c : Collector}
  {call : String × Outcome}

theorem mem_expected (h : Holds ids calls c) {id : String} : id ∈ c.expected ↔ id ∈ ids := by
  rw [h.expected, List.mem_eraseDups]

theorem mem_keys (h : Holds ids calls c) {id : String} :
    id ∈ c.stored.map Prod.fst ↔ id ∈ ids ∧ id ∈ calls.map Prod.fst := by
  rw [List.mem_map, mem_keys_iff]
  constructor
  · rintro ⟨⟨id, o⟩, hmem, rfl⟩
    obtain ⟨hid, ho⟩ := (h.mem_stored id o).mp hmem
    exact ⟨hid, o, ho⟩
  · rintro ⟨hid, o, ho⟩
    exact ⟨(id, o), (h.mem_stored id o).mpr ⟨hid, ho⟩, rfl⟩

/-! ## One call -/

/-- What becomes of a call: the host is not expected, or has an outcome, or gets this one. -/
theorem record_cases (h : Holds ids calls c) (call : String × Outcome) :
    (call.1 ∉ ids ∧ c.record call.1 call.2 = .error (.unknownHost call.1)) ∨
    (call.1 ∈ ids ∧ call.1 ∈ calls.map Prod.fst ∧
      c.record call.1 call.2 = .error (.duplicateRecord call.1)) ∨
    (call.1 ∈ ids ∧ call.1 ∉ calls.map Prod.fst ∧
      c.record call.1 call.2 = .ok { c with stored := c.stored ++ [call] }) := by
  by_cases hexp : call.1 ∈ ids
  · by_cases hold : call.1 ∈ calls.map Prod.fst
    · refine .inr (.inl ⟨hexp, hold, ?_⟩)
      simp only [record, h.mem_expected, h.mem_keys, hexp, hold, not_true_eq_false, and_self,
        if_false, if_true]
    · refine .inr (.inr ⟨hexp, hold, record_eq_ok (h.mem_expected.mpr hexp) ?_⟩)
      exact fun hmem => hold (h.mem_keys.mp hmem).2
  · refine .inl ⟨hexp, ?_⟩
    simp only [record, h.mem_expected, hexp, not_false_eq_true, if_true]

theorem ofIds (ids : List String) : Holds ids [] (Collector.ofIds ids) where
  expected := rfl
  nodup := List.nodup_nil
  mem_stored := by simp [Collector.ofIds]

/-- Every call keeps to the first outcomes. -/
theorem step (h : Holds ids calls c) (call : String × Outcome) :
    Holds ids (calls ++ [call]) (c.after call) := by
  rcases h.record_cases call with ⟨hexp, hr⟩ | ⟨hexp, hold, hr⟩ | ⟨hexp, hold, hr⟩
  · rw [after, hr]
    refine ⟨h.expected, h.nodup, fun id o => ?_⟩
    rw [h.mem_stored, lookup_concat]
    refine and_congr_right fun hid => ?_
    have hne : id ≠ call.1 := fun he => hexp (he ▸ hid)
    rw [if_neg hne, Option.or_none]
  · rw [after, hr]
    refine ⟨h.expected, h.nodup, fun id o => ?_⟩
    obtain ⟨first, hfirst⟩ := mem_keys_iff.mp hold
    rw [h.mem_stored, lookup_concat]
    by_cases he : id = call.1
    · rw [he, hfirst, Option.some_or]
    · rw [if_neg he, Option.or_none]
  · rw [after, hr]
    constructor
    case expected => exact h.expected
    case nodup =>
      rw [List.map_append, List.nodup_append]
      refine ⟨h.nodup, List.nodup_singleton _, ?_⟩
      rintro id hid _ hcall rfl
      obtain rfl := List.mem_singleton.mp hcall
      exact hold (h.mem_keys.mp hid).2
    case mem_stored =>
      intro id o
      have hnone : calls.lookup call.1 = none :=
        Option.eq_none_iff_forall_ne_some.mpr fun o ho => hold (mem_keys_iff.mpr ⟨o, ho⟩)
      rw [List.mem_append, h.mem_stored, List.mem_singleton, lookup_concat]
      by_cases he : id = call.1
      · subst he
        simp [hnone, hexp, Prod.ext_iff, eq_comm]
      · simp [he, Prod.ext_iff]

theorem ofCalls (ids : List String) (calls : List (String × Outcome)) :
    Holds ids calls ((Collector.ofIds ids).afterAll calls) := by
  induction calls using List.reverseRecOn with
  | nil => exact ofIds ids
  | append_singleton calls call ih =>
      rw [afterAll, List.foldl_append]
      exact ih.step call

/-! ## Giving the outcomes out -/

theorem keys_perm (h : Holds ids calls c) :
    (c.stored.map Prod.fst).Perm (c.expected.filter (· ∈ calls.map Prod.fst)) := by
  have hnd : c.expected.Nodup := h.expected ▸ nodup_eraseDups ids
  refine (List.perm_ext_iff_of_nodup h.nodup (hnd.filter _)).mpr fun id => ?_
  rw [h.mem_keys, List.mem_filter, h.mem_expected, decide_eq_true_eq]

/-- There are as many outcomes as hosts expected just if every one of them was called for. -/
theorem complete_iff (h : Holds ids calls c) :
    c.stored.length = c.expected.length ↔ ids ⊆ calls.map Prod.fst := by
  -- What is stored is a part of what is expected, so equally many means all.
  have hlen : c.stored.length = (c.expected.filter (· ∈ calls.map Prod.fst)).length := by
    rw [← h.keys_perm.length_eq, List.length_map]
  rw [hlen, List.length_filter_eq_length_iff]
  simp only [h.mem_expected, decide_eq_true_eq]
  rfl

theorem recorded_eq (h : Holds ids calls c) :
    c.recorded = (ids.toFinset ∩ (calls.map Prod.fst).toFinset).card := by
  have hlen : c.recorded = (c.stored.map Prod.fst).length := (List.length_map _).symm
  rw [hlen, ← List.toFinset_card_of_nodup h.nodup]
  refine congrArg Finset.card (Finset.ext fun id => ?_)
  rw [List.mem_toFinset, h.mem_keys, Finset.mem_inter, List.mem_toFinset, List.mem_toFinset]

theorem length_expected (h : Holds ids calls c) : c.expected.length = ids.toFinset.card := by
  rw [h.expected, length_eraseDups]

theorem snapshot_eq (h : Holds ids calls c) : c.snapshot =
    if ids ⊆ calls.map Prod.fst then .ok (Outcomes.ofList c.stored)
    else .error (.incomplete ids.toFinset.card c.recorded) := by
  by_cases hall : ids ⊆ calls.map Prod.fst
  · rw [snapshot_eq_ok (h.complete_iff.mpr hall), if_pos hall]
  · have hlen : c.stored.length ≠ c.expected.length := mt h.complete_iff.mp hall
    rw [if_neg hall, snapshot, if_pos hlen, h.length_expected]
    rfl

/-- What is stored depends on the first outcomes alone, up to its order. -/
theorem stored_perm {calls' : List (String × Outcome)} {c' : Collector} (h : Holds ids calls c)
    (h' : Holds ids calls' c') (hfirst : ∀ id, calls.lookup id = calls'.lookup id) :
    c.stored.Perm c'.stored := by
  refine (List.perm_ext_iff_of_nodup (.of_map _ h.nodup) (.of_map _ h'.nodup)).mpr ?_
  rintro ⟨id, o⟩
  rw [h.mem_stored, h'.mem_stored, hfirst]

end Holds

/-! ## Exactly once -/

/-- What becomes of a call, given the calls before it. -/
structure Answered (ids : List String) (before : List (String × Outcome)) (c : Collector)
    (call : String × Outcome) : Prop where
  unknown : c.fault? call = some (.unknownHost call.1) ↔ call.1 ∉ ids
  duplicate : c.fault? call = some (.duplicateRecord call.1) ↔
    call.1 ∈ ids ∧ call.1 ∈ before.map Prod.fst
  accepted : c.fault? call = none ↔ call.1 ∈ ids ∧ call.1 ∉ before.map Prod.fst
  refused : c.fault? call ≠ none → c.after call = c
  counted : c.fault? call = none → (c.after call).recorded = c.recorded + 1

theorem Holds.answered {ids : List String} {calls : List (String × Outcome)} {c : Collector}
    (h : Holds ids calls c) (call : String × Outcome) : Answered ids calls c call := by
  rcases h.record_cases call with ⟨hexp, hr⟩ | ⟨hexp, hold, hr⟩ | ⟨hexp, hold, hr⟩
  · constructor <;> simp [fault?, after, hr, hexp]
  · constructor <;> simp [fault?, after, hr, hexp, hold]
  · constructor <;> simp [fault?, after, hr, hexp, hold, recorded]

/-- What a collector gives out after some calls. -/
structure Given (ids : List String) (calls : List (String × Outcome)) (c : Collector) : Prop where
  complete : (∃ m, c.snapshot = .ok m) ↔ ids ⊆ calls.map Prod.fst
  /-- The ids come in the order of their octets. -/
  sorted : ∀ m, c.snapshot = .ok m → (m.ids.map Utf8.encode).Pairwise (· < ·)
  firsts : ∀ m, c.snapshot = .ok m → ∀ id o,
    (id, o) ∈ m.entries ↔ id ∈ ids ∧ calls.lookup id = some o
  incomplete : ¬ ids ⊆ calls.map Prod.fst →
    c.snapshot = .error (.incomplete ids.toFinset.card c.recorded)
  recorded : c.recorded = (ids.toFinset ∩ (calls.map Prod.fst).toFinset).card

theorem Holds.given {ids : List String} {calls : List (String × Outcome)} {c : Collector}
    (h : Holds ids calls c) : Given ids calls c := by
  have hok : ∀ m, c.snapshot = .ok m → m = Outcomes.ofList c.stored := by
    intro m hm
    rw [h.snapshot_eq] at hm
    split at hm <;> cases hm
    rfl
  constructor
  case complete =>
    rw [h.snapshot_eq]
    split <;> simp [*]
  case sorted =>
    intro m hm
    rw [Outcomes.ids, List.map_map, List.pairwise_map]
    exact m.ascending.imp Utf8.encode_lt_iff.mpr
  case firsts =>
    intro m hm id o
    rw [hok m hm, Outcomes.mem_ofList_iff h.nodup, h.mem_stored]
  case incomplete =>
    intro hnot
    rw [h.snapshot_eq, if_neg hnot]
  case recorded => exact h.recorded_eq

/-- Whatever is recorded in whatever order, each call is answered by what was called before it, and
what is given out are the first outcomes of the hosts expected, once each of them has one. Where no
host is called for twice the order of the calls does not matter. -/
theorem exactly_once_first_wins (ids : List String) (calls : List (String × Outcome)) :
    let c := (ofIds ids).afterAll calls
    (∀ call, Answered ids calls c call) ∧ Given ids calls c ∧
    ∀ calls' : List (String × Outcome), calls.Perm calls' → (calls.map Prod.fst).Nodup →
      ((ofIds ids).afterAll calls').snapshot = c.snapshot := by
  intro c
  have h : Holds ids calls c := .ofCalls ids calls
  refine ⟨h.answered, h.given, fun calls' hperm hnd => ?_⟩
  have h' := Holds.ofCalls ids calls'
  have hstored := h.stored_perm h' (lookup_eq_of_perm hperm hnd)
  have hkeys : ids ⊆ calls'.map Prod.fst ↔ ids ⊆ calls.map Prod.fst :=
    ⟨fun hsub id hid => (hperm.map _).mem_iff.mpr (hsub hid),
      fun hsub id hid => (hperm.map _).mem_iff.mp (hsub hid)⟩
  rw [h.snapshot_eq, h'.snapshot_eq, Outcomes.ofList_eq_of_perm hstored h.nodup]
  simp only [hkeys, recorded, hstored.length_eq]

/-- Of two hosts one is listed twice; a third one is called for and not expected. -/
theorem exactly_once_first_wins_retold :
    let ids := ["sdw2", "sdw1", "sdw2"]
    let calls := [("sdw2", Outcome.failed "disk full"), ("sdw9", .cancelled), ("sdw1", .success "")]
    let calls' := [("sdw1", Outcome.success ""), ("sdw2", .failed "disk full"), ("sdw9", .cancelled)]
    calls.Perm calls' ∧ (calls.map Prod.fst).Nodup ∧ ids ⊆ calls.map Prod.fst ∧
    ((ofIds ids).afterAll calls).fault? ("sdw2", .success "") = some (.duplicateRecord "sdw2") ∧
    ((ofIds ids).afterAll calls).after ("sdw2", .success "") = (ofIds ids).afterAll calls ∧
    ((ofIds ids).afterAll calls').snapshot = ((ofIds ids).afterAll calls).snapshot ∧
    ∃ m, ((ofIds ids).afterAll calls).snapshot = .ok m ∧ ("sdw2", .failed "disk full") ∈ m.entries := by
  intro ids calls calls'
  have hperm : calls.Perm calls' := by decide
  have hnd : (calls.map Prod.fst).Nodup := by decide
  have hall : ids ⊆ calls.map Prod.fst := by decide
  obtain ⟨hanswered, hgiven, horder⟩ := exactly_once_first_wins ids calls
  obtain ⟨m, hm⟩ := hgiven.complete.mpr hall
  have hfault := (hanswered ("sdw2", .success "")).duplicate.mpr (by decide)
  refine ⟨hperm, hnd, hall, hfault, (hanswered _).refused ?_, horder calls' hperm hnd, m, hm, ?_⟩
  · rw [hfault]
    exact Option.some_ne_none _
  · exact (hgiven.firsts m hm _ _).mpr (by decide)

end Collector

end Fanout
