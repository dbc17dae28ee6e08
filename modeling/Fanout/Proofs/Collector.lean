import Fanout.Collector
import Fanout.Proofs.Outcome.Map

/-!
# What a collector accepts

A record is taken exactly when its host is expected and has none yet. The outcomes are given out once
there are as many as hosts expected, and the order of recording leaves no trace in them.
-/
namespace Fanout

theorem eraseDups_of_nodup {ids : List String} (h : ids.Nodup) : ids.eraseDups = ids := by
  induction ids with
  | nil => rfl
  | cons id ids ih =>
      obtain ⟨hid, hids⟩ := List.nodup_cons.mp h
      have hkeep : ids.filter (fun b => !b == id) = ids := by
        refine List.filter_eq_self.mpr fun b hb => ?_
        have hne : b ≠ id := fun he => hid (he ▸ hb)
        simp [hne]
      rw [List.eraseDups_cons, hkeep, ih hids]

namespace Collector

variable {c c' : Collector} {id : String} {o : Outcome}

theorem expected_ofIds {ids : List String} (h : ids.Nodup) : (ofIds ids).expected = ids :=
  eraseDups_of_nodup h

theorem record_eq_ok (hexp : id ∈ c.expected) (hnew : id ∉ c.stored.map Prod.fst) :
    c.record id o = .ok { c with stored := c.stored ++ [(id, o)] } := by
  simp only [record, hexp, hnew, not_true_eq_false, ↓reduceIte]

/-- What is accepted stands last, and nothing else changes. -/
theorem eq_of_record_eq_ok (h : c.record id o = .ok c') :
    c' = { c with stored := c.stored ++ [(id, o)] } := by
  simp only [record] at h
  split at h
  · cases h
  · split at h <;> cases h
    rfl

theorem snapshot_eq_ok (h : c.stored.length = c.expected.length) :
    c.snapshot = .ok (Outcomes.ofList c.stored) := by
  simp [snapshot, h]

end Collector

end Fanout
