import Mathlib.Data.List.Nodup

/-!
# Looking a key up

A lookup finds the first pair of a key. Where no key is twice there is only one, so the order of the
pairs does not matter.
-/
namespace Fanout

variable {α : Type} {pairs pairs' : List (String × α)} {key : String}

theorem mem_keys_iff : key ∈ pairs.map Prod.fst ↔ ∃ a, pairs.lookup key = some a := by
  rw [← Option.isSome_iff_exists, List.lookup_isSome_iff, List.mem_map]
  simp only [beq_iff_eq, @eq_comm _ key]

section

variable {κ : Type} [BEq κ] [LawfulBEq κ] [DecidableEq κ]

theorem lookup_cons (key k : κ) (a : α) (pairs : List (κ × α)) :
    ((k, a) :: pairs).lookup key = if key = k then some a else pairs.lookup key := by
  rw [List.lookup_cons]
  by_cases he : key = k
  · simp [he]
  · simp [he, beq_eq_false_iff_ne.mpr he]

theorem lookup_concat (pairs : List (κ × α)) (last : κ × α) (key : κ) :
    (pairs ++ [last]).lookup key =
      (pairs.lookup key).or (if key = last.1 then some last.2 else none) := by
  rw [List.lookup_append, lookup_cons, List.lookup_nil]

/-- One value in place of all that a key had. -/
theorem lookup_replace (pairs : List (κ × α)) (k : κ) (a : α) (key : κ) :
    (pairs.map fun x => if x.1 == k then (k, a) else x).lookup key =
      if key = k then (pairs.lookup k).map fun _ => a else pairs.lookup key := by
  induction pairs with
  | nil => simp
  | cons pair pairs ih =>
      obtain ⟨k', b⟩ := pair
      rw [List.map_cons]
      by_cases he : k' = k
      · subst he
        rw [if_pos BEq.rfl, lookup_cons, ih, lookup_cons, lookup_cons]
        split <;> simp
      · rw [if_neg (by simpa using he), lookup_cons, ih, lookup_cons, lookup_cons, if_neg (Ne.symm he)]
        by_cases hk : key = k
        · simp [hk, Ne.symm he]
        · simp [hk]

end

theorem lookup_eq_some_iff_mem (hnd : (pairs.map Prod.fst).Nodup) {a : α} :
    pairs.lookup key = some a ↔ (key, a) ∈ pairs := by
  induction pairs with
  | nil => simp
  | cons pair pairs ih =>
      obtain ⟨k, first⟩ := pair
      obtain ⟨hk, hnd⟩ := List.nodup_cons.mp hnd
      by_cases he : key = k
      · subst he
        have hnot : (key, a) ∉ pairs := fun hmem => hk (List.mem_map.mpr ⟨_, hmem, rfl⟩)
        simp [hnot, eq_comm]
      · simp [List.lookup_cons, beq_eq_false_iff_ne.mpr he, he, ih hnd]

theorem lookup_eq_of_perm (hperm : pairs.Perm pairs') (hnd : (pairs.map Prod.fst).Nodup)
    (key : String) : pairs.lookup key = pairs'.lookup key := by
  have hnd' : (pairs'.map Prod.fst).Nodup := (hperm.map _).nodup_iff.mp hnd
  refine Option.ext fun a => ?_
  rw [lookup_eq_some_iff_mem hnd, lookup_eq_some_iff_mem hnd', hperm.mem_iff]

/-! ## Each key once -/

theorem nodup_eraseDups : (ids : List String) → ids.eraseDups.Nodup
  | [] => List.nodup_nil
  | id :: ids => by
      rw [List.eraseDups_cons, List.nodup_cons]
      exact ⟨by simp [List.mem_eraseDups], nodup_eraseDups _⟩
termination_by ids => ids.length
decreasing_by
  exact Nat.lt_succ_of_le (List.length_filter_le _ _)

end Fanout
