import Fanout.Outcome.Map
import Fanout.Proofs.Lookup

/-!
# Outcomes as a finite map

A map of outcomes is determined by the pairs in it. A list of pairs with distinct ids gives the map
of just these pairs, so the order in which they were put in leaves no trace.
-/
namespace Fanout

namespace Outcome

theorem isSuccess_iff {o : Outcome} : o.isSuccess = true ↔ ∃ output, o = .success output := by
  cases o <;> simp [isSuccess]

theorem isCancelled_iff {o : Outcome} : o.isCancelled = true ↔ o = .cancelled := by
  cases o <;> simp [isCancelled]

end Outcome

/-! ## Putting one pair in -/

theorem mem_insertOutcome_self (id : String) (o : Outcome) (es : List (String × Outcome)) :
    (id, o) ∈ insertOutcome id o es := by
  induction es with
  | nil => simp [insertOutcome]
  | cons e es ih =>
      simp only [insertOutcome]
      split
      · exact List.mem_cons_self
      · split
        · exact List.mem_cons_of_mem _ ih
        · exact List.mem_cons_self

theorem mem_insertOutcome_of_ne {id : String} {o : Outcome} {es : List (String × Outcome)}
    {x : String × Outcome} (hx : x ∈ es) (hne : x.1 ≠ id) : x ∈ insertOutcome id o es := by
  induction es with
  | nil => cases hx
  | cons e es ih =>
      simp only [insertOutcome]
      split
      · exact List.mem_cons_of_mem _ hx
      · split
        · rcases List.mem_cons.mp hx with rfl | hx
          · exact List.mem_cons_self
          · exact List.mem_cons_of_mem _ (ih hx)
        · rename_i hnlt hngt
          rcases List.mem_cons.mp hx with rfl | hx
          · exact absurd (String.le_antisymm (String.not_lt.mp hnlt) (String.not_lt.mp hngt)) hne
          · exact List.mem_cons_of_mem _ hx

namespace Outcomes

theorem mem_insert_iff {m : Outcomes} {id : String} {o : Outcome} (hnew : id ∉ m.ids)
    {x : String × Outcome} : x ∈ (m.insert id o).entries ↔ x = (id, o) ∨ x ∈ m.entries := by
  constructor
  · exact mem_insertOutcome
  · rintro (rfl | hx)
    · exact mem_insertOutcome_self _ _ _
    · refine mem_insertOutcome_of_ne hx fun he => hnew ?_
      exact he ▸ List.mem_map_of_mem hx

/-! ## The pairs of a map -/

theorem nodup_ids (m : Outcomes) : m.ids.Nodup := by
  rw [ids, List.Nodup, List.pairwise_map]
  refine m.ascending.imp ?_
  intro a b hlt he
  exact String.lt_irrefl _ (he ▸ hlt)

theorem nodup_entries (m : Outcomes) : m.entries.Nodup :=
  List.Nodup.of_map _ m.nodup_ids

/-- Two maps with the same pairs are one map. -/
theorem eq_of_perm {m m' : Outcomes} (h : m.entries.Perm m'.entries) : m = m' := by
  have he : m.entries = m'.entries := by
    refine List.Perm.eq_of_pairwise ?_ m.ascending m'.ascending h
    intro a b _ _ hab hba
    exact absurd (String.lt_trans hab hba) (String.lt_irrefl _)
  cases m; cases m'; cases he; rfl

theorem get?_eq_some_iff {m : Outcomes} {id : String} {o : Outcome} :
    m.get? id = some o ↔ (id, o) ∈ m.entries :=
  lookup_eq_some_iff_mem m.nodup_ids

theorem mem_ids_iff {m : Outcomes} {id : String} : id ∈ m.ids ↔ ∃ o, m.get? id = some o := by
  simp [ids, get?_eq_some_iff]

theorem mem_failed_iff {m : Outcomes} {id error : String} :
    (id, error) ∈ m.failed ↔ m.get? id = some (.failed error) := by
  rw [get?_eq_some_iff, failed, List.mem_filterMap]
  constructor
  · rintro ⟨⟨k, o⟩, he, ho⟩
    cases o <;> simp only [Outcome.error?, Option.map_some, Option.map_none, reduceCtorEq] at ho
    cases ho
    exact he
  · intro he
    exact ⟨_, he, rfl⟩

theorem failed_ids_sublist (m : Outcomes) : (m.failed.map Prod.fst).Sublist m.ids := by
  rw [failed, ids]
  induction m.entries with
  | nil => exact List.Sublist.slnil
  | cons e es ih =>
      obtain ⟨id, o⟩ := e
      cases o with
      | failed error => exact ih.cons_cons _
      | success output => exact ih.cons _
      | cancelled => exact ih.cons _

theorem nodup_failed_ids (m : Outcomes) : (m.failed.map Prod.fst).Nodup :=
  m.nodup_ids.sublist m.failed_ids_sublist

theorem mem_succeeded_iff {m : Outcomes} {id : String} :
    id ∈ m.succeeded ↔ ∃ output, m.get? id = some (.success output) := by
  simp [succeeded, get?_eq_some_iff, Outcome.isSuccess_iff]

theorem mem_cancelled_iff {m : Outcomes} {id : String} :
    id ∈ m.cancelled ↔ m.get? id = some .cancelled := by
  simp [cancelled, get?_eq_some_iff, Outcome.isCancelled_iff]

theorem cancelled_eq_nil_iff {m : Outcomes} :
    m.cancelled = [] ↔ ∀ id, m.get? id ≠ some .cancelled := by
  simp only [List.eq_nil_iff_forall_not_mem, mem_cancelled_iff, ne_eq]

/-! ## Maps from lists -/

private theorem mem_foldl_insert {pairs : List (String × Outcome)} {m : Outcomes}
    (hnd : (pairs.map Prod.fst).Nodup) (hnew : ∀ p ∈ pairs, p.1 ∉ m.ids)
    {x : String × Outcome} :
    x ∈ (pairs.foldl (fun m e => m.insert e.1 e.2) m).entries ↔ x ∈ m.entries ∨ x ∈ pairs := by
  induction pairs generalizing m with
  | nil => simp
  | cons p ps ih =>
      simp only [List.map_cons, List.nodup_cons] at hnd
      have hp : p.1 ∉ m.ids := hnew p List.mem_cons_self
      have hps : ∀ q ∈ ps, q.1 ∉ (m.insert p.1 p.2).ids := by
        intro q hq hmem
        obtain ⟨y, hy, hyq⟩ := List.mem_map.mp hmem
        rcases (mem_insert_iff hp).mp hy with rfl | hy
        · exact hnd.1 (hyq ▸ List.mem_map_of_mem hq)
        · exact hnew q (List.mem_cons_of_mem _ hq) (hyq ▸ List.mem_map_of_mem hy)
      rw [List.foldl_cons, ih hnd.2 hps, mem_insert_iff hp, List.mem_cons, or_assoc, or_left_comm]

theorem mem_ofList_iff {pairs : List (String × Outcome)} (hnd : (pairs.map Prod.fst).Nodup)
    {x : String × Outcome} : x ∈ (ofList pairs).entries ↔ x ∈ pairs := by
  rw [ofList, mem_foldl_insert hnd (by simp [empty, ids])]
  simp [empty]

/-- A map made from pairs with distinct ids holds these pairs and no others. -/
theorem entries_ofList_perm {pairs : List (String × Outcome)}
    (hnd : (pairs.map Prod.fst).Nodup) : (ofList pairs).entries.Perm pairs :=
  (List.perm_ext_iff_of_nodup (nodup_entries _) (List.Nodup.of_map _ hnd)).mpr
    fun _ => mem_ofList_iff hnd

theorem ids_ofList_perm {pairs : List (String × Outcome)} (hnd : (pairs.map Prod.fst).Nodup) :
    (ofList pairs).ids.Perm (pairs.map Prod.fst) :=
  (entries_ofList_perm hnd).map _

/-- The order in which pairs with distinct ids are put in does not matter. -/
theorem ofList_eq_of_perm {pairs pairs' : List (String × Outcome)} (h : pairs.Perm pairs')
    (hnd : (pairs.map Prod.fst).Nodup) : ofList pairs = ofList pairs' := by
  have hnd' : (pairs'.map Prod.fst).Nodup := (h.map _).nodup_iff.mp hnd
  exact eq_of_perm ((entries_ofList_perm hnd).trans (h.trans (entries_ofList_perm hnd').symm))

/-- A map is that of its own pairs. -/
theorem ofList_entries (m : Outcomes) : ofList m.entries = m :=
  eq_of_perm (entries_ofList_perm m.nodup_ids)

theorem get?_ofList_eq_some_iff {pairs : List (String × Outcome)}
    (hnd : (pairs.map Prod.fst).Nodup) {id : String} {o : Outcome} :
    (ofList pairs).get? id = some o ↔ (id, o) ∈ pairs :=
  get?_eq_some_iff.trans (mem_ofList_iff hnd)

/-! ## Counts -/

private theorem foldl_add (es : List (String × Outcome)) (s : Summary) :
    es.foldl (fun s e => s.add e.2) s =
      ⟨s.succeeded + es.countP (·.2.isSuccess), s.failed + es.countP (·.2.error?.isSome),
        s.cancelled + es.countP (·.2.isCancelled)⟩ := by
  induction es generalizing s with
  | nil => simp
  | cons e es ih =>
      obtain ⟨id, o⟩ := e
      rw [List.foldl_cons, ih]
      cases o <;>
        simp [Summary.add, Outcome.isSuccess, Outcome.error?, Outcome.isCancelled] <;> omega

theorem summary_eq (m : Outcomes) :
    m.summary = ⟨m.entries.countP (·.2.isSuccess), m.entries.countP (·.2.error?.isSome),
      m.entries.countP (·.2.isCancelled)⟩ := by
  simp [summary, foldl_add]

/-- Every outcome is counted once. -/
theorem total_summary (m : Outcomes) : m.summary.total = m.size := by
  have hfold : ∀ (es : List (String × Outcome)) (s : Summary),
      (es.foldl (fun s e => s.add e.2) s).total = s.total + es.length := by
    intro es
    induction es with
    | nil => exact fun _ => rfl
    | cons e es ih =>
      intro s
      have hadd : (s.add e.2).total = s.total + 1 := by
        cases e.2 <;> simp only [Summary.add, Summary.total] <;> omega
      rw [List.foldl_cons, ih, hadd, List.length_cons]
      omega
  exact (hfold m.entries ⟨0, 0, 0⟩).trans (Nat.zero_add _)

/-- No failure of any kind is counted exactly when every outcome is a success. -/
theorem isSuccess_summary_iff {m : Outcomes} :
    m.summary.isSuccess = true ↔ ∀ e ∈ m.entries, e.2.isSuccess = true := by
  rw [summary_eq]
  simp only [Summary.isSuccess, Summary.failures, beq_iff_eq, Nat.add_eq_zero_iff,
    List.countP_eq_zero]
  constructor
  · rintro ⟨hf, hc⟩ ⟨id, o⟩ he
    have hf := hf _ he
    have hc := hc _ he
    cases o <;> simp_all [Outcome.isSuccess, Outcome.error?, Outcome.isCancelled]
  · intro h
    constructor <;> rintro ⟨id, o⟩ he <;> have h := h _ he <;>
      cases o <;> simp_all [Outcome.isSuccess, Outcome.error?, Outcome.isCancelled]

theorem isSuccess_iff_of_perm {m : Outcomes} {ids : List String} (h : m.ids.Perm ids) :
    m.summary.isSuccess = true ↔ ∀ id ∈ ids, ∃ output, m.get? id = some (.success output) := by
  rw [isSuccess_summary_iff]
  constructor
  · intro hall id hid
    obtain ⟨o, ho⟩ := mem_ids_iff.mp (h.mem_iff.mpr hid)
    have hs := hall _ (get?_eq_some_iff.mp ho)
    cases o with
    | success output => exact ⟨output, ho⟩
    | failed error => cases hs
    | cancelled => cases hs
  · rintro hall ⟨id, o⟩ he
    obtain ⟨output, ho⟩ := hall id (h.mem_iff.mp (List.mem_map_of_mem he))
    cases (get?_eq_some_iff.mpr he).symm.trans ho
    rfl

theorem isSuccess_eq_false_iff_of_perm {m : Outcomes} {ids : List String} (h : m.ids.Perm ids) :
    m.summary.isSuccess = false ↔
      ∃ id ∈ ids, m.get? id = some .cancelled ∨ ∃ error, m.get? id = some (.failed error) := by
  rw [← Bool.not_eq_true, isSuccess_iff_of_perm h, not_forall]
  constructor
  · rintro ⟨id, hno⟩
    obtain ⟨hid, hno⟩ := Classical.not_imp.mp hno
    obtain ⟨o, ho⟩ := mem_ids_iff.mp (h.mem_iff.mpr hid)
    refine ⟨id, hid, ?_⟩
    cases o with
    | success output => exact absurd ⟨output, ho⟩ hno
    | failed error => exact Or.inr ⟨error, ho⟩
    | cancelled => exact Or.inl ho
  · rintro ⟨id, hid, hbad⟩
    refine ⟨id, fun hall => ?_⟩
    obtain ⟨output, ho⟩ := hall hid
    rcases hbad with hc | ⟨error, he⟩
    · cases ho.symm.trans hc
    · cases ho.symm.trans he

theorem exists_cancelled_of_status {m : Outcomes} (h : m.status = .cancelled) :
    ∃ id, m.get? id = some .cancelled := by
  have hpos : 0 < m.summary.cancelled := by
    simp only [status] at h
    split at h
    · assumption
    · split at h
      · cases h
      · split at h <;> cases h
  rw [summary_eq] at hpos
  obtain ⟨⟨id, o⟩, he, ho⟩ := List.countP_pos_iff.mp hpos
  obtain rfl := Outcome.isCancelled_iff.mp ho
  exact ⟨id, get?_eq_some_iff.mpr he⟩

end Outcomes

end Fanout
