import Fanout.Outcome.Report
import Fanout.Proofs.Outcome.Map
import Mathlib.Data.List.TFAE

/-!
# The views of a result

Hosts that succeeded, that failed and that never ran, the three counts, the status, the diagnostic, the
report and the verdict are each read off the outcomes on their own. They tell the same story: they all
agree on whether the dispatch succeeded, and where it did not the status says how.
-/
namespace Fanout

namespace Outcomes

variable {m : Outcomes} {id error : String}

/-! ## Three views of one result -/

theorem mem_failed_ids_iff :
    id ∈ m.failed.map Prod.fst ↔ ∃ error, m.get? id = some (.failed error) := by
  simp [mem_failed_iff]

theorem ids_pairwise (m : Outcomes) : m.ids.Pairwise (· < ·) :=
  List.pairwise_map.mpr m.ascending

theorem succeeded_pairwise (m : Outcomes) : m.succeeded.Pairwise (· < ·) :=
  m.ids_pairwise.sublist (List.filter_sublist.map _)

theorem cancelled_sublist (m : Outcomes) : m.cancelled.Sublist m.ids :=
  List.filter_sublist.map _

theorem cancelled_pairwise (m : Outcomes) : m.cancelled.Pairwise (· < ·) :=
  m.ids_pairwise.sublist m.cancelled_sublist

theorem failed_pairwise (m : Outcomes) : (m.failed.map Prod.fst).Pairwise (· < ·) :=
  m.ids_pairwise.sublist m.failed_ids_sublist

theorem summary_eq_lengths (m : Outcomes) :
    m.summary = ⟨m.succeeded.length, m.failed.length, m.cancelled.length⟩ := by
  simp [summary_eq, succeeded, failed, cancelled, List.countP_eq_length_filter,
    List.length_filterMap_eq_countP]

/-- The views deal the ids out among them, in order, and the counts are those of the views. -/
structure Dealt (m : Outcomes) : Prop where
  succeeded : ∀ id, id ∈ m.succeeded ↔ ∃ output, m.get? id = some (.success output)
  failed : ∀ id error, (id, error) ∈ m.failed ↔ m.get? id = some (.failed error)
  cancelled : ∀ id, id ∈ m.cancelled ↔ m.get? id = some .cancelled
  /-- No id is in two views. -/
  once : ∀ id ∈ m.ids,
    (id ∈ m.succeeded ∧ id ∉ m.failed.map Prod.fst ∧ id ∉ m.cancelled) ∨
    (id ∉ m.succeeded ∧ id ∈ m.failed.map Prod.fst ∧ id ∉ m.cancelled) ∨
    (id ∉ m.succeeded ∧ id ∉ m.failed.map Prod.fst ∧ id ∈ m.cancelled)
  ascending : m.succeeded.Pairwise (· < ·) ∧ (m.failed.map Prod.fst).Pairwise (· < ·) ∧
    m.cancelled.Pairwise (· < ·)
  counts : m.summary = ⟨m.succeeded.length, m.failed.length, m.cancelled.length⟩
  total : m.summary.total = m.size

theorem dealt (m : Outcomes) : Dealt m where
  succeeded _ := mem_succeeded_iff
  failed _ _ := mem_failed_iff
  cancelled _ := mem_cancelled_iff
  once id hid := by
    obtain ⟨o, ho⟩ := mem_ids_iff.mp hid
    rw [mem_succeeded_iff, mem_failed_ids_iff, mem_cancelled_iff, ho]
    cases o <;> simp
  ascending := ⟨m.succeeded_pairwise, m.failed_pairwise, m.cancelled_pairwise⟩
  counts := m.summary_eq_lengths
  total := m.total_summary

theorem succeeded_eq_nil_iff :
    m.succeeded = [] ↔ ∀ id output, m.get? id ≠ some (.success output) := by
  simp [List.eq_nil_iff_forall_not_mem, mem_succeeded_iff]

theorem failed_eq_nil_iff : m.failed = [] ↔ ∀ id error, m.get? id ≠ some (.failed error) := by
  simp [List.eq_nil_iff_forall_not_mem, mem_failed_iff]

theorem all_failed_iff : (∀ id o, m.get? id = some o → ∃ error, o = .failed error) ↔
    m.succeeded = [] ∧ m.cancelled = [] := by
  rw [succeeded_eq_nil_iff, cancelled_eq_nil_iff]
  constructor
  · intro h
    constructor
    · intro id output ho
      obtain ⟨error, he⟩ := h id _ ho
      cases he
    · intro id ho
      obtain ⟨error, he⟩ := h id _ ho
      cases he
  · rintro ⟨hs, hc⟩ id o ho
    cases o with
    | success output => exact absurd ho (hs id output)
    | failed error => exact ⟨error, rfl⟩
    | cancelled => exact absurd ho (hc id)

/-! ## The status -/

theorem isSuccess_iff_nil : m.summary.isSuccess = true ↔ m.failed = [] ∧ m.cancelled = [] := by
  simp only [Summary.isSuccess, Summary.failures, summary_eq_lengths, beq_iff_eq,
    Nat.add_eq_zero_iff, List.length_eq_zero_iff]

theorem isSuccess_iff_forall :
    m.summary.isSuccess = true ↔ ∀ id o, m.get? id = some o → o.isSuccess = true := by
  simp only [isSuccess_summary_iff, Prod.forall, get?_eq_some_iff]

theorem status_eq (m : Outcomes) : m.status =
    if m.cancelled ≠ [] then .cancelled
    else if m.failed = [] then .allSucceeded
    else if m.succeeded = [] then .totalFailure
    else .partialFailure := by
  simp only [status, summary_eq_lengths, gt_iff_lt, List.length_pos_iff, List.length_eq_zero_iff]

theorem status_eq_allSucceeded_iff : m.status = .allSucceeded ↔ m.summary.isSuccess = true := by
  rw [status_eq, isSuccess_iff_nil]
  split_ifs <;> simp_all

theorem status_eq_cancelled_iff : m.status = .cancelled ↔ ∃ id, m.get? id = some .cancelled := by
  have hsome : m.cancelled ≠ [] ↔ ∃ id, m.get? id = some .cancelled := by
    simp [cancelled_eq_nil_iff]
  rw [status_eq, ← hsome]
  split_ifs <;> simp_all

/-- Where the dispatch did not succeed. -/
theorem status_eq_totalFailure_iff (h : m.summary.isSuccess = false) : m.status = .totalFailure ↔
    ∀ id o, m.get? id = some o → ∃ error, o = .failed error := by
  rw [← Bool.not_eq_true, isSuccess_iff_nil] at h
  rw [all_failed_iff, status_eq]
  split_ifs <;> simp_all

theorem status_eq_partialFailure_iff : m.status = .partialFailure ↔
    (∀ id, m.get? id ≠ some .cancelled) ∧ (∃ id error, m.get? id = some (.failed error)) ∧
      ∃ id output, m.get? id = some (.success output) := by
  have hfailed : m.failed ≠ [] ↔ ∃ id error, m.get? id = some (.failed error) := by
    simp [failed_eq_nil_iff]
  have hsucceeded : m.succeeded ≠ [] ↔ ∃ id output, m.get? id = some (.success output) := by
    simp [succeeded_eq_nil_iff]
  rw [← cancelled_eq_nil_iff, ← hfailed, ← hsucceeded, status_eq]
  split_ifs <;> simp_all

theorem status_ended (m : Outcomes) : m.status ≠ .pending ∧ m.status ≠ .running := by
  rw [status_eq]
  split_ifs <;> simp

/-! ## The diagnostic, the report and the verdict -/

theorem diagnostic?_eq_none_iff : m.diagnostic? = none ↔ m.summary.isSuccess = true := by
  cases h : m.summary.isSuccess <;> simp [diagnostic?, h]

theorem report_ends_iff :
    (∃ text, m.report.getLast? = some (.info, text)) ↔ m.summary.isSuccess = true := by
  cases h : m.summary.isSuccess <;> simp [report, h]

end Outcomes

namespace Verdict

variable (m : Outcomes) (code : UInt32)

theorem error_eq_none_iff :
    (ofOutcomes m code).error = none ↔ m.summary.isSuccess = true := by
  rw [← Outcomes.diagnostic?_eq_none_iff]
  exact Option.map_eq_none_iff

theorem ok_iff : (ofOutcomes m code).ok = true ↔ m.summary.isSuccess = true := by
  rw [← error_eq_none_iff m code]
  exact Option.isNone_iff_eq_none

theorem result_eq_ok_iff :
    (ofOutcomes m code).result = .ok () ↔ m.summary.isSuccess = true := by
  rw [← error_eq_none_iff m code, result]
  cases (ofOutcomes m code).error <;> simp

/-- The views of a result agree on whether the dispatch succeeded. Where it did not, the status says how,
and the verdict's error is the diagnostic under the code given. -/
theorem views_agree (m : Outcomes) (code : UInt32) :
    m.Dealt ∧
    List.TFAE [(ofOutcomes m code).ok = true, (ofOutcomes m code).error = none,
      (ofOutcomes m code).result = .ok (), m.diagnostic? = none, m.summary.isSuccess = true,
      ∃ text, m.report.getLast? = some (.info, text),
      (ofOutcomes m code).status = .allSucceeded,
      ∀ id o, m.get? id = some o → o.isSuccess = true] ∧
    ((ofOutcomes m code).ok = false →
      ((ofOutcomes m code).status = .cancelled ↔ ∃ id, m.get? id = some .cancelled) ∧
      ((ofOutcomes m code).status = .totalFailure ↔
        ∀ id o, m.get? id = some o → ∃ error, o = .failed error) ∧
      ((ofOutcomes m code).status = .partialFailure ↔
        (∀ id, m.get? id ≠ some .cancelled) ∧ (∃ id error, m.get? id = some (.failed error)) ∧
          ∃ id output, m.get? id = some (.success output)) ∧
      ∃ text, m.diagnostic? = some text ∧
        (ofOutcomes m code).error = some (.coded code (.message text)) ∧
        (ofOutcomes m code).result = .error (.coded code (.message text))) ∧
    (ofOutcomes m code).status ≠ .pending ∧ (ofOutcomes m code).status ≠ .running := by
  refine ⟨m.dealt, ?_, fun hbad => ⟨m.status_eq_cancelled_iff, ?_, m.status_eq_partialFailure_iff, ?_⟩,
    m.status_ended⟩
  · refine List.tfae_of_forall (m.summary.isSuccess = true) _ ?_
    simp only [List.forall_mem_cons, List.not_mem_nil, false_implies, implies_true, and_true, iff_self,
      true_and]
    exact ⟨ok_iff m code, error_eq_none_iff m code, result_eq_ok_iff m code,
      Outcomes.diagnostic?_eq_none_iff, Outcomes.report_ends_iff,
      Outcomes.status_eq_allSucceeded_iff, Outcomes.isSuccess_iff_forall.symm⟩
  · rw [← Bool.not_eq_true, ok_iff, Bool.not_eq_true] at hbad
    exact Outcomes.status_eq_totalFailure_iff hbad
  · rw [← Bool.not_eq_true, ok_iff, ← Outcomes.diagnostic?_eq_none_iff] at hbad
    obtain ⟨text, htext⟩ := Option.ne_none_iff_exists'.mp hbad
    have herror : (ofOutcomes m code).error = some (.coded code (.message text)) := by
      simp only [ofOutcomes, htext, Option.map_some]
    exact ⟨text, htext, herror, by simp only [result, herror]⟩

/-- A host that failed, one that never ran and one that succeeded. -/
def cutShort : Outcomes :=
  ⟨[("sdw1", .failed "disk full"), ("sdw2", .cancelled), ("sdw3", .success "")], by
    unfold Ascending; decide⟩

theorem views_agree_cutShort : (ofOutcomes cutShort 2).ok = false ∧
    cutShort.get? "sdw2" = some .cancelled ∧ (ofOutcomes cutShort 2).status = .cancelled ∧
    (ofOutcomes cutShort 2).error = some (.coded 2 (.message
      "2 of 3 hosts failed\n  sdw1: disk full\n  not attempted (dispatch cancelled): sdw2")) := by
  have hbad : (ofOutcomes cutShort 2).ok = false := by decide
  have hnever : cutShort.get? "sdw2" = some .cancelled := by decide
  have hdiagnostic : cutShort.diagnostic? = some
      "2 of 3 hosts failed\n  sdw1: disk full\n  not attempted (dispatch cancelled): sdw2" := by decide
  obtain ⟨hcancelled, -, -, text, htext, herror, -⟩ := (views_agree cutShort 2).2.2.1 hbad
  cases htext.symm.trans hdiagnostic
  exact ⟨hbad, hnever, hcancelled.mpr ⟨_, hnever⟩, herror⟩

end Verdict

end Fanout
