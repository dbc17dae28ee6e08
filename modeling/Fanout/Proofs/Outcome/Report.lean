import Fanout.Proofs.Outcome.Diagnostic

/-!
# The report and the diagnostic

The report gives a line to each host that the diagnostic names, in the same order and with the same counts.
Where the diagnostic holds an error over all its lines, the report goes as far as the first one, so that an
error that comes from elsewhere cannot make a line of its own.
-/
namespace Fanout

namespace Outcomes

open Diagnostic

variable {m : Outcomes} {id error : String}

/-- A message of the report and an entry of the diagnostic tell of one failure: both name the host, and the
message goes on with what stands on the entry's first line, without a carriage return at its end. -/
structure Retells (id error : String) (entry : Entry) (message : Log.Level × String) : Prop where
  tells : entry.Tells id error
  heads : ∃ line, entry.head = "  " ++ id ++ ": " ++ line ∧
    message = (.error, id ++ ": " ++ Text.withoutReturn line)

theorem retells_hostEntry (id error : String) :
    Retells id error (hostEntry id error) (.error, id ++ ": " ++ Text.firstLine (Text.trim error)) :=
  ⟨hostEntry_tells id error, _, rfl, by rw [Text.firstLine_trim]⟩

/-! ## The count at the end -/

/-- The count that ends the report. -/
def closing (m : Outcomes) : Log.Level × String :=
  if m.summary.isSuccess then (.info, s!"{m.size} of {m.size} hosts succeeded")
  else (.error, m.diagnosticHead)

theorem succeeded_eq_size (h : m.summary.isSuccess = true) : m.summary.succeeded = m.size := by
  have hnone : m.summary.failures = 0 := by simpa [Summary.isSuccess] using h
  rw [← m.total_summary]
  simp only [Summary.failures, Summary.total] at hnone ⊢
  omega

theorem report_eq (m : Outcomes) : m.report =
    m.failed.map (fun e => (Log.Level.error, e.1 ++ ": " ++ Text.firstLine (Text.trim e.2))) ++
      m.cancelled.map (fun id => (Log.Level.warn, id ++ ": not attempted (dispatch cancelled)")) ++
      [m.closing] := by
  rw [report, closing, diagnosticHead]
  split
  · rename_i h
    rw [succeeded_eq_size h, total_summary]
  · rfl

/-- No message of the report breaks a line, whatever the errors say. -/
theorem newline_not_mem_report (h : ∀ id ∈ m.ids, '\n' ∉ id.toList) :
    ∀ message ∈ m.report, '\n' ∉ message.2.toList := by
  intro message hmessage
  rw [report_eq, List.mem_append, List.mem_append, List.mem_singleton] at hmessage
  rcases hmessage with (hmem | hmem) | rfl
  · obtain ⟨⟨id, error⟩, hfailed, rfl⟩ := List.mem_map.mp hmem
    have hid := h id (m.failed_ids_sublist.subset (List.mem_map_of_mem hfailed))
    simp [hid, Text.newline_not_mem_firstLine error]
  · obtain ⟨id, hcancelled, rfl⟩ := List.mem_map.mp hmem
    have hid := h id (m.cancelled_sublist.subset hcancelled)
    rw [String.toList_append, List.mem_append, not_or]
    exact ⟨hid, by decide⟩
  · rw [closing]
    split
    · exact newline_not_mem_count _ _ (by decide)
    · exact newline_not_mem_count _ _ (by decide)

/-- The report and the diagnostic tell the same story: of each host that failed both tell alike, then come
those that never ran, and the count at the end of the one heads the other. -/
theorem report_retells_diagnostic (m : Outcomes) (hids : ∀ id ∈ m.ids, '\n' ∉ id.toList) :
    m.Dealt ∧ (∀ message ∈ m.report, '\n' ∉ message.2.toList) ∧
    ∃ told last,
      m.report = told.map Prod.snd ++
        m.cancelled.map (fun id => (Log.Level.warn, id ++ ": not attempted (dispatch cancelled)")) ++
        [last] ∧
      List.Forall₂ (fun e t => Retells e.1 e.2 t.1 t.2) m.failed told ∧
      (m.diagnostic? = none → m.failed = [] ∧ m.cancelled = [] ∧
        last = (.info, s!"{m.size} of {m.size} hosts succeeded")) ∧
      ∀ text, m.diagnostic? = some text →
        last = (.error, s!"{m.failed.length + m.cancelled.length} of {m.size} hosts failed") ∧
        Text.splitLines text = last.2 :: (told.map Prod.fst ++ m.neverRan).flatMap Entry.lines := by
  refine ⟨m.dealt, newline_not_mem_report hids,
    m.failed.map fun e => (hostEntry e.1 e.2, .error, e.1 ++ ": " ++ Text.firstLine (Text.trim e.2)),
    m.closing, ?_, ?_, fun hnone => ?_, fun text htext => ?_⟩
  · rw [report_eq, List.map_map]
    rfl
  · rw [List.forall₂_map_right_iff, List.forall₂_same]
    exact fun e _ => retells_hostEntry e.1 e.2
  · have hok := diagnostic?_eq_none_iff.mp hnone
    obtain ⟨hfailed, hcancelled⟩ := isSuccess_iff_nil.mp hok
    exact ⟨hfailed, hcancelled, by rw [closing, if_pos hok]⟩
  · have hfail : m.summary.isSuccess = false := by
      rw [← Bool.not_eq_true, ← diagnostic?_eq_none_iff, htext]
      exact Option.some_ne_none text
    obtain ⟨text', htext', hlines⟩ := exists_diagnostic_lines hfail hids
    obtain rfl : text = text' := Option.some.inj (htext.symm.trans htext')
    have hlast : m.closing =
        (.error, s!"{m.failed.length + m.cancelled.length} of {m.size} hosts failed") := by
      rw [closing, hfail, if_neg Bool.false_ne_true, diagnosticHead, total_summary, Summary.failures,
        summary_eq_lengths]
    refine ⟨hlast, ?_⟩
    rw [hlast, hlines, diagnosticEntries, List.map_map]
    rfl

/-- The error of the first host breaks off with a carriage return before a line that reads like an entry. -/
def brokenOff : Outcomes :=
  ⟨[("sdw1", .failed "\r\nboom\r\n  sdw9: disk full\n"), ("sdw2", .cancelled), ("sdw3", .success "")], by
    unfold Ascending; decide⟩

theorem report_retells_diagnostic_brokenOff : (∀ id ∈ brokenOff.ids, '\n' ∉ id.toList) ∧
    ∃ entry text,
      Retells "sdw1" "\r\nboom\r\n  sdw9: disk full\n" entry (.error, "sdw1: boom") ∧
      brokenOff.report = [(.error, "sdw1: boom"), (.warn, "sdw2: not attempted (dispatch cancelled)"),
        (.error, "2 of 3 hosts failed")] ∧
      brokenOff.diagnostic? = some text ∧
      Text.splitLines text = "2 of 3 hosts failed" :: (entry.lines ++
        ["  not attempted (dispatch cancelled): sdw2"]) := by
  have hids : ∀ id ∈ brokenOff.ids, '\n' ∉ id.toList := by decide
  have hfailed : brokenOff.failed = [("sdw1", "\r\nboom\r\n  sdw9: disk full\n")] := rfl
  have hreport : brokenOff.report = [(.error, "sdw1: boom"),
      (.warn, "sdw2: not attempted (dispatch cancelled)"), (.error, "2 of 3 hosts failed")] := by decide
  obtain ⟨text, htext⟩ : ∃ text, brokenOff.diagnostic? = some text := ⟨_, rfl⟩
  obtain ⟨-, -, told, last, hsame, htold, -, hdiagnostic⟩ := report_retells_diagnostic brokenOff hids
  obtain ⟨rfl, hlines⟩ := hdiagnostic text htext
  rw [hfailed] at htold
  cases htold with
  | cons hfirst hnone =>
      cases hnone
      have hmessage := (List.cons.inj (hreport.symm.trans hsame)).1
      exact ⟨hids, _, text, hmessage ▸ hfirst, hreport, htext, hlines⟩

end Outcomes

end Fanout
