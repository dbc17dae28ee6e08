import Fanout.Proofs.Host.Codec
import Fanout.Proofs.Outcome.Codec
import Fanout.Proofs.Program.Status

/-!
# What is written as JSON can be read

Everything that the program writes as JSON is read back as it was, in either layout. Nothing else goes
to the standard output of a command that shows its results as JSON, so a program that reads along gets
the hosts that were selected, or the outcomes with the status and the summary that belong to them.
-/
namespace Fanout

open Json (decode decode_prettyLine ReadsBack)
open Json.Decode (member)

namespace Transcript

theorem stdout_append (t u : Transcript) : stdout (t ++ u) = t.stdout ++ u.stdout := by
  simp [stdout]

theorem stdout_output (text : String) : stdout [.output text] = text := by
  simp [stdout]

/-- Records and diagnostics go elsewhere. -/
theorem stdout_eq_empty {t : Transcript} (h : ∀ text, Note.output text ∉ t) : t.stdout = "" := by
  induction t with
  | nil => rfl
  | cons n t ih =>
      have hrest := ih fun text hmem => h text (List.mem_cons_of_mem n hmem)
      cases n with
      | output text => exact absurd List.mem_cons_self (h text)
      | logged r => exact hrest
      | diagnostic text => exact hrest

theorem stdout_ofRecords (log : List Log.Record) : (ofRecords log).stdout = "" := by
  refine stdout_eq_empty fun text h => ?_
  obtain ⟨r, -, hr⟩ := List.mem_map.mp h
  cases hr

end Transcript

/-- While a dispatch goes on, nothing is put out. -/
theorem Display.stdout_eventNotes (d : Display) (journal : List Dispatch.Event) :
    Transcript.stdout (journal.flatMap d.eventNotes) = "" := by
  refine Transcript.stdout_eq_empty fun text h => ?_
  obtain ⟨e, -, he⟩ := List.mem_flatMap.mp h
  cases e with
  | logged r => simp [eventNotes] at he
  | completed host o =>
      simp only [eventNotes] at he
      split at he
      · split at he <;> simp at he
      · cases he
  | _ => cases he

namespace Setting

open Transcript

variable {σ : Type} {s : Setting σ} {inv : Invocation} {j : Job} {scope : Scope} {hosts : HostSet}
  {m : Outcomes} {files : FileTree} {file : Option Log.LogFile}

/-- The hosts of a scope are there to be listed. -/
inductive Lists (s : Setting σ) (inv : Invocation) (scope : Scope) (hosts : HostSet) : Prop where
  | intro {file : Option Log.LogFile} {files : FileTree} {config : Config}
      (hlog : s.openLog inv = .ok (file, files))
      (hload : Config.Loads files s.env inv.config config)
      (hselect : config.cluster.select scope = .ok hosts) : Lists s inv scope hosts

/-- What is put out is what the command itself puts out. -/
theorem stdout_run (hlog : s.openLog inv = .ok (file, files)) :
    (s.run inv).transcript.stdout = stdout (s.perform inv files).2.1 := by
  have hbegin : stdout (file.toList.map fun file => .logged (startNote file)) = "" := by
    refine stdout_eq_empty fun text h => ?_
    obtain ⟨_, -, hr⟩ := List.mem_map.mp h
    cases hr
  simp only [run, hlog, stdout_append, hbegin, String.empty_append]
  cases (s.perform inv files).1 with
  | ok _ => exact String.append_empty
  | error f => exact String.append_empty

/-- A listing as JSON is put out alone. -/
theorem Lists.stdout_eq (hrequest : inv.request = .hosts scope true) (h : Lists s inv scope hosts) :
    (s.run inv).transcript.stdout = (Host.listToJson hosts.hosts).pretty ++ "\n" := by
  obtain ⟨hlog, hload, hselect⟩ := h
  rw [stdout_run hlog]
  simp only [perform, hrequest, listHosts, loadCluster, Config.load_of_loads hload, mapError_ok,
    listing, hselect, ↓reduceIte, stdout_append, stdout_ofRecords, stdout_output,
    String.empty_append]

/-- A report as JSON is put out alone. -/
theorem Dispatches.stdout_eq (hjob : inv.request.job? = some j) (hjson : inv.request.json = true)
    (h : Dispatches s inv j hosts m) :
    (s.run inv).transcript.stdout = m.reportJson.pretty ++ "\n" := by
  obtain ⟨hlog, hload, hselect, -, hm⟩ := h
  rw [stdout_run hlog, perform_eq_runTemplate hjob, runTemplate_of_loads s hload,
    execute_of_dispatch _ hselect hm]
  simp only [stdout_append, stdout_ofRecords, Display.stdout_eventNotes, Display.resultNotes, display,
    hjson, ↓reduceIte, stdout_output, String.empty_append]

theorem Dispatches.size_eq (h : Dispatches s inv j hosts m) : m.size = hosts.size := by
  simpa [Outcomes.ids, Outcomes.size, HostSet.ids, HostSet.size] using h.ids_perm.length_eq

/-- What is put out as JSON about a dispatch, read as the outcomes, the status and the summary. The counts
of a summary are machine words, as the number of hosts is. -/
theorem Dispatches.decode_stdout (hjob : inv.request.job? = some j) (hjson : inv.request.json = true)
    (h : Dispatches s inv j hosts m) (hsize : hosts.size < UInt64.size) :
    decode Outcomes.decoder (s.run inv).transcript.stdout = .ok m ∧
    decode (member "Report" "status" Status.decoder) (s.run inv).transcript.stdout = .ok m.status ∧
    decode (member "Report" "summary" Summary.decoder) (s.run inv).transcript.stdout =
      .ok m.summary := by
  rw [← h.size_eq] at hsize
  have hfits := Outcomes.fits_reportJson hsize
  rw [h.stdout_eq hjob hjson, decode_prettyLine hfits, decode_prettyLine hfits,
    decode_prettyLine hfits]
  exact ⟨m.decoder_reportJson, Outcomes.status_reportJson "Report" m,
    Outcomes.summary_reportJson "Report" hsize⟩

theorem Lists.decode_stdout (hrequest : inv.request = .hosts scope true)
    (h : Lists s inv scope hosts) :
    decode Host.listDecoder (s.run inv).transcript.stdout = .ok hosts.hosts := by
  rw [h.stdout_eq hrequest, decode_prettyLine (Host.inverts_listDecoder.fits hosts.hosts)]
  exact Host.inverts_listDecoder.eq hosts.hosts

/-! ## The round trip -/

/-- Hosts, lists of them, outcomes, maps of outcomes and policies are read back from both layouts. A
listing as JSON is read as the hosts selected, in their order; a report of a dispatch as its outcomes,
whose own status and summary are those that it tells. -/
theorem json_round_trip :
    ReadsBack Host.decoder Host.toJson ∧
    ReadsBack Host.listDecoder Host.listToJson ∧
    ReadsBack Outcome.decoder Outcome.toJson ∧
    ReadsBack Outcomes.decoder Outcomes.toJson ∧
    ReadsBack Policy.decoder Policy.toJson ∧
    (∀ (σ : Type) (s : Setting σ) (inv : Invocation) (scope : Scope) (hosts : HostSet),
      inv.request = .hosts scope true → Lists s inv scope hosts →
        decode Host.listDecoder (s.run inv).transcript.stdout = .ok hosts.hosts) ∧
    ∀ (σ : Type) (s : Setting σ) (inv : Invocation) (j : Job) (hosts : HostSet) (m : Outcomes),
      inv.request.job? = some j → inv.request.json = true → Dispatches s inv j hosts m →
        hosts.size < UInt64.size →
        decode Outcomes.decoder (s.run inv).transcript.stdout = .ok m ∧
        decode (member "Report" "status" Status.decoder) (s.run inv).transcript.stdout =
          .ok m.status ∧
        decode (member "Report" "summary" Summary.decoder) (s.run inv).transcript.stdout =
          .ok m.summary :=
  ⟨Host.inverts_decoder.readsBack, Host.inverts_listDecoder.readsBack,
    Outcome.inverts_decoder.readsBack, Outcomes.inverts_decoder.readsBack,
    Policy.inverts_decoder.readsBack, fun _ _ _ _ _ hrequest h => h.decode_stdout hrequest,
    fun _ _ _ _ _ _ hjob hjson h hsize => h.decode_stdout hjob hjson hsize⟩

/-- A listing of the coordinator as JSON. -/
def listingJson : Invocation :=
  ⟨0, false, some "/c", none, .off, .hosts (pingJob none).scope true⟩

theorem json_round_trip_single :
    decode Host.listDecoder (single.run listingJson).transcript.stdout =
      .ok [Host.coordinator "m"] ∧
    ((pinging none).showing 0 false true).request.job? = some (pingJob none) ∧
    Dispatches single ((pinging none).showing 0 false true) (pingJob none) coordinatorOnly
      silentSuccess ∧
    decode Outcomes.decoder
      (single.run ((pinging none).showing 0 false true)).transcript.stdout = .ok silentSuccess := by
  obtain ⟨-, -, -, -, -, hlisting, hreport⟩ := json_round_trip
  have hlists : Lists single listingJson (pingJob none).scope coordinatorOnly :=
    .intro rfl loads_single rfl
  have hdispatches := dispatches_single 0 false true
  have hsize : coordinatorOnly.size < UInt64.size := by decide
  exact ⟨hlisting Nat single listingJson (pingJob none).scope coordinatorOnly rfl hlists, rfl,
    hdispatches, (hreport Nat single _ _ _ _ rfl rfl hdispatches hsize).1⟩

end Setting

end Fanout
