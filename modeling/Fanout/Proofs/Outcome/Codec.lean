import Fanout.Outcome.Codec
import Fanout.Proofs.Json.Record
import Fanout.Proofs.Outcome.Map

/-!
# Outcomes are read back

An outcome is read back at every depth, so a map of outcomes is, and with it everything that is told
of a dispatch. A policy is read back too, and a summary as far as its counts are machine words.
-/
namespace Fanout

open Json Json.Decode

namespace Outcome

theorem inverts_decoderAt (depth : Nat) : Inverts (decoderAt depth) toJson := by
  constructor
  case fits =>
    intro o
    cases o <;> simp [toJson, Fits, FitsMembers]
  case eq =>
    intro o
    cases o <;> rfl

theorem inverts_decoder : Inverts decoder toJson := inverts_decoderAt maxDepth

end Outcome

theorem Status.inverts_decoder : Inverts decoder toJson := by
  constructor
  case fits => exact fun _ => trivial
  case eq =>
    intro s
    cases s <;> rfl

/-- A machine word is kept by a text. -/
theorem fits_natCast {n : Nat} (h : n < UInt64.size) : (Json.int n).Fits :=
  ⟨by omega, by omega⟩

namespace Policy

theorem record_toJson (p : Policy) : record "Policy" fields (toTree p.toJson) =
    .ok [("continue_on_error", .bool p.continueOnError),
      ("max_concurrency", toTree (.int p.maxConcurrency.toNat))] := by
  have hsize := size_int p.maxConcurrency.toNat_lt_size
  refine record_obj "Policy" (by simp) ?_
  simp only [List.forall_mem_cons]
  refine ⟨?_, ?_, List.forall_mem_nil _⟩
  · rintro f ⟨⟩; exact check_field (inverts_bool.eq p.continueOnError)
  · rintro f ⟨⟩; exact check_field hsize

theorem inverts_decoder : Inverts decoder toJson := by
  constructor
  case fits => exact fun p => ⟨trivial, fits_natCast p.maxConcurrency.toNat_lt_size, trivial⟩
  case eq =>
    intro p
    have hsize := size_int p.maxConcurrency.toNat_lt_size
    simp [decoder, record_toJson, required, Decode.bool, List.lookup_cons, bind, Except.bind, pure,
      Except.pure, hsize]

end Policy

namespace Summary

variable {s : Summary}

theorem record_toJson (h : s.total < UInt64.size) :
    record "DispatchSummary" fields (toTree s.toJson) =
      .ok [("succeeded", toTree (.int s.succeeded)), ("failed", toTree (.int s.failed)),
        ("cancelled", toTree (.int s.cancelled))] := by
  unfold total at h
  refine record_obj "DispatchSummary" (by simp) ?_
  simp only [List.forall_mem_cons]
  refine ⟨?_, ?_, ?_, List.forall_mem_nil _⟩
  · rintro f ⟨⟩; exact check_field (size_int (by omega))
  · rintro f ⟨⟩; exact check_field (size_int (by omega))
  · rintro f ⟨⟩; exact check_field (size_int (by omega))

theorem fits_toJson (h : s.total < UInt64.size) : s.toJson.Fits := by
  unfold total at h
  exact ⟨fits_natCast (by omega), fits_natCast (by omega), fits_natCast (by omega), trivial⟩

theorem decoder_toJson (h : s.total < UInt64.size) : decoder (toTree s.toJson) = .ok s := by
  have hrecord := record_toJson h
  unfold total at h
  have hsucceeded : size (toTree (.int s.succeeded)) = .ok s.succeeded := size_int (by omega)
  have hfailed : size (toTree (.int s.failed)) = .ok s.failed := size_int (by omega)
  have hcancelled : size (toTree (.int s.cancelled)) = .ok s.cancelled := size_int (by omega)
  simp [decoder, hrecord, required, List.lookup_cons, bind, Except.bind, pure, Except.pure,
    hsucceeded, hfailed, hcancelled]

end Summary

namespace Outcomes

theorem inverts_mapDecoder : Inverts mapDecoder mapJson := by
  have hmap := inverts_map (Outcome.inverts_decoderAt (Outcome.maxDepth - 2))
  constructor
  case fits => exact fun m => hmap.fits m.entries
  case eq =>
    intro m
    rw [mapDecoder, mapJson, hmap.eq m.entries]
    exact congrArg Except.ok m.ofList_entries

theorem inverts_decoder : Inverts decoder toJson := by
  constructor
  case fits => exact fun m => ⟨inverts_mapDecoder.fits m, trivial⟩
  case eq =>
    intro m
    exact member_obj "DispatchResult" (by simp) List.mem_cons_self (inverts_mapDecoder.eq m)

/-! ## What is told of a dispatch -/

variable {m : Outcomes}

theorem fits_reportJson (h : m.size < UInt64.size) : m.reportJson.Fits :=
  ⟨trivial, Summary.fits_toJson (m.total_summary ▸ h), inverts_mapDecoder.fits m, trivial⟩

theorem decoder_reportJson (m : Outcomes) : decoder (toTree m.reportJson) = .ok m :=
  member_obj "DispatchResult" (by simp) (by simp) (inverts_mapDecoder.eq m)

theorem status_reportJson (title : String) (m : Outcomes) :
    member title "status" Status.decoder (toTree m.reportJson) = .ok m.status :=
  member_obj title (by simp) List.mem_cons_self (Status.inverts_decoder.eq m.status)

theorem summary_reportJson (title : String) (h : m.size < UInt64.size) :
    member title "summary" Summary.decoder (toTree m.reportJson) = .ok m.summary :=
  member_obj title (by simp) (by simp) (Summary.decoder_toJson (m.total_summary ▸ h))

end Outcomes

end Fanout
