import Fanout.Host.Codec
import Fanout.Proofs.Json.Record

/-!
# Hosts are read back

A host is read back from its JSON whatever its texts and numbers are, alone and in a list.
-/
namespace Fanout

open Json Json.Decode

theorem Role.inverts_decoder : Inverts decoder toJson := by
  constructor
  case fits => exact fun _ => trivial
  case eq =>
    intro r
    cases r <;> rfl

namespace Host

theorem inverts_port : Inverts (nullable portNumber) (ofOption fun p => .int p.toNat) :=
  inverts_nullable inverts_portNumber fun _ => Tree.noConfusion

theorem inverts_content : Inverts (nullable contentNumber) (ofOption fun c => .int c.toInt) :=
  inverts_nullable inverts_contentNumber fun _ => Tree.noConfusion

theorem inverts_dataDir : Inverts (nullable text) (ofOption .str) :=
  inverts_nullable inverts_text fun _ => Tree.noConfusion

theorem record_toJson (h : Host) : record "Host" fields (toTree h.toJson) =
    .ok [("id", .str h.id), ("hostname", .str h.hostname),
      ("port", toTree (ofOption (fun p => .int p.toNat) h.port)), ("role", toTree h.role.toJson),
      ("content_id", toTree (ofOption (fun c => .int c.toInt) h.content)),
      ("data_dir", toTree (ofOption .str h.dataDir))] := by
  refine record_obj "Host" (by simp) ?_
  simp only [List.forall_mem_cons]
  refine ⟨?_, ?_, ?_, ?_, ?_, ?_, List.forall_mem_nil _⟩
  · rintro f ⟨⟩; exact check_field (inverts_text.eq h.id)
  · rintro f ⟨⟩; exact check_field (inverts_text.eq h.hostname)
  · rintro f ⟨⟩; exact check_field (inverts_port.eq h.port)
  · rintro f ⟨⟩; exact check_field (Role.inverts_decoder.eq h.role)
  · rintro f ⟨⟩; exact check_field (inverts_content.eq h.content)
  · rintro f ⟨⟩; exact check_field (inverts_dataDir.eq h.dataDir)

theorem inverts_decoder : Inverts decoder toJson := by
  constructor
  case fits =>
    intro h
    exact ⟨trivial, trivial, inverts_port.fits h.port, trivial, inverts_content.fits h.content,
      inverts_dataDir.fits h.dataDir, trivial⟩
  case eq =>
    intro h
    have hport := inverts_port.eq h.port
    have hrole := Role.inverts_decoder.eq h.role
    have hcontent := inverts_content.eq h.content
    have hdataDir := inverts_dataDir.eq h.dataDir
    simp [decoder, record_toJson, required, maybe, text, List.lookup_cons, bind, Except.bind, pure,
      Except.pure, hport, hrole, hcontent, hdataDir]

theorem inverts_listDecoder : Inverts listDecoder listToJson :=
  inverts_list inverts_decoder

end Host

end Fanout
