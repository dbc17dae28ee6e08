import Fanout.Host.Basic
import Fanout.Proofs.Text.Lines

/-!
# Endpoints and their ids

A port is written in digits only, so the last colon of an endpoint's id divides hostname and port,
whatever colons and digits the hostname has itself. Hosts that are known by their endpoints have one id
just if they stand at one endpoint.
-/
namespace Fanout

/-! ## Reading an id at its last colon -/

/-- The last of the separators divides a list. -/
theorem eq_of_append_cons_eq {α : Type} {a : α} {xs xs' ys ys' : List α}
    (h : xs ++ a :: ys = xs' ++ a :: ys') (hys : a ∉ ys) (hys' : a ∉ ys') : xs = xs' ∧ ys = ys' := by
  rcases List.append_eq_append_iff.mp h with ⟨as, rfl, hrest⟩ | ⟨bs, rfl, hrest⟩
  · cases as with
    | nil => simpa using hrest
    | cons b as =>
        obtain ⟨-, rfl⟩ := List.cons.inj hrest
        exact absurd (List.mem_append_right as List.mem_cons_self) hys
  · cases bs with
    | nil => simpa using hrest.symm
    | cons b bs =>
        obtain ⟨-, rfl⟩ := List.cons.inj hrest
        exact absurd (List.mem_append_right bs List.mem_cons_self) hys'

theorem toList_endpointId (hostname : String) (port : UInt16) :
    (endpointId hostname port).toList =
      hostname.toList ++ ':' :: Nat.toDigits 10 port.toNat := by
  simp [endpointId, Nat.toString_eq_repr, Nat.toList_repr]

theorem eq_of_endpointId_eq {h h' : String} {p p' : UInt16}
    (he : endpointId h p = endpointId h' p') : h = h' ∧ p = p' := by
  have hlist := congrArg String.toList he
  rw [toList_endpointId, toList_endpointId] at hlist
  obtain ⟨hname, hport⟩ := eq_of_append_cons_eq hlist (Text.not_mem_toDigits (by decide) _)
    (Text.not_mem_toDigits (by decide) _)
  have hnat : p.toNat = p'.toNat :=
    calc p.toNat
      _ = Nat.ofDigitChars 10 (Nat.toDigits 10 p.toNat) 0 := Nat.ofDigitChars_ten_toDigits.symm
      _ = Nat.ofDigitChars 10 (Nat.toDigits 10 p'.toNat) 0 := by rw [hport]
      _ = p'.toNat := Nat.ofDigitChars_ten_toDigits
  exact ⟨String.toList_inj.mp hname, UInt16.toNat_inj.mp hnat⟩

/-! ## Hosts known by their endpoints -/

namespace Host

/-- A segment is known by its endpoint, and so is every host once it has a port. What is set after
that, short of another id, leaves it so. -/
inductive KnownAt : String → UInt16 → Host → Prop where
  | segment (content : Int32) (role : Role) (hostname : String) (port : UInt16) :
      KnownAt hostname port (Host.segment content role hostname port)
  | withPort (h : Host) (port : UInt16) : KnownAt h.hostname port (h.withPort port)
  | withRole {hostname : String} {port : UInt16} {h : Host} (role : Role) :
      KnownAt hostname port h → KnownAt hostname port (h.withRole role)
  | withContent {hostname : String} {port : UInt16} {h : Host} (content : Int32) :
      KnownAt hostname port h → KnownAt hostname port (h.withContent content)
  | withDataDir {hostname : String} {port : UInt16} {h : Host} (dir : String) :
      KnownAt hostname port h → KnownAt hostname port (h.withDataDir dir)

theorem KnownAt.id_eq {hostname : String} {port : UInt16} {h : Host}
    (hk : KnownAt hostname port h) : h.id = endpointId hostname port := by
  induction hk with
  | segment => rfl
  | withPort => rfl
  | withRole _ _ ih => exact ih
  | withContent _ _ ih => exact ih
  | withDataDir _ _ ih => exact ih

/-- Two hosts known by their endpoints have one id exactly if hostname and port are the same. -/
theorem KnownAt.same_id_iff {name name' : String} {port port' : UInt16} {x y : Host}
    (hx : KnownAt name port x) (hy : KnownAt name' port' y) :
    x.id = y.id ↔ name = name' ∧ port = port' := by
  rw [hx.id_eq, hy.id_eq]
  constructor
  · intro he
    exact eq_of_endpointId_eq he
  · rintro ⟨rfl, rfl⟩
    rfl

/-- A hostname may end in what reads as a port. -/
theorem KnownAt.same_id_iff_colons :
    let segment := (Host.segment 3 .mirror "fe80::1" 6000).withDataDir "/data"
    let again := (Host.ofHostname "fe80::1").withPort 6000
    let other := (Host.coordinator "fe80::1:6000").withPort 6000
    KnownAt "fe80::1" 6000 segment ∧ KnownAt "fe80::1" 6000 again ∧
    KnownAt "fe80::1:6000" 6000 other ∧ segment.id = again.id ∧ segment.id ≠ other.id := by
  intro segment again other
  have hsegment : KnownAt "fe80::1" 6000 segment := .withDataDir _ (.segment _ _ _ _)
  have hagain : KnownAt "fe80::1" 6000 again := .withPort (Host.ofHostname "fe80::1") 6000
  have hother : KnownAt "fe80::1:6000" 6000 other :=
    .withPort (Host.coordinator "fe80::1:6000") 6000
  refine ⟨hsegment, hagain, hother, (hsegment.same_id_iff hagain).mpr ⟨rfl, rfl⟩, fun he => ?_⟩
  exact absurd ((hsegment.same_id_iff hother).mp he).1 (by decide)

end Host

end Fanout
