/-!
# UTF-8

Reading octets as characters, one octet at a time. The reader stands between characters or owes
some octets of one; an octet outside the range it waits for ends the character begun and is read
again as a first one. So each maximal start of a character that comes to nothing counts once.
-/
namespace Fanout

/-- Octets of a file or a stream. -/
abbrev Bytes := List UInt8

namespace Utf8

/-- A character begun: the bits so far, the octets owed, and the range of the next one. -/
structure Pending where
  bits : Nat
  owed : Nat
  low : Nat
  high : Nat

/-- What an octet between characters does. -/
inductive First where
  | complete (c : Char)
  | begun (p : Pending)
  | invalid

def first (b : UInt8) : First :=
  let n := b.toNat
  if n ≤ 0x7F then .complete (Char.ofNat n)
  else if 0xC2 ≤ n ∧ n ≤ 0xDF then .begun ⟨n - 0xC0, 1, 0x80, 0xBF⟩
  else if n = 0xE0 then .begun ⟨0, 2, 0xA0, 0xBF⟩
  else if n = 0xED then .begun ⟨0xD, 2, 0x80, 0x9F⟩
  else if 0xE1 ≤ n ∧ n ≤ 0xEF then .begun ⟨n - 0xE0, 2, 0x80, 0xBF⟩
  else if n = 0xF0 then .begun ⟨0, 3, 0x90, 0xBF⟩
  else if 0xF1 ≤ n ∧ n ≤ 0xF3 then .begun ⟨n - 0xF0, 3, 0x80, 0xBF⟩
  else if n = 0xF4 then .begun ⟨4, 3, 0x80, 0x8F⟩
  else .invalid

/-- The characters of some octets, `none` standing for each run that is no character. -/
def scan : Option Pending → Bytes → List (Option Char)
  | none, [] => []
  | some _, [] => [none]
  | none, b :: bs =>
    match first b with
    | .complete c => some c :: scan none bs
    | .begun p => scan (some p) bs
    | .invalid => none :: scan none bs
  | some p, b :: bs =>
    let n := b.toNat
    if p.low ≤ n ∧ n ≤ p.high then
      let bits := p.bits * 64 + (n - 0x80)
      if p.owed ≤ 1 then some (Char.ofNat bits) :: scan none bs
      else scan (some ⟨bits, p.owed - 1, 0x80, 0xBF⟩) bs
    else match first b with
      | .complete c => none :: some c :: scan none bs
      | .begun q => none :: scan (some q) bs
      | .invalid => none :: none :: scan none bs

/-- The text some octets spell, if they are UTF-8. -/
def decode? (bs : Bytes) : Option String :=
  (scan none bs).mapM id |>.map String.ofList

/-- The text some octets spell, with U+FFFD for what is not UTF-8. -/
def decodeLossy (bs : Bytes) : String :=
  String.ofList ((scan none bs).map fun c => c.getD '\uFFFD')

def encode (s : String) : Bytes :=
  s.toUTF8.toList

end Utf8

end Fanout
