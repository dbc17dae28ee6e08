import Fanout.Text.Utf8

/-!
# Octets as characters

A shell works on octets and knows no encoding. A text in it is a list of characters, each of which
stands for the octet of its number.
-/
namespace Fanout.Shell

abbrev Octets := List Char

namespace Octets

def ofBytes (bytes : Bytes) : Octets :=
  bytes.map fun b => Char.ofNat b.toNat

def toBytes (o : Octets) : Bytes :=
  o.map fun c => c.toNat.toUInt8

def ofText (s : String) : Octets :=
  ofBytes (Utf8.encode s)

def toText (o : Octets) : String :=
  Utf8.decodeLossy (toBytes o)

/-- The decimal digits of a number. -/
def ofNat (n : Nat) : Octets := (toString n).toList

def ofInt (n : Int) : Octets := (toString n).toList

/-- A number in decimal digits, with or without a sign and blanks around it. -/
def toInt? (o : Octets) : Option Int :=
  let blank := fun c => c = ' ' ∨ c = '\t' ∨ c = '\n'
  let cs := ((o.dropWhile blank).reverse.dropWhile blank).reverse
  let digits := fun (ds : Octets) =>
    if ds ≠ [] ∧ ds.all Char.isDigit then
      some (ds.foldl (fun n c => 10 * n + (c.toNat - '0'.toNat)) 0)
    else none
  match cs with
  | '-' :: ds => (digits ds).map fun n => -(n : Int)
  | '+' :: ds => (digits ds).map Int.ofNat
  | ds => (digits ds).map Int.ofNat

/-- The lines of a text, without the newlines that end them. -/
def lines : Octets → List Octets
  | [] => []
  | c :: cs =>
    if c = '\n' then [] :: lines cs
    else match lines cs with
      | l :: ls => (c :: l) :: ls
      | [] => [[c]]

end Octets

end Fanout.Shell
