import Fanout.Decimal.Notation
import Fanout.Json.Reader
import Fanout.Text.Line
import Fanout.Text.Quoted

/-!
# Values out of JSON

A decoder walks a tree in the order of the text and stops at the first fault: the text is
malformed, or a part is well formed and not what is wanted there. A record may be written as an
object, whose unknown members are passed over, or as an array of its fields in their order.
-/
namespace Fanout.Json

inductive Error where
  /-- The text is not JSON, or nothing that could stand there. -/
  | malformed
  /-- JSON, but not what is wanted. -/
  | mismatch (message : String)
  deriving DecidableEq, Repr

abbrev Decoder (α : Type) := Tree → Except Error α

/-- A list of words as alternatives. -/
def oneOf (names : List String) : String :=
  let q := fun n => "`" ++ n ++ "`"
  match names with
  | [a] => q a
  | [a, b] => q a ++ " or " ++ q b
  | names => "one of " ++ ", ".intercalate (names.map q)

namespace Error

def invalidType (found expected : String) : Error :=
  .mismatch s!"invalid type: {found}, expected {expected}"

def invalidValue (found expected : String) : Error :=
  .mismatch s!"invalid value: {found}, expected {expected}"

def invalidLength (n : Nat) (expected : String) : Error :=
  .mismatch s!"invalid length {n}, expected {expected}"

def missingField (name : String) : Error :=
  .mismatch ("missing field `" ++ name ++ "`")

def duplicateField (name : String) : Error :=
  .mismatch ("duplicate field `" ++ name ++ "`")

def unknownVariant (name : String) (known : List String) : Error :=
  .mismatch ("unknown variant `" ++ name ++ "`, expected " ++ oneOf known)

end Error

/-- A whole number as it is told. -/
def integerText (n : Int) : String := "integer `" ++ toString n ++ "`"

def Number.describe : Number → String
  | .nat n => integerText n
  | .negative n => integerText n
  | .float x => "floating point `" ++ Decimal.compact x ++ "`"

/-- What a value is called where something else is wanted; nothing if it has no value. -/
def Tree.describe? : Tree → Option String
  | .null => some "null"
  | .bool b => some s!"boolean `{b}`"
  | .number n => some n.describe
  | .str s => some ("string " ++ Text.quoted s)
  | .arr _ => some "sequence"
  | .obj _ => some "map"
  | .unreadable => none
  | .cut => none

/-- The fault of a value in a place where something else is wanted. -/
def wrongType (expected : String) (t : Tree) : Error :=
  match t.describe? with
  | some found => .invalidType found expected
  | none => .malformed

namespace Decode

def text : Decoder String
  | .str s => .ok s
  | t => .error (wrongType "a string" t)

def bool : Decoder Bool
  | .bool b => .ok b
  | t => .error (wrongType "a boolean" t)

/-- A whole number between two bounds. -/
def integer (low high : Int) (expected : String) : Decoder Int
  | .number (.nat n) =>
    if (n : Int) ≤ high then .ok n else .error (.invalidValue (integerText n) expected)
  | .number (.negative n) =>
    if low ≤ n then .ok n else .error (.invalidValue (integerText n) expected)
  | t => .error (wrongType expected t)

/-- A natural number below `2 ^ 64`. -/
def size : Decoder Nat := fun t =>
  (integer 0 (UInt64.size - 1) "usize" t).map Int.toNat

def portNumber : Decoder UInt16 := fun t =>
  (integer 0 (UInt16.size - 1) "u16" t).map fun n => n.toNat.toUInt16

def contentNumber : Decoder Int32 := fun t =>
  (integer Int32.minValue.toInt Int32.maxValue.toInt "i32" t).map Int32.ofInt

/-- A value, or null for none. -/
def nullable {α : Type} (d : Decoder α) : Decoder (Option α)
  | .null => .ok none
  | t => (d t).map some

/-- Passes over a value; it only has to be JSON. -/
def skip (t : Tree) : Except Error Unit :=
  if t.isWhole then .ok () else .error .malformed

/-- The items of an array, one after the other. -/
def items {α : Type} (d : Decoder α) : Items → Except Error (List α)
  | .nil => .ok []
  | .cut => .error .malformed
  | .cons head tail => do
    let a ← d head
    let as ← items d tail
    return a :: as

def list {α : Type} (d : Decoder α) : Decoder (List α)
  | .arr xs => items d xs
  | t => .error (wrongType "a sequence" t)

/-- The members of an object under any names. -/
def members {α : Type} (d : Decoder α) : Members → Except Error (List (String × α))
  | .nil => .ok []
  | .cons (.str k) value tail => do
    let a ← d value
    let as ← members d tail
    return (k, a) :: as
  | _ => .error .malformed

def map {α : Type} (d : Decoder α) : Decoder (List (String × α))
  | .obj ms => members d ms
  | t => .error (wrongType "a map" t)

/-- A field of a record: its name, and what its value has to pass. -/
structure Field where
  name : String
  check : Tree → Except Error Unit

/-- The field of a name whose values a decoder reads. -/
def field {α : Type} (name : String) (d : Decoder α) : Field :=
  ⟨name, fun t => (d t).map fun _ => ()⟩

/-- Goes through the members of an object and gives back the values of the fields. -/
def fieldMembers (fields : List Field) (seen : List String) :
    Members → Except Error (List (String × Tree))
  | .nil => .ok []
  | .cons (.str k) value tail =>
    match fields.find? fun f => f.name = k with
    | none => do
      skip value
      fieldMembers fields seen tail
    | some f =>
      if k ∈ seen then .error (.duplicateField k)
      else do
        f.check value
        let rest ← fieldMembers fields (k :: seen) tail
        return (k, value) :: rest
  | _ => .error .malformed

/-- Takes the items of an array as the fields of a record, which has as many. -/
def fieldItems (expected : String) : Nat → List Field → Items →
    Except Error (List (String × Tree))
  | _, [], .nil => .ok []
  | _, [], _ => .error .malformed
  | n, f :: fs, .cons head tail => do
    f.check head
    let rest ← fieldItems expected (n + 1) fs tail
    return (f.name, head) :: rest
  | n, _ :: _, .nil => .error (.invalidLength n expected)
  | _, _ :: _, .cut => .error .malformed

/-- The fields of a record as far as they are there, each having passed its check. -/
def record (name : String) (fields : List Field) : Decoder (List (String × Tree))
  | .obj ms => fieldMembers fields [] ms
  | .arr xs =>
    let n := fields.length
    let elements := Text.count n "element"
    fieldItems s!"struct {name} with {elements}" 0 fields xs
  | t => .error (wrongType s!"struct {name}" t)

/-- The value of a field that has to be there. -/
def required {α : Type} (name : String) (d : Decoder α) (found : List (String × Tree)) :
    Except Error α :=
  match found.lookup name with
  | some t => d t
  | none => .error (.missingField name)

/-- The value of a field that may be missing or null. -/
def maybe {α : Type} (name : String) (d : Decoder α) (found : List (String × Tree)) :
    Except Error (Option α) :=
  match found.lookup name with
  | some t => nullable d t
  | none => .ok none

/-- The variant of a name. -/
def variantName {α : Type} (ofName? : String → Option α) (known : List String) : Decoder α
  | .str s =>
    match ofName? s with
    | some a => .ok a
    | none => .error (.unknownVariant s known)
  | t => .error (wrongType "variant identifier" t)

/-- Null, where nothing else belongs. -/
def unit : Decoder Unit
  | .null => .ok ()
  | t => .error (wrongType "unit" t)

/-- A variant without fields: its name, or an object of one member whose value is null. -/
def variant {α : Type} (ofName? : String → Option α) (known : List String) : Decoder α
  | .str s => variantName ofName? known (.str s)
  | .obj (.cons key value tail) => do
    let a ← variantName ofName? known key
    unit value
    match tail with
    | .nil => return a
    | _ => .error .malformed
  | _ => .error .malformed

end Decode

/-- What a text holds, read by a decoder, with nothing but space behind it. -/
def decode {α : Type} (d : Decoder α) (s : String) : Except Error α := do
  let doc := readDocument s
  let a ← d doc.tree
  if doc.clean then return a else .error .malformed

end Fanout.Json
