import Fanout.Decimal.Notation
import Fanout.Text.Line
import Fanout.Text.Quoted
import Fanout.Toml.Reader

/-!
# Values out of TOML

A decoder takes a value and stops at the first fault. A record is a table, whose unknown keys do
not matter, or an array of its fields in their order, in which fields at the end may be missing if
they have a default. The fields of a table are read in the order of their names, and only then is
it seen which are missing.
-/
namespace Fanout.Toml

inductive Error where
  /-- The text is not TOML. -/
  | malformed
  /-- TOML, but not what is wanted. -/
  | mismatch (message : String)
  deriving DecidableEq, Repr

def Error.message : Error → String
  | .malformed => "TOML parse error"
  | .mismatch message => message

abbrev Decoder (α : Type) := Value → Except Error α

def fault {α : Type} (message : String) : Except Error α := .error (.mismatch message)

def integerText (n : Int) : String := "integer `" ++ toString n ++ "`"

/-- Whether a whole number is one of those that TOML promises: 64 bits with a sign. -/
def isStandard (n : Int) : Bool :=
  Int64.minValue.toInt ≤ n && n ≤ Int64.maxValue.toInt

/-- The number of natural numbers of 128 bits. -/
def longSize : Int := UInt64.size * UInt64.size

/-- Whether a whole number can be read at all: it fits 128 bits, with a sign or without one. -/
def isReadable (n : Int) : Bool :=
  -longSize ≤ 2 * n && n < longSize

/-- What a value is called where something else is wanted. -/
def Value.describe : Value → String
  | .str s => "string " ++ Text.quoted s
  | .int n => integerText n
  | .float x => "floating point `" ++ Decimal.positional x ++ "`"
  | .hugeFloat => "floating point"
  | .bool b => s!"boolean `{b}`"
  | .date => "map"
  | .array _ _ => "sequence"
  | .table _ _ => "map"

/-- The fault of a value in a place where something else is wanted. -/
def wrongType {α : Type} (expected : String) (v : Value) : Except Error α :=
  fault s!"invalid type: {v.describe}, expected {expected}"

namespace Decode

def text : Decoder String
  | .str s => .ok s
  | v => wrongType "a string" v

def bool : Decoder Bool
  | .bool b => .ok b
  | v => wrongType "a boolean" v

/-- A whole number between two bounds. -/
def integer (low high : Int) (expected : String) : Decoder Int
  | .int n =>
    if low ≤ n ∧ n ≤ high then .ok n
    else fault s!"invalid value: {integerText n}, expected {expected}"
  | v => wrongType expected v

def list {α : Type} (d : Decoder α) : Decoder (List α)
  | .array _ items => items.mapM d
  | v => wrongType "a sequence" v

def some? {α : Type} (d : Decoder α) : Decoder (Option α) := fun v => (d v).map some

/-- A field of a record: its name, what its value has to pass, and whether it may be missing. -/
structure Field where
  name : String
  check : Value → Except Error Unit
  hasDefault : Bool

def field {α : Type} (name : String) (d : Decoder α) : Field :=
  ⟨name, fun v => (d v).map fun _ => (), false⟩

def optionalField {α : Type} (name : String) (d : Decoder α) : Field :=
  { field name d with hasDefault := true }

/-- Passes over a value that nobody wants; its numbers have to be readable all the same. -/
def passOver (v : Value) : Except Error Unit :=
  if v.numbersPass isReadable then .ok () else .error .malformed

/-- The entries of a table that are fields, each having passed its check. -/
def fieldEntries (fields : List Field) : Entries → Except Error Entries
  | [] => .ok []
  | (k, v) :: es =>
    match fields.find? fun f => f.name = k with
    | none => do
      passOver v
      fieldEntries fields es
    | some f => do
      f.check v
      let rest ← fieldEntries fields es
      return (k, v) :: rest

/-- The items of an array as fields. -/
def fieldItems (expected : String) : Nat → List Field → List Value → Except Error Entries
  | _, [], _ => .ok []
  | n, f :: fs, v :: vs => do
    f.check v
    let rest ← fieldItems expected (n + 1) fs vs
    return (f.name, v) :: rest
  | n, f :: fs, [] =>
    if f.hasDefault then fieldItems expected (n + 1) fs []
    else fault s!"invalid length {n}, expected {expected}"

/-- The fields of a record as far as they are there. A date is a table without any of them. -/
def record (name : String) (fields : List Field) : Decoder Entries
  | .table _ es => fieldEntries fields es
  | .date => .ok []
  | .array _ items =>
    let elements := Text.count fields.length "element"
    fieldItems s!"struct {name} with {elements}" 0 fields items
  | v => wrongType s!"struct {name}" v

/-- The value of a field that has to be there. -/
def required {α : Type} (name : String) (d : Decoder α) (es : Entries) : Except Error α :=
  match es.lookup name with
  | some v => d v
  | none => fault ("missing field `" ++ name ++ "`")

/-- The value of a field, or what stands for it. -/
def withDefault {α : Type} (name : String) (d : Decoder α) (value : α) (es : Entries) :
    Except Error α :=
  match es.lookup name with
  | some v => d v
  | none => .ok value

/-- A kind of value, as it is told where a table is wanted. -/
def kindName : Value → String
  | .str _ => "string"
  | .int _ => "integer"
  | .float _ | .hugeFloat => "float"
  | .bool _ => "boolean"
  | .date => "datetime"
  | .array _ _ => "array"
  | .table _ _ => "table"

/-- What stands beside the name of a variant: nothing, as an empty table or array. -/
def nothing : Value → Except Error Unit
  | .array _ [] => .ok ()
  | .array _ _ => fault "expected empty array"
  | .table _ [] => .ok ()
  | .table _ _ => fault "expected empty table"
  | v => fault ("expected table, found " ++ kindName v)

/-- A variant without fields: its name, or a table of one key beside nothing. -/
def variant {α : Type} (ofName? : String → Option α) (known : String) : Decoder α
  | .str s => ofName s
  | .table _ [(s, v)] => do
    let a ← ofName s
    nothing v
    return a
  | .table _ [] => fault "wanted exactly 1 element, found 0 elements"
  | .table _ _ => fault "wanted exactly 1 element, more than 1 element"
  | _ => fault "wanted string or table"
where
  ofName (s : String) : Except Error α :=
    match ofName? s with
    | some a => .ok a
    | none => fault ("unknown variant `" ++ s ++ "`, expected " ++ known)

end Decode

/-- What a text holds, read by a decoder as one table. A decoder may take numbers beyond those that
TOML promises; where it refuses a text that has such numbers, the text is not TOML. -/
def decode {α : Type} (d : Decoder α) (s : String) : Except Error α :=
  match read? s with
  | none => .error .malformed
  | some es =>
    let v := Value.table .header es
    (d v).mapError fun e => if v.numbersPass isStandard then e else .malformed

end Fanout.Toml
