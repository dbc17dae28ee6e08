/-!
# TOML values

What a TOML text holds. Whole numbers keep their size, whatever it is; a date is only known to be
one. A table has its entries in increasing order of their keys, and remembers how it came about,
since that decides what may still be added to it.
-/
namespace Fanout.Toml

/-- How a table came about. -/
inductive Origin where
  /-- On the way to a table with a header of its own. -/
  | implied
  /-- By a dotted key. -/
  | dotted
  /-- By a header, or as the table of the whole text. -/
  | header
  /-- Written as a value; nothing can be added. -/
  | inlined
  deriving DecidableEq

inductive Value where
  | str (s : String)
  | int (n : Int)
  | float (x : Float)
  /-- A number with a point or an exponent beyond all doubles. -/
  | hugeFloat
  | bool (b : Bool)
  | date
  /-- An array; `ofTables` if it was built by headers, one per table. -/
  | array (ofTables : Bool) (items : List Value)
  | table (origin : Origin) (entries : List (String × Value))

abbrev Entries := List (String × Value)

/-- Puts another value in the place of the one a key has. -/
def replaceEntry (key : String) (v : Value) : Entries → Entries
  | [] => []
  | e :: es => if e.1 = key then (key, v) :: es else e :: replaceEntry key v es

/-- Puts a new key in its place among the others. -/
def insertEntry (key : String) (v : Value) : Entries → Entries
  | [] => [(key, v)]
  | e :: es => if key < e.1 then (key, v) :: e :: es else e :: insertEntry key v es

mutual

/-- Whether every number in a value is a double or a whole number that passes a test. -/
def Value.numbersPass (test : Int → Bool) : Value → Bool
  | .int n => test n
  | .hugeFloat => false
  | .array _ items => itemsPass test items
  | .table _ es => entriesPass test es
  | _ => true

def itemsPass (test : Int → Bool) : List Value → Bool
  | [] => true
  | v :: vs => v.numbersPass test && itemsPass test vs

def entriesPass (test : Int → Bool) : List (String × Value) → Bool
  | [] => true
  | (_, v) :: es => v.numbersPass test && entriesPass test es

end

/-- Changes the table a path leads to. Tables on the way are made if they are missing, by a dotted
key or by a header; of an array of tables the last one is meant. Nothing if a value that cannot be
entered is in the way. -/
def descend (dotted : Bool) :
    List String → (Origin → Entries → Option Entries) → Origin → Entries → Option Entries
  | [], change, origin, es => change origin es
  | key :: path, change, _, es =>
    match es.lookup key with
    | none =>
      let origin := if dotted then Origin.dotted else .implied
      (descend dotted path change origin []).map fun sub => insertEntry key (.table origin sub) es
    | some (.table origin sub) =>
      if origin = .inlined ∨ (dotted ∧ origin = .header) then none
      else (descend dotted path change origin sub).map fun sub' =>
        replaceEntry key (.table origin sub') es
    | some (.array true items) =>
      match items.getLast? with
      | some (.table origin sub) =>
        (descend dotted path change origin sub).map fun sub' =>
          replaceEntry key (.array true (items.dropLast ++ [.table origin sub'])) es
      | _ => none
    | some _ => none

/-- Adds a pair to a table; a dotted key adds it to none that has a header of its own. -/
def addPair (path : List String) (key : String) (v : Value) : Origin → Entries → Option Entries :=
  descend true path fun origin es =>
    if !path.isEmpty && origin = .header then none
    else if (es.lookup key).isSome then none
    else some (insertEntry key v es)

/-- Opens the table of a header, which may exist only on the way to another. -/
def openTable (path : List String) (key : String) : Entries → Option Entries :=
  descend false path (fun _ es =>
    match es.lookup key with
    | none => some (insertEntry key (.table .header []) es)
    | some (.table .implied sub) => some (replaceEntry key (.table .header sub) es)
    | some _ => none) .header

/-- Opens another table of an array of tables. -/
def openItem (path : List String) (key : String) : Entries → Option Entries :=
  descend false path (fun _ es =>
    match es.lookup key with
    | none => some (insertEntry key (.array true [.table .header []]) es)
    | some (.array true items) =>
      some (replaceEntry key (.array true (items ++ [.table .header []])) es)
    | some _ => none) .header

end Fanout.Toml
