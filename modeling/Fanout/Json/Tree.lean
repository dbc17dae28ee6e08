import Fanout.Json.Basic

/-!
# What a JSON text holds

The reader gives back everything a text holds up to the point where it stops being JSON, so that
whoever reads values out of it meets faults in the order of the text. A part can also be well
formed and yet have no value: a text with half of a surrogate pair, or a number beyond all doubles.
Such a part is passed over without harm and cannot be read.
-/
namespace Fanout.Json

/-- A number: a natural one below `2 ^ 64`, a negative one from `-2 ^ 63` on, or a double. -/
inductive Number where
  | nat (n : Nat)
  | negative (n : Int)
  | float (x : Float)

mutual

inductive Tree where
  | null
  | bool (b : Bool)
  | number (n : Number)
  | str (s : String)
  /-- Well formed, but without a value. -/
  | unreadable
  | arr (items : Items)
  | obj (members : Members)
  /-- Here the text stops being JSON. -/
  | cut

/-- The items of an array, up to its end or to where the text stops being JSON. -/
inductive Items where
  | nil
  | cut
  | cons (head : Tree) (tail : Items)

/-- The members of an object. A key is a text, well formed if it has no value. -/
inductive Members where
  | nil
  | cut
  | cons (key value : Tree) (tail : Members)

end

instance : Inhabited Tree := ⟨.null⟩

def Number.ofInt : Int → Number
  | .ofNat n => .nat n
  | .negSucc n => .negative (.negSucc n)

mutual

/-- A value as the reader gives it back. -/
def toTree : Json → Tree
  | .null => .null
  | .bool b => .bool b
  | .int n => .number (Number.ofInt n)
  | .str s => .str s
  | .arr items => .arr (toItems items)
  | .obj members => .obj (toMembers members)

def toItems : List Json → Items
  | [] => .nil
  | j :: js => .cons (toTree j) (toItems js)

def toMembers : List (String × Json) → Members
  | [] => .nil
  | (k, j) :: ms => .cons (.str k) (toTree j) (toMembers ms)

end

mutual

/-- Whether the text is JSON to the end of a value. -/
def Tree.isWhole : Tree → Bool
  | .arr items => items.isWhole
  | .obj members => members.isWhole
  | .cut => false
  | _ => true

def Items.isWhole : Items → Bool
  | .nil => true
  | .cut => false
  | .cons head tail => head.isWhole && tail.isWhole

def Members.isWhole : Members → Bool
  | .nil => true
  | .cut => false
  | .cons (.str _) value tail => value.isWhole && tail.isWhole
  | .cons .unreadable value tail => value.isWhole && tail.isWhole
  | .cons _ _ _ => false

end

end Fanout.Json
