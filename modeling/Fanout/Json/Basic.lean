/-!
# JSON values and their text

The values that the program writes, and their two layouts: compact, with nothing between the parts,
and pretty, with two spaces per level and one member or item a line. Members of an object keep
their order.
-/
namespace Fanout

inductive Json where
  | null
  | bool (b : Bool)
  | int (n : Int)
  | str (s : String)
  | arr (items : List Json)
  | obj (members : List (String × Json))

namespace Json

/-- The digit of base sixteen for a number below sixteen, a small letter from ten on. -/
def hexDigit (n : Nat) : Char :=
  if n < 10 then Char.ofNat (48 + n) else Char.ofNat (87 + n)

/-- A character inside quotes: quote, backslash and controls are escaped, nothing else. -/
def escapeChar (c : Char) : List Char :=
  match c with
  | '"' => ['\\', '"']
  | '\\' => ['\\', '\\']
  | '\n' => ['\\', 'n']
  | '\r' => ['\\', 'r']
  | '\t' => ['\\', 't']
  | '\x08' => ['\\', 'b']
  | '\x0c' => ['\\', 'f']
  | c =>
    if c.toNat < 0x20 then ['\\', 'u', '0', '0', hexDigit (c.toNat / 16), hexDigit (c.toNat % 16)]
    else [c]

/-- A text between quotes. -/
def quote (s : String) : List Char :=
  '"' :: s.toList.flatMap escapeChar ++ ['"']

/-- A whole number in base ten. -/
def intText : Int → List Char
  | .ofNat n => Nat.toDigits 10 n
  | .negSucc n => '-' :: Nat.toDigits 10 (n + 1)

mutual

/-- The text of a value without any space between its parts. -/
def compactChars : Json → List Char
  | .null => "null".toList
  | .bool true => "true".toList
  | .bool false => "false".toList
  | .int n => intText n
  | .str s => quote s
  | .arr items => '[' :: compactItems items ++ [']']
  | .obj members => '\x7b' :: compactMembers members ++ ['\x7d']

def compactItems : List Json → List Char
  | [] => []
  | [j] => compactChars j
  | j :: js => compactChars j ++ ',' :: compactItems js

def compactMembers : List (String × Json) → List Char
  | [] => []
  | [(k, j)] => quote k ++ ':' :: compactChars j
  | (k, j) :: ms => quote k ++ ':' :: compactChars j ++ ',' :: compactMembers ms

end

/-- A new line, indented by two spaces per level. -/
def breakLine (level : Nat) : List Char :=
  '\n' :: List.replicate (2 * level) ' '

mutual

/-- The text of a value that stands at a level, one member or item a line. -/
def prettyChars (level : Nat) : Json → List Char
  | .null => "null".toList
  | .bool true => "true".toList
  | .bool false => "false".toList
  | .int n => intText n
  | .str s => quote s
  | .arr [] => ['[', ']']
  | .arr (j :: js) =>
    '[' :: breakLine (level + 1) ++ prettyItems (level + 1) (j :: js) ++ breakLine level ++ [']']
  | .obj [] => ['\x7b', '\x7d']
  | .obj (m :: ms) =>
    '\x7b' :: breakLine (level + 1) ++ prettyMembers (level + 1) (m :: ms) ++ breakLine level ++
      ['\x7d']

def prettyItems (level : Nat) : List Json → List Char
  | [] => []
  | [j] => prettyChars level j
  | j :: js => prettyChars level j ++ ',' :: breakLine level ++ prettyItems level js

def prettyMembers (level : Nat) : List (String × Json) → List Char
  | [] => []
  | [(k, j)] => quote k ++ ':' :: ' ' :: prettyChars level j
  | (k, j) :: ms =>
    quote k ++ ':' :: ' ' :: prettyChars level j ++ ',' :: breakLine level ++
      prettyMembers level ms

end

def compact (j : Json) : String := String.ofList (compactChars j)

def pretty (j : Json) : String := String.ofList (prettyChars 0 j)

/-- A value that may be absent; absence is written as null. -/
def ofOption {α : Type} (f : α → Json) : Option α → Json
  | none => .null
  | some a => f a

end Json

end Fanout
