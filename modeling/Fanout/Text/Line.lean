import Fanout.Text.Blank

/-!
# Lines

A text is cut at its newlines in two ways. `pieces` keeps everything between newlines, so joining
the pieces with newlines gives the text back. `lines` reads the text as a person does: one carriage
return before a newline belongs to the newline, and nothing after the last newline is no line.
-/
namespace Fanout

namespace Chars

/-- What stands between the newlines; there is one piece more than there are newlines. -/
def pieces : List Char → List (List Char)
  | [] => [[]]
  | c :: cs =>
    if c = '\n' then [] :: pieces cs
    else match pieces cs with
      | [] => [[c]]
      | p :: ps => (c :: p) :: ps

/-- Without one carriage return at the end. -/
def dropReturn (cs : List Char) : List Char :=
  if cs.getLast? = some '\r' then cs.dropLast else cs

/-- The lines among the pieces of a text: the last piece counts only if it is not empty. -/
def linesOfPieces : List (List Char) → List (List Char)
  | [] => []
  | [p] => if p.isEmpty then [] else [p]
  | p :: q :: ps => dropReturn p :: linesOfPieces (q :: ps)

def lines (cs : List Char) : List (List Char) :=
  linesOfPieces (pieces cs)

/-- The first line of a text, empty if it has none. -/
def firstLine (cs : List Char) : List Char :=
  (lines cs).headD []

end Chars

namespace Text

/-- The lines of a text. -/
def lines (s : String) : List String :=
  (Chars.lines s.toList).map String.ofList

def firstLine : String → String := onChars Chars.firstLine

/-- Puts `width` spaces before every line that is not empty. -/
def indent (width : Nat) (s : String) : String :=
  let pad := String.ofList (List.replicate width ' ')
  "\n".intercalate ((lines s).map fun line => if line.isEmpty then line else pad ++ line)

/-- Follows every newline by `width` spaces. -/
def hang (width : Nat) : String → String :=
  onChars fun cs => cs.flatMap fun c =>
    if c = '\n' then '\n' :: List.replicate width ' ' else [c]

/-- Fills up with spaces on the right to `width` characters. -/
def padRight (width : Nat) (s : String) : String :=
  s ++ String.ofList (List.replicate (width - s.length) ' ')

/-- Fills up on the left to `width` characters. -/
def padLeft (width : Nat) (fill : Char) (s : String) : String :=
  String.ofList (List.replicate (width - s.length) fill) ++ s

/-- A number of things: "1 host", "3 hosts", "0 hosts". -/
def count (n : Nat) (noun : String) : String :=
  if n = 1 then s!"{n} {noun}" else s!"{n} {noun}s"

end Text

end Fanout
