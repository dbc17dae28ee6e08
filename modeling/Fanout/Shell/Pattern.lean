import Fanout.Shell.Octets

/-!
# Patterns

Patterns for texts and file names: a star stands for any text, a question mark for one character,
brackets for one of a set. Quoted characters stand for themselves.
-/
namespace Fanout.Shell

/-- A character, and whether it is quoted. -/
abbrev Marked := Char × Bool

/-- One element of a pattern. -/
inductive Glyph where
  | char (c : Char)
  | one
  | many
  | oneOf (negated : Bool) (ranges : List (Char × Char))

namespace Glyph

def accepts : Glyph → Char → Bool
  | .char d, c => c == d
  | .one, _ => true
  | .many, _ => true
  | .oneOf negated ranges, c => ranges.any (fun r => r.1 ≤ c && c ≤ r.2) != negated

/-- The ranges of a set, of which the characters up to the closing bracket are given. -/
def ranges : List Char → List (Char × Char)
  | a :: '-' :: b :: cs => (a, b) :: ranges cs
  | a :: cs => (a, a) :: ranges cs
  | [] => []

/-- The set that begins behind an opening bracket, and how long it is. -/
def set? (cs : List Marked) : Option (Glyph × Nat) :=
  let negated := match cs with
    | ('!', false) :: _ => true
    | ('^', false) :: _ => true
    | _ => false
  let body := if negated then cs.drop 1 else cs
  let inside := match body with
    | first :: rest => first :: rest.takeWhile fun c => c ≠ (']', false)
    | [] => []
  let used := inside.length + (if negated then 1 else 0)
  if inside ≠ [] ∧ cs[used]? = some (']', false) then
    some (.oneOf negated (ranges (inside.map Prod.fst)), used + 1)
  else none

end Glyph

/-- The elements of a pattern. -/
def glyphs : Nat → List Marked → List Glyph
  | 0, _ => []
  | _ + 1, [] => []
  | fuel + 1, (c, quoted) :: cs =>
    if quoted then .char c :: glyphs fuel cs
    else match c with
      | '*' => .many :: glyphs fuel cs
      | '?' => .one :: glyphs fuel cs
      | '[' =>
        match Glyph.set? cs with
        | some (g, n) => g :: glyphs fuel (cs.drop n)
        | none => .char c :: glyphs fuel cs
      | c => .char c :: glyphs fuel cs

def patternOf (cs : List Marked) : List Glyph := glyphs (cs.length + 1) cs

/-- Whether a text fits a pattern from end to end. -/
def fits : List Glyph → Octets → Bool
  | [], s => s.isEmpty
  | .many :: p, [] => fits p []
  | .many :: p, c :: s => fits p (c :: s) || fits (.many :: p) s
  | g :: p, c :: s => g.accepts c && fits p s
  | _ :: _, [] => false
termination_by p s => p.length + s.length

/-- Whether some unquoted character is not for itself. -/
def isPattern (cs : List Marked) : Bool :=
  cs.any fun c => !c.2 && c.1 ∈ ['*', '?', '[']

/-- Cuts a fitting part off the front of a text, the shortest or the longest. -/
def cutFront (p : List Glyph) (longest : Bool) (s : Octets) : Octets :=
  let sizes := (List.range (s.length + 1)).filter fun n => fits p (s.take n)
  match if longest then sizes.getLast? else sizes.head? with
  | some n => s.drop n
  | none => s

/-- Cuts a fitting part off the end of a text. -/
def cutSuffix (p : List Glyph) (longest : Bool) (s : Octets) : Octets :=
  let sizes := (List.range (s.length + 1)).filter fun n => fits p (s.drop n)
  match if longest then sizes.head? else sizes.getLast? with
  | some n => s.take n
  | none => s

end Fanout.Shell
