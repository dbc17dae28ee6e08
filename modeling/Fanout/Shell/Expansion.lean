import Fanout.Shell.Pattern
import Fanout.Shell.State

/-!
# From words to fields

What a word gives once its pieces are replaced: segments that are quoted, or plain, or still to be
split. Segments make up fields, and a field that is a pattern stands for the files that fit it.
-/
namespace Fanout.Shell

/-- A part of a word after its pieces have been replaced. -/
inductive Segment where
  | text (s : Octets) (quoted : Bool)
  /-- Text that is split where separators are. -/
  | split (s : Octets)
  /-- The end of a field. -/
  | gap

namespace Segment

/-- The fields so far, the last of them still open. -/
structure Fields where
  closed : List (List Marked)
  current : Option (List Marked)

namespace Fields

def close (f : Fields) : Fields :=
  match f.current with
  | some field => ⟨f.closed ++ [field], none⟩
  | none => f

def append (f : Fields) (marked : List Marked) : Fields :=
  { f with current := some (f.current.getD [] ++ marked) }

end Fields

def mark (quoted : Bool) (s : Octets) : List Marked := s.map fun c => (c, quoted)

def isWhite (c : Char) : Bool := c == ' ' || c == '\t' || c == '\n'

/-- Splits text into fields. Blanks between fields count as one separator, also around another
separator; every other separator ends a field, even an empty one. -/
def splitInto (separators : Octets) : Bool → Fields → Octets → Fields
  | _, f, [] => f
  | afterBlank, f, c :: cs =>
    if c ∉ separators then splitInto separators false (f.append [(c, false)]) cs
    else if isWhite c then
      splitInto separators (afterBlank || f.current.isSome) f.close cs
    else if afterBlank && f.current.isNone then splitInto separators false f cs
    else splitInto separators false (Fields.close (f.append [])) cs

/-- The fields that segments make up. -/
def fields (separators : Octets) (segments : List Segment) : List (List Marked) :=
  let step := fun (f : Fields) (s : Segment) => match s with
    | .text [] false => f
    | .text s quoted => f.append (mark quoted s)
    | .split s => splitInto separators false f s
    | .gap => f.close
  (segments.foldl step ⟨[], none⟩).close.closed

/-- The segments as one text. -/
def joined (segments : List Segment) : List Marked :=
  segments.flatMap fun
    | .text s quoted => mark quoted s
    | .split s => mark false s
    | .gap => [(' ', true)]

def plain (marked : List Marked) : Octets := marked.map Prod.fst

end Segment

/-! ## File names -/

/-- The names in a directory, in order. -/
def namesIn (files : FileTree) (place : List String) : List String :=
  let inside := files.entries.filterMap fun e =>
    if e.1.dropLast = place ∧ e.1 ≠ [] then e.1.getLast? else none
  (inside.toArray.qsort fun a b => a < b).toList

/-- Cuts a pattern at its slashes. -/
def pathParts : List Marked → List (List Marked)
  | [] => [[]]
  | c :: cs =>
    match pathParts cs with
    | p :: ps => if c.1 = '/' then [] :: p :: ps else (c :: p) :: ps
    | [] => [[c]]

/-- The paths that fit a pattern, part by part. -/
def matchParts (files : FileTree) (workDir : String) : String → List (List Marked) → List String
  | base, [] => [base]
  | base, part :: rest =>
    let next := fun (name : String) =>
      matchParts files workDir (base ++ name ++ if rest.isEmpty then "" else "/") rest
    if !isPattern part then next (Segment.plain part).toText
    else
      match files.resolve workDir (if base.isEmpty then "." else base) with
      | .error _ => []
      | .ok place =>
        let p := patternOf part
        let hidden := (Segment.plain part).head? = some '.'
        let fitting := (namesIn files place).filter fun name =>
          (hidden || !name.startsWith ".") && fits p (Octets.ofText name)
        fitting.flatMap next

/-- The texts a field stands for: the files that fit, or itself if there is none. -/
def filesOf (files : FileTree) (workDir : String) (field : List Marked) : List Octets :=
  if !isPattern field then [Segment.plain field]
  else
    let paths := (matchParts files workDir "" (pathParts field)).filter fun p =>
      match files.find workDir p with
      | .ok _ => true
      | .error _ => false
    if paths.isEmpty then [Segment.plain field] else paths.map Octets.ofText

/-! ## Parameters -/

namespace State

/-- The value of a parameter that has one value. -/
def parameter? (s : State) (name : String) : Option Octets :=
  match name with
  | "#" => some (Octets.ofNat s.arguments.length)
  | "?" => some (Octets.ofNat s.status)
  | "$" => some (Octets.ofNat s.processId)
  | "!" => none
  | "-" => some ((if s.refusesUnset then ['u'] else []) ++ if s.exitsOnError then ['e'] else [])
  | "0" => some (Octets.ofText s.name)
  | name =>
    match Octets.toInt? name.toList with
    | some n => s.arguments[n.toNat - 1]?
    | none => s.var? name

/-- The positional parameters as segments. -/
def positional (s : State) (double star : Bool) : List Segment :=
  if double && star then
    let between := match s.var? "IFS" with
      | none => [' ']
      | some ifs => ifs.take 1
    [.text (between.intercalate s.arguments) true]
  else
    let part := fun (a : Octets) => if double then Segment.text a true else .split a
    (s.arguments.map part).intersperse .gap

end State

end Fanout.Shell
