import Fanout.Environment
import Fanout.Text.Alphanumeric

/-!
# Paths with variables

A path as a person writes it: a dollar sign and a name stand for a variable, with or without braces
and, in braces, with a default for one that is not set; two dollar signs stand for one. A leading
tilde of its own stands for the home directory. A variable that is not set and has no default
leaves the whole path as it was written.
-/
namespace Fanout.Path

def isNameChar (c : Char) : Bool :=
  Text.isAlphanumeric c || c == '_'

/-- Cuts at the first place where a text occurs, which is dropped. -/
def cutAt (mark : List Char) : List Char → Option (List Char × List Char)
  | [] => if mark.isEmpty then some ([], []) else none
  | c :: cs =>
    if mark.isPrefixOf (c :: cs) then some ([], (c :: cs).drop mark.length)
    else (cutAt mark cs).map fun (front, back) => (c :: front, back)

/-- What stands between the braces of a variable: its name and, behind a colon and a hyphen, a
default. -/
def nameAndDefault (inner : List Char) : List Char × Option (List Char) :=
  match cutAt [':', '-'] inner with
  | some ([], _) => (inner, none)
  | some (name, value) => (name, some value)
  | none => (inner, none)

/-- Replaces the variables of a text; nothing if one is not set and has no default. -/
def substitute (env : Environment) : Nat → List Char → Option (List Char)
  | 0, _ => some []
  | _ + 1, [] => some []
  | fuel + 1, '$' :: '\x7b' :: cs =>
    match cutAt ['\x7d'] cs with
    | none => (substitute env fuel cs).map fun t => '$' :: '\x7b' :: t
    | some (inner, rest) =>
      let (name, value) := nameAndDefault inner
      match env.get? (String.ofList name), value with
      | some v, _ => (substitute env fuel rest).map (v.toList ++ ·)
      | none, some v => (substitute env fuel rest).map (v ++ ·)
      | none, none => none
  | fuel + 1, '$' :: '$' :: cs => (substitute env fuel cs).map ('$' :: ·)
  | fuel + 1, '$' :: cs =>
    let name := cs.takeWhile isNameChar
    if name.isEmpty then (substitute env fuel cs).map ('$' :: ·)
    else match env.get? (String.ofList name) with
      | some v => (substitute env fuel (cs.drop name.length)).map (v.toList ++ ·)
      | none => none
  | fuel + 1, c :: cs => (substitute env fuel cs).map (c :: ·)

/-- Replaces a tilde that is the first part of a path. -/
def expandTilde (env : Environment) (cs : List Char) : List Char :=
  match cs, env.home? with
  | ['~'], some home => home.toList
  | '~' :: '/' :: rest, some home => home.toList ++ '/' :: rest
  | cs, _ => cs

/-- A path with its variables replaced, and then its tilde if it was written with one. -/
def expand (env : Environment) (path : String) : String :=
  let cs := path.toList
  match substitute env (cs.length + 1) cs with
  | none => path
  | some t => String.ofList (if cs.head? = some '~' then expandTilde env t else t)

/-- A name inside a directory. -/
def join (dir name : String) : String :=
  if dir.isEmpty then name
  else if dir.toList.getLast? = some '/' then dir ++ name
  else dir ++ "/" ++ name

end Fanout.Path
