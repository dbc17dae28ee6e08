import Fanout.Dispatch.Policy
import Fanout.Json.Decode
import Fanout.Outcome.Map

/-!
# Outcomes as JSON

An outcome is written as an object whose member `status` names its kind, followed by the text that
belongs to the kind; it may be read from an array of the two as well. The members besides `status`
are set aside until the kind is known, so they have to be readable down to a depth of nesting.
-/
namespace Fanout

open Json (Tree Items Members Error Decoder)
open Json.Decode (Field field text size bool record required variant variantName)

namespace Outcome

def kinds : List String := ["success", "failed", "cancelled"]

def toJson : Outcome → Json
  | .success output => .obj [("status", .str "success"), ("output", .str output)]
  | .failed error => .obj [("status", .str "failed"), ("error", .str error)]
  | .cancelled => .obj [("status", .str "cancelled")]

mutual

/-- Whether a value can be set aside within so many levels of nesting. -/
def keepable (depth : Nat) : Tree → Bool
  | .arr items => 1 < depth && keepableItems (depth - 1) items
  | .obj members => 1 < depth && keepableMembers (depth - 1) members
  | .unreadable => false
  | .cut => false
  | _ => true

def keepableItems (depth : Nat) : Items → Bool
  | .nil => true
  | .cut => false
  | .cons head tail => keepable depth head && keepableItems depth tail

def keepableMembers (depth : Nat) : Members → Bool
  | .nil => true
  | .cut => false
  | .cons (.str _) value tail => keepable depth value && keepableMembers depth tail
  | .cons _ _ _ => false

end

/-- Sets a value aside. -/
def keep (depth : Nat) (t : Tree) : Except Error Unit :=
  if keepable depth t then .ok () else .error .malformed

/-- The kind of an outcome, by its name. -/
def kindName : Decoder String :=
  variantName (fun s => if s ∈ kinds then some s else none) kinds

/-- The items of an array, all set aside. -/
def keptItems (depth : Nat) : Items → Except Error (List Tree)
  | .nil => .ok []
  | .cut => .error .malformed
  | .cons head tail => do
    keep depth head
    let rest ← keptItems depth tail
    return head :: rest

/-- The kind among the members of an object, if it is there, and the others, set aside. -/
def keptMembers (depth : Nat) (kind : Option String) :
    Members → Except Error (Option String × List (String × Tree))
  | .nil => .ok (kind, [])
  | .cons (.str "status") value tail =>
    match kind with
    | some _ => .error (.duplicateField "status")
    | none => do
      let k ← kindName value
      keptMembers depth (some k) tail
  | .cons (.str k) value tail => do
    keep depth value
    let (kind', rest) ← keptMembers depth kind tail
    return (kind', (k, value) :: rest)
  | _ => .error .malformed

/-- The text under a name among members set aside; others do not matter. -/
def keptText (name : String) (found : Option String) :
    List (String × Tree) → Except Error String
  | [] =>
    match found with
    | some s => .ok s
    | none => .error (.missingField name)
  | (k, value) :: rest =>
    if k = name then
      match found with
      | some _ => .error (.duplicateField name)
      | none => do
        let s ← text value
        keptText name (some s) rest
    else keptText name found rest

/-- What is set aside of an outcome besides its kind. -/
inductive Kept where
  | items (xs : List Tree)
  | members (ms : List (String × Tree))

/-- The one text that a kind of outcome carries. -/
def Kept.text (variantTitle name : String) : Kept → Except Error String
  | .members ms => keptText name none ms
  | .items [] =>
    .error (.invalidLength 0 s!"struct variant Outcome::{variantTitle} with 1 element")
  | .items (x :: xs) => do
    let s ← Json.Decode.text x
    if xs.isEmpty then return s
    else .error (.invalidLength (xs.length + 1) "1 element in sequence")

/-- The outcome of a kind. -/
def ofKept (kind : String) (kept : Kept) : Except Error Outcome :=
  if kind = "success" then return .success (← kept.text "Success" "output")
  else if kind = "failed" then return .failed (← kept.text "Failed" "error")
  else match kept with
    | .items (_ :: xs) => .error (.invalidLength (xs.length + 1) "0 elements in sequence")
    | _ => .ok .cancelled

/-- Reads an outcome that stands so many levels above the deepest one allowed. -/
def decoderAt (depth : Nat) : Decoder Outcome
  | .arr .nil => .error (.missingField "status")
  | .arr .cut => .error .malformed
  | .arr (.cons head tail) => do
    let kind ← kindName head
    let rest ← keptItems (depth - 1) tail
    ofKept kind (.items rest)
  | .obj members => do
    let (kind, rest) ← keptMembers (depth - 1) none members
    match kind with
    | none => .error (.missingField "status")
    | some kind => ofKept kind (.members rest)
  | t => .error (Json.wrongType "internally tagged enum Outcome" t)

/-- The levels of nesting of a whole text. -/
def maxDepth : Nat := 128

def decoder : Decoder Outcome := decoderAt maxDepth

end Outcome

namespace Status

def toJson (s : Status) : Json := .str s.name

def decoder : Decoder Status := variant ofName? (all.map name)

end Status

namespace Summary

def toJson (s : Summary) : Json :=
  .obj [("succeeded", .int s.succeeded), ("failed", .int s.failed), ("cancelled", .int s.cancelled)]

def fields : List Field :=
  [field "succeeded" size, field "failed" size, field "cancelled" size]

def decoder : Decoder Summary := fun t => do
  let found ← record "DispatchSummary" fields t
  let succeeded ← required "succeeded" size found
  let failed ← required "failed" size found
  let cancelled ← required "cancelled" size found
  return { succeeded, failed, cancelled }

end Summary

namespace Outcomes

/-- The outcomes as an object with a member per host. -/
def mapJson (m : Outcomes) : Json :=
  .obj (m.entries.map fun e => (e.1, e.2.toJson))

def toJson (m : Outcomes) : Json :=
  .obj [("outcomes", m.mapJson)]

def mapDecoder : Decoder Outcomes := fun t =>
  (Json.Decode.map (Outcome.decoderAt (Outcome.maxDepth - 2)) t).map ofList

def decoder : Decoder Outcomes := fun t => do
  let found ← record "DispatchResult" [field "outcomes" mapDecoder] t
  required "outcomes" mapDecoder found

/-- What a program that reads along is told about a dispatch. -/
def reportJson (m : Outcomes) : Json :=
  .obj [("status", m.status.toJson), ("summary", m.summary.toJson), ("outcomes", m.mapJson)]

end Outcomes

namespace Policy

def toJson (p : Policy) : Json :=
  .obj [("continue_on_error", .bool p.continueOnError), ("max_concurrency", .int p.maxConcurrency.toNat)]

def fields : List Field :=
  [field "continue_on_error" bool, field "max_concurrency" size]

def decoder : Decoder Policy := fun t => do
  let found ← record "Policy" fields t
  let continueOnError ← required "continue_on_error" bool found
  let maxConcurrency ← required "max_concurrency" size found
  return { continueOnError, maxConcurrency := maxConcurrency.toUInt64 }

end Policy

end Fanout
