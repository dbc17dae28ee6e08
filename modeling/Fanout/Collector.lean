import Fanout.Fault
import Fanout.Outcome.Map

/-!
# Collecting outcomes

A collector expects one outcome for each of some hosts. It takes the first one given for a host,
refuses a second one and any for a host it does not expect, and gives the outcomes out once all
are there.
-/
namespace Fanout

structure Collector where
  /-- The hosts expected, each once. -/
  expected : List String
  /-- What has been recorded, in the order of recording. -/
  stored : List (String × Outcome)

namespace Collector

def ofIds (ids : List String) : Collector :=
  ⟨ids.eraseDups, []⟩

def record (c : Collector) (id : String) (o : Outcome) : Except Fault Collector :=
  if id ∉ c.expected then .error (.unknownHost id)
  else if id ∈ c.stored.map Prod.fst then .error (.duplicateRecord id)
  else .ok { c with stored := c.stored ++ [(id, o)] }

def recorded (c : Collector) : Nat := c.stored.length

/-- All outcomes, once every host expected has one. -/
def snapshot (c : Collector) : Except Fault Outcomes :=
  if c.stored.length ≠ c.expected.length then
    .error (.incomplete c.expected.length c.stored.length)
  else .ok (Outcomes.ofList c.stored)

end Collector

end Fanout
