/-!
# Dispatch policies

Whether a dispatch goes on after a failure, and how many executions it runs at once.
-/
namespace Fanout

structure Policy where
  /-- Keep starting hosts after one has failed. -/
  continueOnError : Bool
  /-- The most executions in flight at once. -/
  maxConcurrency : UInt64
  deriving DecidableEq

/-- Every host is attempted, sixteen at a time. -/
def Policy.default : Policy := ⟨true, 16⟩

end Fanout
