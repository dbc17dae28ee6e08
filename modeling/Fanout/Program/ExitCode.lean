/-!
# Exit codes

The codes under which the program's own failures go.
-/
namespace Fanout.ExitCode

/-- At least one host failed or was not attempted. -/
def hostsFailed : UInt32 := 1

/-- The cluster file is missing or invalid, or asks for what cannot be done. -/
def configInvalid : UInt32 := 3

/-- The bookkeeping of a dispatch broke. -/
def engineFault : UInt32 := 70

end Fanout.ExitCode
