import Fanout.Log.Tee

/-!
# Transcripts

What a run of the program says, in order: records for the log, and text on its two outputs. The
log on the console goes to the error output, between the texts that stand there anyway.
-/
namespace Fanout

inductive Note where
  | logged (r : Log.Record)
  | output (text : String)
  | diagnostic (text : String)

abbrev Transcript := List Note

namespace Transcript

def ofRecords (records : List Log.Record) : Transcript :=
  records.map .logged

/-- The records, wherever they go. -/
def records (t : Transcript) : List Log.Record :=
  t.filterMap fun
    | .logged r => some r
    | _ => none

/-- The text on the standard output. -/
def stdout (t : Transcript) : String :=
  String.join <| t.filterMap fun
    | .output text => some text
    | _ => none

/-- The text on the error output, apart from the log. -/
def diagnostics (t : Transcript) : String :=
  String.join <| t.filterMap fun
    | .diagnostic text => some text
    | _ => none

/-- The text on the error output. -/
def stderr (console : Log.ConsoleLog) (t : Transcript) : String :=
  String.join <| t.filterMap fun
    | .output _ => none
    | .diagnostic text => some text
    | .logged r => some (console.show? r)

end Transcript

end Fanout
