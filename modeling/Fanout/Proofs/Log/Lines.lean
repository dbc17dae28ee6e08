import Fanout.Command.Launch
import Fanout.Log.Tee
import Fanout.Proofs.FileTree
import Fanout.Proofs.Text.Lines
import Fanout.Retry.Attempt

/-!
# The lines of the log file

Every record the file admits is one entry: the start of a line, the text as it is, and a newline. As many
lines as the text has pieces stand in the file, the first of them with the start. So a record is a line of its
own exactly if its text holds no newline.
-/
namespace Fanout.Log

variable {files opened : FileTree} {env : Environment} {origin : Origin} {file : LogFile}

/-! ## The start of a line -/

/-- What stands before the text of a record. -/
def lineStart (header : String) (moment : Moment) (level : Level) : String :=
  moment.stamp ++ " " ++ header ++ "-[" ++ level.fileName ++ "]:-"

theorem newline_not_mem_digits (width n : Nat) : '\n' ∉ (Date.digits width n).toList := by
  have hnumber := Text.not_mem_toString (c := '\n') (by decide) n
  simpa [Date.digits, Text.padLeft] using hnumber

theorem newline_not_mem_compact (d : Date) : '\n' ∉ d.compact.toList := by
  have hyear : '\n' ∉ (Date.yearText d.year).toList := by
    unfold Date.yearText
    split
    · exact newline_not_mem_digits 4 _
    · have hsign : '\n' ∉ (if d.year < 0 then "-" else "+").toList := by split <;> decide
      simpa [hsign] using newline_not_mem_digits 4 d.year.natAbs
  simp [Date.compact, hyear, newline_not_mem_digits]

theorem newline_not_mem_stamp (m : Moment) : '\n' ∉ m.stamp.toList := by
  apply Text.not_mem_intercalate (by decide)
  simp [newline_not_mem_compact, newline_not_mem_digits]

theorem newline_not_mem_header (huser : '\n' ∉ (user env).toList) (hhost : '\n' ∉ origin.host.toList) :
    '\n' ∉ (header env origin).toList := by
  have hprogram : '\n' ∉ Topic.program.toList := by decide
  apply Text.not_mem_intercalate (by decide)
  simp [hprogram, huser, hhost, newline_not_mem_digits]

theorem newline_not_mem_lineStart {header : String} (h : '\n' ∉ header.toList) (m : Moment)
    (level : Level) : '\n' ∉ (lineStart header m level).toList := by
  have hlevel : '\n' ∉ level.fileName.toList := by cases level <;> decide
  simp [lineStart, newline_not_mem_stamp, h, hlevel]

/-! ## The lines of a record -/

/-- The lines of an entry: the first begins as all lines do, the others are as the text has them. -/
def recordLines (header : String) (moment : Moment) (r : Record) : List String :=
  (Text.splitLines r.text).modifyHead (lineStart header moment r.level ++ ·)

theorem splitLines_entry (h : '\n' ∉ file.header.toList) (m : Moment) (r : Record) :
    Text.splitLines (lineStart file.header m r.level ++ r.text) = recordLines file.header m r :=
  Text.splitLines_append_of_not_mem (newline_not_mem_lineStart h m r.level) r.text

/-- A text without newlines stands on one line behind the start. -/
theorem recordLines_of_not_mem {header : String} {r : Record} (h : '\n' ∉ r.text.toList) (m : Moment) :
    recordLines header m r = [lineStart header m r.level ++ r.text] := by
  rw [recordLines, Text.splitLines_of_not_mem h]
  rfl

/-- The records that a file admits. -/
def admitted (threshold : Threshold) (records : List Record) : List Record :=
  records.filter fun r => threshold.admits r.level

theorem splitLines_entries (h : '\n' ∉ file.header.toList) (clock : Nat → Moment) (records : List Record) :
    Text.splitLines (String.join (file.entries clock records)) =
      ((admitted file.threshold records).zipIdx.flatMap fun (r, n) =>
        recordLines file.header (clock n) r) ++ [""] := by
  have hentries : file.entries clock records =
      ((admitted file.threshold records).zipIdx.map fun (r, n) =>
        lineStart file.header (clock n) r.level ++ r.text).map (· ++ "\n") := by
    rw [List.map_map]
    rfl
  rw [hentries, Text.splitLines_join_ended, List.flatMap_map]
  simp only [splitLines_entry h]

/-! ## One line for each -/

section

variable {α β : Type} {xs : List α} {f : α → List β}

theorem forall_mem_zipIdx (P : α → Prop) : (∀ x ∈ xs.zipIdx, P x.1) ↔ ∀ a ∈ xs, P a := by
  have hmap := List.forall_mem_map (f := Prod.fst) (P := P) (l := xs.zipIdx)
  rw [← hmap, List.zipIdx_map_fst]

theorem length_le_flatMap (h : ∀ x ∈ xs, 1 ≤ (f x).length) : xs.length ≤ (xs.flatMap f).length := by
  induction xs with
  | nil => exact Nat.le_refl 0
  | cons x xs ih =>
      obtain ⟨hx, hxs⟩ := List.forall_mem_cons.mp h
      rw [List.flatMap_cons, List.length_append, List.length_cons, Nat.add_comm]
      exact Nat.add_le_add hx (ih hxs)

theorem length_flatMap_eq_iff (h : ∀ x ∈ xs, 1 ≤ (f x).length) :
    (xs.flatMap f).length = xs.length ↔ ∀ x ∈ xs, (f x).length = 1 := by
  induction xs with
  | nil => simp
  | cons x xs ih =>
      obtain ⟨hx, hxs⟩ := List.forall_mem_cons.mp h
      have hle := length_le_flatMap hxs
      rw [List.forall_mem_cons, ← ih hxs, List.flatMap_cons, List.length_append, List.length_cons]
      omega

end

/-- The lines of some records are as many as the records exactly if no text holds a newline. -/
theorem length_lines_eq_iff (header : String) (clock : Nat → Moment) (records : List Record) :
    (records.zipIdx.flatMap fun (r, n) => recordLines header (clock n) r).length = records.length ↔
      ∀ r ∈ records, '\n' ∉ r.text.toList := by
  have hlength (x : Record × Nat) : (recordLines header (clock x.2) x.1).length =
      (Text.splitLines x.1.text).length := by
    rw [recordLines, List.length_modifyHead]
  have hsome (x : Record × Nat) : 1 ≤ (recordLines header (clock x.2) x.1).length := by
    obtain ⟨line, lines, hlines⟩ := Text.exists_splitLines_eq_cons x.1.text
    rw [hlength, hlines]
    exact Nat.le_add_left 1 _
  have hone := length_flatMap_eq_iff fun x (_ : x ∈ records.zipIdx) => hsome x
  rw [List.length_zipIdx] at hone
  simp only [hlength, Text.length_splitLines_eq_one_iff] at hone
  exact hone.trans (forall_mem_zipIdx fun (r : Record) => '\n' ∉ r.text.toList)

theorem flatMap_recordLines_of_not_mem {header : String} {clock : Nat → Moment} {records : List Record}
    (h : ∀ r ∈ records, '\n' ∉ r.text.toList) :
    (records.zipIdx.flatMap fun (r, n) => recordLines header (clock n) r) =
      records.zipIdx.map fun (r, n) => lineStart header (clock n) r.level ++ r.text := by
  rw [List.map_eq_flatMap]
  refine List.flatMap_congr fun x hx => ?_
  exact recordLines_of_not_mem ((forall_mem_zipIdx fun (r : Record) => '\n' ∉ r.text.toList).mpr h x hx) _

/-! ## What the file gains -/

theorem admits_max (s : Threshold) {t : Threshold} {level : Level} (h : t.admits level = true) :
    (s.max t).admits level = true := by
  rw [Threshold.admits, decide_eq_true_eq] at h ⊢
  rw [Threshold.max]
  split
  · exact h
  · rename_i hlt
    exact Nat.le_trans h (Nat.le_of_not_le hlt)

/-- Whether or not the records that neither log admits are left out before, the file gets the same. -/
theorem deliver_filter (console : ConsoleLog) (file : LogFile) (clock : Nat → Moment)
    (records : List Record) :
    let tee : Tee := ⟨console, some file⟩
    (tee.deliver clock (records.filter fun r => tee.threshold.admits r.level)).2 =
      file.entries clock records := by
  intro tee
  have hadmitted : (records.filter fun r => tee.threshold.admits r.level).filter
      (fun r => file.threshold.admits r.level) = records.filter fun r => file.threshold.admits r.level := by
    rw [List.filter_filter]
    refine List.filter_congr fun r _ => ?_
    cases h : file.threshold.admits r.level with
    | false => rfl
    | true => exact admits_max console.threshold h
  show file.entries clock _ = file.entries clock records
  rw [LogFile.entries, hadmitted, LogFile.entries]

/-- A file that was opened has the header of the run, and can be read. -/
theorem openIn_inv {dir : String} {threshold : Threshold}
    (h : LogFile.openIn files env origin dir threshold = .ok (file, opened)) :
    file.threshold = threshold ∧ file.header = header env origin ∧
      ∃ old, opened.read env.workDir file.path = .ok old := by
  rw [LogFile.openIn] at h
  cases hmade : files.makeDirs env.workDir dir with
  | error e => simp [hmade, Except.mapError, bind, Except.bind] at h
  | ok made =>
      cases hopened : made.append env.workDir (Path.join dir (fileName origin.today)) [] with
      | error e => simp [hmade, hopened, Except.mapError, bind, Except.bind] at h
      | ok opened' =>
          simp only [hmade, hopened, Except.mapError, bind, Except.bind, pure, Except.pure] at h
          cases h
          obtain ⟨old, -, hread⟩ := FileTree.read_append hopened
          exact ⟨rfl, rfl, old ++ [], hread⟩

/-- An opened file gains the same whatever the console shows: the lines of the records it admits, one record
after the other. There is one line for each exactly if no text of them holds a newline, and then it is the
start of a line with the text behind it. -/
theorem gained_lines {dir : String} {threshold : Threshold}
    (hopen : LogFile.openIn files env origin dir threshold = .ok (file, opened))
    (huser : '\n' ∉ (user env).toList) (hhost : '\n' ∉ origin.host.toList) :
    ∃ old, opened.read env.workDir file.path = .ok old ∧ ∀ clock records, ∃ gained,
      (∀ console, let tee : Tee := ⟨console, some file⟩
        (tee.deliver clock records).2 = gained ∧
        (tee.deliver clock (records.filter fun r => tee.threshold.admits r.level)).2 = gained) ∧
      (file.write opened env gained).read env.workDir file.path =
        .ok (old ++ Utf8.encode (String.join gained)) ∧
      let due := admitted threshold records
      let lines := Text.splitLines (String.join gained)
      lines = (due.zipIdx.flatMap fun (r, n) => recordLines (header env origin) (clock n) r) ++ [""] ∧
      (lines.length = due.length + 1 ↔ ∀ r ∈ due, '\n' ∉ r.text.toList) ∧
      ((∀ r ∈ due, '\n' ∉ r.text.toList) → lines =
        (due.zipIdx.map fun (r, n) => lineStart (header env origin) (clock n) r.level ++ r.text) ++ [""]) := by
  obtain ⟨hthreshold, hheader, old, hold⟩ := openIn_inv hopen
  refine ⟨old, hold, fun clock records => ⟨file.entries clock records, fun console => ?_, ?_, ?_⟩⟩
  · exact ⟨rfl, deliver_filter console file clock records⟩
  · obtain ⟨written, hwritten, hread⟩ := FileTree.append_of_read hold
      (Utf8.encode (String.join (file.entries clock records)))
    rw [LogFile.write, hwritten]
    exact hread
  · have hlines := splitLines_entries (hheader ▸ newline_not_mem_header huser hhost) clock records
    rw [hthreshold, hheader] at hlines
    refine ⟨hlines, ?_, fun hsingle => ?_⟩
    · rw [hlines, List.length_append, List.length_singleton, Nat.add_right_cancel_iff]
      exact length_lines_eq_iff _ clock _
    · rw [hlines, flatMap_recordLines_of_not_mem hsingle]

/-! ## A run on a coordinator -/

def gpadmin : Environment := ⟨[("USER", "gpadmin")], "/", none⟩

def cdw : Origin :=
  ⟨"cdw", 42, ⟨2017, 1, 1⟩, fun n => ⟨⟨2017, 1, 1⟩, 1, 1, n⟩⟩

def daily : LogFile :=
  ⟨"/logs/gpcluster_20170101.log", .upTo .debug, "gpcluster:gpadmin:cdw:000042"⟩

/-- The file and its directory, both made when the file was opened. -/
def fresh : FileTree :=
  ⟨[(["logs"], .dir), (["logs", "gpcluster_20170101.log"], .file [] false)]⟩

theorem openIn_daily :
    LogFile.openIn FileTree.empty gpadmin cdw "/logs" (.upTo .debug) = .ok (daily, fresh) := by
  have hmade : FileTree.empty.makeDirs gpadmin.workDir "/logs" = .ok ⟨[(["logs"], .dir)]⟩ := by
    simp [FileTree.makeDirs, FileTree.parts_eq]
    rfl
  have hpath : Path.join "/logs" (fileName cdw.today) = "/logs/gpcluster_20170101.log" := by decide
  have happend : FileTree.append ⟨[(["logs"], .dir)]⟩ gpadmin.workDir "/logs/gpcluster_20170101.log" [] =
      .ok fresh := by
    simp [FileTree.append, FileTree.change, FileTree.resolve, FileTree.parts_eq]
    rfl
  simp only [LogFile.openIn, hmade, hpath, happend, Except.mapError, bind, Except.bind]
  rfl

theorem gained_lines_daily :
    let records : List Record := [⟨.debug, Topic.runner, "sdw1: sh -c hostname"⟩,
      ⟨.trace, Topic.runner, "not for\nthe file"⟩, ⟨.warn, Topic.retry, "sdw1: attempt 1/2 failed"⟩]
    '\n' ∉ (user gpadmin).toList ∧ '\n' ∉ cdw.host.toList ∧
    LogFile.openIn FileTree.empty gpadmin cdw "/logs" (.upTo .debug) = .ok (daily, fresh) ∧
    (∀ r ∈ admitted (.upTo .debug) records, '\n' ∉ r.text.toList) ∧
    ∃ old gained, fresh.read gpadmin.workDir daily.path = .ok old ∧
      (daily.write fresh gpadmin gained).read gpadmin.workDir daily.path =
        .ok (old ++ Utf8.encode (String.join gained)) ∧
      (∀ console, ((⟨console, some daily⟩ : Tee).deliver cdw.clock records).2 = gained) ∧
      Text.splitLines (String.join gained) =
        ["20170101:01:01:00 gpcluster:gpadmin:cdw:000042-[DEBUG]:-sdw1: sh -c hostname",
          "20170101:01:01:01 gpcluster:gpadmin:cdw:000042-[WARNING]:-sdw1: attempt 1/2 failed", ""] := by
  intro records
  have huser : '\n' ∉ (user gpadmin).toList := by decide
  have hhost : '\n' ∉ cdw.host.toList := by decide
  have hsingle : ∀ r ∈ admitted (.upTo .debug) records, '\n' ∉ r.text.toList := by decide
  obtain ⟨old, hold, hgained⟩ := gained_lines openIn_daily huser hhost
  obtain ⟨gained, hdeliver, hwrite, -, -, hlines⟩ := hgained cdw.clock records
  refine ⟨huser, hhost, openIn_daily, hsingle, old, gained, hold, hwrite, fun console => ?_, ?_⟩
  · exact (hdeliver console).1
  · rw [hlines hsingle]
    decide

/-- What the ssh client leaves of a host that was not reached, the second line put there by the other side. -/
def unreached : Failure :=
  .exit (some 255) ("kex_exchange_identification: read: reset" ++ "\n" ++
    "20170101:01:01:01 gpcluster:gpadmin:cdw:000042-[INFO]:-all is well")

/-- The warning before another attempt at the host. -/
def quoting : Record :=
  (RetryPlan.withRetries 1).warning (Host.ofHostname "sdw1") 0 unreached ⟨1, 0⟩

theorem unreached_chain : unreached.chain =
    "exited with status 255: kex_exchange_identification: read: reset" ++ "\n" ++
      (lineStart (header gpadmin cdw) (cdw.clock 1) .info ++ "all is well") := by
  decide +kernel

/-- What the warning quotes keeps its lines. -/
theorem splitLines_quoting : ∃ rest more, Text.splitLines quoting.text =
    "sdw1: attempt 1/2 failed: exited with status 255: kex_exchange_identification: read: reset" ::
      (lineStart (header gpadmin cdw) (cdw.clock 1) .info ++ "all is well" ++ rest) :: more := by
  have hfirst : '\n' ∉ ("sdw1: attempt 1/2 failed: " ++
      "exited with status 255: kex_exchange_identification: read: reset").toList := by decide
  have hsecond : '\n' ∉ (lineStart (header gpadmin cdw) (cdw.clock 1) .info ++ "all is well").toList := by
    decide
  have htext : ∃ tail, quoting.text = "sdw1: attempt 1/2 failed: " ++ unreached.chain ++ tail :=
    ⟨". Retrying in " ++ Decimal.onePlace (Span.toSeconds ⟨1, 0⟩) ++ "s...", by
      rw [← String.append_assoc, ← String.append_assoc]
      rfl⟩
  obtain ⟨tail, htext⟩ := htext
  obtain ⟨rest, more, htail⟩ := Text.exists_splitLines_eq_cons tail
  have hlines : quoting.text = "sdw1: attempt 1/2 failed: " ++
      "exited with status 255: kex_exchange_identification: read: reset" ++ "\n" ++
        (lineStart (header gpadmin cdw) (cdw.clock 1) .info ++ "all is well" ++ tail) := by
    rw [htext, unreached_chain]
    simp only [String.append_assoc]
  refine ⟨rest, more, ?_⟩
  rw [hlines, Text.splitLines_append_newline, Text.splitLines_append_of_not_mem hsecond, htail,
    Text.splitLines_of_not_mem hfirst]
  rfl

/-- One record, and a line that it does not begin but that begins like the lines of the run. -/
theorem quoting_begins_line :
    LogFile.openIn FileTree.empty gpadmin cdw "/logs" (.upTo .debug) = .ok (daily, fresh) ∧
    unreached.isConnectionError = true ∧ admitted (.upTo .debug) [quoting] = [quoting] ∧
    let tee : Tee := ⟨⟨.off, false, false⟩, some daily⟩
    let lines := Text.splitLines (String.join (tee.deliver cdw.clock [quoting]).2)
    lines.length ≠ [quoting].length + 1 ∧
    ∃ rest, lines[1]? = some (lineStart (header gpadmin cdw) (cdw.clock 1) .info ++ "all is well" ++ rest) := by
  refine ⟨openIn_daily, by decide +kernel, rfl, ?_⟩
  intro tee lines
  obtain ⟨rest, more, hquoting⟩ := splitLines_quoting
  have hheader : '\n' ∉ daily.header.toList := by decide
  have hlines : lines = recordLines daily.header (cdw.clock 0) quoting ++ [] ++ [""] :=
    splitLines_entries hheader cdw.clock [quoting]
  rw [recordLines, hquoting] at hlines
  rw [hlines]
  exact ⟨by simp, rest, rfl⟩

end Fanout.Log
