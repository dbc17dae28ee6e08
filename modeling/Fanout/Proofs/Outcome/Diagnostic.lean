import Fanout.Proofs.Outcome.Views
import Fanout.Proofs.Text.Lines
import Mathlib.Data.List.Forall2

/-!
# Reading a diagnostic

The diagnostic holds errors that come from elsewhere and may say anything over many lines. Still its text
alone tells which hosts failed and with what: an entry opens on each line with just two spaces in front, and
the lines of an error below its first one have four.
-/
namespace Fanout

/-! ## Entries -/

namespace Diagnostic

/-- An entry opens on a line: two spaces, and then something that is no space. -/
def opensEntry (line : String) : Bool :=
  match line.toList with
  | ' ' :: ' ' :: c :: _ => c != ' '
  | _ => false

theorem opensEntry_indented (line : String) : opensEntry ("    " ++ line) = false := by
  simp [opensEntry]

/-- The line on which an entry opens, and those below it up to the next entry. -/
structure Entry where
  head : String
  below : List String
  deriving DecidableEq

namespace Entry

def lines (e : Entry) : List String :=
  e.head :: e.below

/-- The entries that some lines hold. -/
def ofLines : List String → List Entry
  | [] => []
  | line :: lines =>
    if opensEntry line then ⟨line, lines.takeWhile (!opensEntry ·)⟩ :: ofLines lines
    else ofLines lines

/-- An entry gives the error of a host, with four spaces before all lines but the first. -/
def Tells (e : Entry) (id error : String) : Prop :=
  ∃ line lines, e.head = "  " ++ id ++ ": " ++ line ∧ e.below = lines.map ("    " ++ ·) ∧
    "\n".intercalate (line :: lines) = Text.trim error

/-- The head opens an entry, and what is below stands four spaces in. -/
def Sound (e : Entry) : Prop :=
  opensEntry e.head = true ∧ ∀ line ∈ e.below, ∃ rest, line = "    " ++ rest

theorem Sound.closed {e : Entry} (h : e.Sound) : ∀ line ∈ e.below, opensEntry line = false := by
  intro line hline
  obtain ⟨rest, rfl⟩ := h.2 line hline
  exact opensEntry_indented rest

theorem map_head_ofLines (lines : List String) :
    (ofLines lines).map head = lines.filter opensEntry := by
  induction lines with
  | nil => rfl
  | cons line lines ih => cases h : opensEntry line <;> simp [ofLines, h, ih]

theorem ofLines_append {below : List String} (h : ∀ line ∈ below, opensEntry line = false)
    (lines : List String) : ofLines (below ++ lines) = ofLines lines := by
  induction below with
  | nil => rfl
  | cons line below ih =>
      obtain ⟨hline, hbelow⟩ := List.forall_mem_cons.mp h
      simp [ofLines, hline, ih hbelow]

theorem takeWhile_flatMap {es : List Entry} (h : ∀ e ∈ es, opensEntry e.head = true) :
    (es.flatMap lines).takeWhile (!opensEntry ·) = [] := by
  cases es with
  | nil => rfl
  | cons e es => simp [lines, h e List.mem_cons_self]

/-- Entries are read back from their lines if none opens below a head. -/
theorem ofLines_flatMap_of_closed {es : List Entry} (hopens : ∀ e ∈ es, opensEntry e.head = true)
    (hclosed : ∀ e ∈ es, ∀ line ∈ e.below, opensEntry line = false) :
    ofLines (es.flatMap lines) = es := by
  induction es with
  | nil => rfl
  | cons e es ih =>
      obtain ⟨he, hes⟩ := List.forall_mem_cons.mp hopens
      obtain ⟨hbelow, hrest⟩ := List.forall_mem_cons.mp hclosed
      have htake : (e.below ++ es.flatMap lines).takeWhile (!opensEntry ·) = e.below := by
        rw [List.takeWhile_append_of_pos (by simpa using hbelow), takeWhile_flatMap hes,
          List.append_nil]
      rw [List.flatMap_cons, lines, List.cons_append, ofLines, if_pos he, htake,
        ofLines_append hbelow, ih hes hrest]

/-- The entries are read back from their lines. -/
theorem ofLines_flatMap {es : List Entry} (h : ∀ e ∈ es, e.Sound) :
    ofLines (es.flatMap lines) = es :=
  ofLines_flatMap_of_closed (fun e he => (h e he).1) fun e he => (h e he).closed

end Entry

theorem opensEntry_host {id : String} (h : id.toList.head? ≠ some ' ') (line : String) :
    opensEntry ("  " ++ id ++ ": " ++ line) = true := by
  cases hid : id.toList with
  | nil => simp [opensEntry, hid]
  | cons c cs =>
      have hc : c ≠ ' ' := by simpa [hid] using h
      simp [opensEntry, hid, hc]

/-! ## What a diagnostic is made of -/

/-- The entry of a host that failed. -/
def hostEntry (id error : String) : Entry :=
  ⟨"  " ++ id ++ ": " ++ (Text.splitLines (Text.trim error)).headD "",
    (Text.splitLines (Text.trim error)).tail.map ("    " ++ ·)⟩

theorem hostEntry_tells (id error : String) : (hostEntry id error).Tells id error := by
  obtain ⟨line, lines, h⟩ := Text.exists_splitLines_eq_cons (Text.trim error)
  refine ⟨line, lines, ?_, ?_, ?_⟩
  · rw [hostEntry, h, List.headD_cons]
  · rw [hostEntry, h, List.tail_cons]
  · rw [← h, Text.intercalate_splitLines]

theorem hostEntry_sound {id : String} (h : id.toList.head? ≠ some ' ') (error : String) :
    (hostEntry id error).Sound := by
  refine ⟨opensEntry_host h _, fun line hline => ?_⟩
  simp only [hostEntry, List.mem_map] at hline
  obtain ⟨rest, -, rfl⟩ := hline
  exact ⟨rest, rfl⟩

/-- What is written of a host that failed is its entry, a line at a time. -/
theorem join_hostEntry (id error : String) : "\n  " ++ id ++ ": " ++ diagnosticError error =
    String.join ((hostEntry id error).lines.map ("\n" ++ ·)) := by
  obtain ⟨line, lines, h⟩ := Text.exists_splitLines_eq_cons (Text.trim error)
  have hpad : String.ofList (List.replicate 4 ' ') = "    " := by decide
  have hhead : "\n  " = "\n" ++ "  " := by decide
  have hhang : diagnosticError error =
      line ++ String.join ((lines.map ("    " ++ ·)).map ("\n" ++ ·)) := by
    rw [diagnosticError, Text.hang_eq, hpad, h, Text.intercalate_append, Text.intercalate_cons]
  rw [hhang, hhead, Entry.lines, hostEntry, h, List.headD_cons, List.tail_cons, List.map_cons,
    String.join_cons]
  simp only [String.append_assoc]

theorem newline_not_mem_hostEntry {id line : String} (hid : '\n' ∉ id.toList) (error : String)
    (h : line ∈ (hostEntry id error).lines) : '\n' ∉ line.toList := by
  obtain ⟨first, rest, hsplit⟩ := Text.exists_splitLines_eq_cons (Text.trim error)
  have hnone : ∀ l ∈ first :: rest, '\n' ∉ l.toList := by
    rw [← hsplit]
    exact fun l hl => Text.newline_not_mem hl
  obtain ⟨hfirst, hrest⟩ := List.forall_mem_cons.mp hnone
  rw [Entry.lines, hostEntry, hsplit, List.headD_cons, List.tail_cons] at h
  rcases List.mem_cons.mp h with rfl | h
  · simp [hid, hfirst]
  · obtain ⟨l, hl, rfl⟩ := List.mem_map.mp h
    simp [hrest l hl]

end Diagnostic

namespace Outcomes

open Diagnostic

/-- The entry of the hosts that never ran, if there are any. -/
def neverRan (m : Outcomes) : List Entry :=
  if m.cancelled = [] then []
  else [⟨"  not attempted (dispatch cancelled): " ++ ", ".intercalate m.cancelled, []⟩]

def diagnosticEntries (m : Outcomes) : List Entry :=
  m.failed.map (fun e => hostEntry e.1 e.2) ++ m.neverRan

def diagnosticHead (m : Outcomes) : String :=
  s!"{m.summary.failures} of {m.summary.total} hosts failed"

variable {m : Outcomes}

theorem join_neverRan (m : Outcomes) :
    (if m.cancelled.isEmpty then ""
      else "\n  not attempted (dispatch cancelled): " ++ ", ".intercalate m.cancelled) =
      String.join ((m.neverRan.flatMap Entry.lines).map ("\n" ++ ·)) := by
  have hhead : "\n  not attempted (dispatch cancelled): " =
      "\n" ++ "  not attempted (dispatch cancelled): " := by decide
  rw [neverRan]
  cases m.cancelled with
  | nil => rfl
  | cons id ids =>
      simp only [Entry.lines, reduceCtorEq, List.isEmpty_cons, Bool.false_eq_true, if_false,
        List.flatMap_singleton, List.map_cons, List.map_nil, String.join_cons, String.join_nil,
        String.append_empty]
      rw [hhead, String.append_assoc]

/-- The diagnostic is its head and its entries, a line at a time. -/
theorem diagnostic?_eq (h : m.summary.isSuccess = false) : m.diagnostic? =
    some ("\n".intercalate (m.diagnosticHead :: m.diagnosticEntries.flatMap Entry.lines)) := by
  have hfailed : String.join (m.failed.map fun e => "\n  " ++ e.1 ++ ": " ++ diagnosticError e.2) =
      String.join ((m.failed.flatMap fun e => (hostEntry e.1 e.2).lines).map ("\n" ++ ·)) := by
    simp only [join_hostEntry]
    induction m.failed with
    | nil => rfl
    | cons e es ih => simp [ih]
  rw [Text.intercalate_cons, diagnosticEntries, List.flatMap_append, List.map_append, String.join_append,
    List.flatMap_map, ← hfailed, ← join_neverRan]
  simp [diagnostic?, h, diagnosticHead, String.append_assoc]

theorem diagnosticEntries_sound (h : ∀ id ∈ m.ids, id.toList.head? ≠ some ' ') :
    ∀ e ∈ m.diagnosticEntries, e.Sound := by
  intro e he
  rcases List.mem_append.mp he with he | he
  · obtain ⟨⟨id, error⟩, hmem, rfl⟩ := List.mem_map.mp he
    exact hostEntry_sound (h id (m.failed_ids_sublist.subset (List.mem_map_of_mem hmem))) error
  · rw [neverRan] at he
    split at he
    · cases he
    · obtain rfl := List.mem_singleton.mp he
      exact ⟨by simp [opensEntry], by simp⟩

/-- A count of hosts stands on one line. -/
theorem newline_not_mem_count (n k : Nat) {words : String} (h : '\n' ∉ words.toList) :
    '\n' ∉ (toString n ++ " of " ++ toString k ++ words).toList := by
  have hnum : ∀ n : Nat, '\n' ∉ (toString n).toList := Text.not_mem_toString (by decide)
  simp only [String.toList_append, List.mem_append, not_or]
  exact ⟨⟨⟨hnum n, by decide⟩, hnum k⟩, h⟩

theorem newline_not_mem_diagnostic (h : ∀ id ∈ m.ids, '\n' ∉ id.toList) :
    ∀ line ∈ m.diagnosticHead :: m.diagnosticEntries.flatMap Entry.lines, '\n' ∉ line.toList := by
  refine List.forall_mem_cons.mpr ⟨newline_not_mem_count _ _ (by decide), fun line hline => ?_⟩
  · obtain ⟨e, he, hline⟩ := List.mem_flatMap.mp hline
    rcases List.mem_append.mp he with he | he
    · obtain ⟨⟨id, error⟩, hmem, rfl⟩ := List.mem_map.mp he
      have hid := h id (m.failed_ids_sublist.subset (List.mem_map_of_mem hmem))
      exact newline_not_mem_hostEntry hid error hline
    · rw [neverRan] at he
      split at he
      · cases he
      · obtain rfl := List.mem_singleton.mp he
        obtain rfl := List.mem_singleton.mp hline
        have hids : '\n' ∉ (", ".intercalate m.cancelled).toList :=
          Text.not_mem_intercalate (by decide) fun id hid => h id (m.cancelled_sublist.subset hid)
        rw [String.toList_append, List.mem_append, not_or]
        exact ⟨by decide, hids⟩

/-- The lines of a diagnostic: the count, and the entries one after the other. -/
theorem exists_diagnostic_lines (hfail : m.summary.isSuccess = false)
    (hids : ∀ id ∈ m.ids, '\n' ∉ id.toList) : ∃ text, m.diagnostic? = some text ∧
      Text.splitLines text = s!"{m.failed.length + m.cancelled.length} of {m.size} hosts failed" ::
        m.diagnosticEntries.flatMap Entry.lines := by
  refine ⟨_, diagnostic?_eq hfail, ?_⟩
  rw [Text.splitLines_intercalate (List.cons_ne_nil _ _) (newline_not_mem_diagnostic hids),
    diagnosticHead, total_summary, Summary.failures, summary_eq_lengths]

/-- The text of a diagnostic says which hosts failed, each with its whole error, and which never ran. -/
theorem diagnostic_readable (m : Outcomes) (hbad : ∃ id o, m.get? id = some o ∧ o.isSuccess = false)
    (hids : ∀ id ∈ m.ids, '\n' ∉ id.toList ∧ id.toList.head? ≠ some ' ') :
    m.Dealt ∧ ∃ text lines told, m.diagnostic? = some text ∧
      Text.splitLines text =
        s!"{m.failed.length + m.cancelled.length} of {m.size} hosts failed" :: lines ∧
      List.Forall₂ (fun e entry => Entry.Tells entry e.1 e.2) m.failed told ∧
      lines.filter opensEntry = (told ++ m.neverRan).map Entry.head ∧
      Entry.ofLines lines = told ++ m.neverRan ∧
      (Entry.ofLines lines).flatMap Entry.lines = lines ∧
      ∀ line ∈ lines, opensEntry line = false → ∃ rest, line = "    " ++ rest := by
  have hfail : m.summary.isSuccess = false := by
    rw [← Bool.not_eq_true, isSuccess_iff_forall]
    obtain ⟨id, o, ho, hno⟩ := hbad
    exact fun hall => Bool.false_ne_true (hno.symm.trans (hall id o ho))
  have hsound : ∀ e ∈ m.diagnosticEntries, e.Sound :=
    diagnosticEntries_sound fun id hid => (hids id hid).2
  have hread := Entry.ofLines_flatMap hsound
  obtain ⟨text, hdiagnostic, htext⟩ := exists_diagnostic_lines hfail fun id hid => (hids id hid).1
  have htold : List.Forall₂ (fun e entry => Entry.Tells entry e.1 e.2) m.failed
      (m.failed.map fun e => hostEntry e.1 e.2) := by
    rw [List.forall₂_map_right_iff, List.forall₂_same]
    exact fun e _ => hostEntry_tells e.1 e.2
  have hheads := Entry.map_head_ofLines (m.diagnosticEntries.flatMap Entry.lines)
  have hindented : ∀ line ∈ m.diagnosticEntries.flatMap Entry.lines, opensEntry line = false →
      ∃ rest, line = "    " ++ rest := by
    intro line hline hopens
    obtain ⟨e, he, hline⟩ := List.mem_flatMap.mp hline
    rcases List.mem_cons.mp hline with rfl | hbelow
    · exact absurd (hsound e he).1 (by simp [hopens])
    · exact (hsound e he).2 line hbelow
  refine ⟨m.dealt, text, _, _, hdiagnostic, htext, htold, ?_, ?_, ?_, hindented⟩
  · rw [← hheads, hread, diagnosticEntries]
  · rw [hread, diagnosticEntries]
  · rw [hread]

/-- The error of the first host has a line that reads like an entry, and blank lines around it. -/
def misleading : Outcomes :=
  ⟨[("sdw1", .failed "\nboom\n\n  sdw9: disk full\n"), ("sdw2", .cancelled)], by
    unfold Ascending; decide⟩

theorem diagnostic_readable_misleading :
    (∃ id o, misleading.get? id = some o ∧ o.isSuccess = false) ∧
    (∀ id ∈ misleading.ids, '\n' ∉ id.toList ∧ id.toList.head? ≠ some ' ') ∧
    ∃ text lines entry, misleading.diagnostic? = some text ∧
      Text.splitLines text = "2 of 2 hosts failed" :: lines ∧
      entry.Tells "sdw1" "\nboom\n\n  sdw9: disk full\n" ∧
      Entry.ofLines lines = [entry, ⟨"  not attempted (dispatch cancelled): sdw2", []⟩] := by
  have hbad : ∃ id o, misleading.get? id = some o ∧ o.isSuccess = false :=
    ⟨"sdw2", .cancelled, by decide, rfl⟩
  have hids : ∀ id ∈ misleading.ids, '\n' ∉ id.toList ∧ id.toList.head? ≠ some ' ' := by decide
  obtain ⟨-, text, lines, told, htext, hlines, htold, -, hentries, -⟩ :=
    diagnostic_readable misleading hbad hids
  have hfailed : misleading.failed = [("sdw1", "\nboom\n\n  sdw9: disk full\n")] := rfl
  have hnever : misleading.neverRan = [⟨"  not attempted (dispatch cancelled): sdw2", []⟩] := by decide
  rw [hfailed] at htold
  rw [hnever] at hentries
  cases htold with
  | cons htells hnil =>
      cases hnil
      exact ⟨hbad, hids, text, lines, _, htext, hlines, htells, hentries⟩

end Outcomes

end Fanout
