import Fanout.Console.Outcomes
import Fanout.Proofs.Outcome.Diagnostic

/-!
# No host speaks for another

What hosts wrote may hold any lines, also such as are printed for hosts. Every line of it that is not empty
stands six spaces in, and the line of a host two. So the lines between heading and counts divide into one
block per host, in the order of the set, each block gives back what its host wrote, and the numbers that are
told are those of the marks.
-/
namespace Fanout.Console

open Diagnostic (Entry opensEntry)

variable {hosts : HostSet} {m : Outcomes} {id : String}

/-! ## Indented lines -/

/-- A line six spaces in, unless it is empty. -/
def indentLine (line : String) : String :=
  if line.isEmpty then line else "      " ++ line

/-- A line without the six characters in front. -/
def outdent (line : String) : String :=
  String.ofList (line.toList.drop 6)

theorem indentLine_of_ne {line : String} (h : line ≠ "") : indentLine line = "      " ++ line := by
  rw [indentLine, if_neg (by simpa [String.isEmpty_iff] using h)]

theorem outdent_indentLine (line : String) : outdent (indentLine line) = line := by
  by_cases h : line = ""
  · subst h
    decide
  · rw [indentLine_of_ne h, outdent, String.toList_append]
    exact String.ofList_toList

theorem indentLine_cases (line : String) :
    indentLine line = "" ∨ ∃ rest, indentLine line = "      " ++ rest := by
  by_cases h : line = ""
  · subst h
    exact .inl rfl
  · exact .inr ⟨line, indentLine_of_ne h⟩

theorem newline_not_mem_indentLine {line : String} (h : '\n' ∉ line.toList) :
    '\n' ∉ (indentLine line).toList := by
  unfold indentLine
  split
  · exact h
  · simpa using h

theorem indent_eq (s : String) :
    Text.indent textIndent s = "\n".intercalate ((Text.lines s).map indentLine) := by
  rfl

theorem splitLines_indent {s : String} (h : s ≠ "") :
    Text.splitLines (Text.indent textIndent s) = (Text.lines s).map indentLine := by
  rw [indent_eq]
  apply Text.splitLines_intercalate
  · simpa [Text.lines_eq_nil_iff] using h
  · intro line hline
    obtain ⟨l, hl, rfl⟩ := List.mem_map.mp hline
    exact newline_not_mem_indentLine (Text.newline_not_mem_lines hl)

/-! ## The block of a host -/

/-- What stands in front of the id of a host. -/
def mark : Outcome → String
  | .success _ => "  ✓ "
  | .failed _ => "  ✗ "
  | .cancelled => "  - "

/-- The sign in a mark. -/
def sign : Outcome → Char
  | .success _ => '✓'
  | .failed _ => '✗'
  | .cancelled => '-'

theorem toList_mark (o : Outcome) : (mark o).toList = [' ', ' ', sign o, ' '] := by
  cases o <;> simp only [mark, sign] <;> decide

theorem sign_ne_space (o : Outcome) : sign o ≠ ' ' := by
  cases o <;> simp [sign]

/-- The line of a host: two spaces, the mark of its outcome and its id. -/
def markerLine (id : String) (o : Outcome) : String :=
  mark o ++ id ++ if o.isCancelled then " (not attempted)" else ""

/-- The lines that are told of a host. -/
def toldLines : Outcome → List String
  | .success output => if Text.isBlankText output then [] else Text.lines output
  | .failed error => if error = "" then [""] else Text.lines error
  | .cancelled => []

/-- The lines printed for one host. -/
def block (id : String) (o : Outcome) : Entry :=
  ⟨markerLine id o, (toldLines o).map indentLine⟩

/-- A block shows a host: below the line of the host are lines that are empty or stand six spaces in, and
that give back what is told of it. -/
structure Shows (id : String) (o : Outcome) (e : Entry) : Prop where
  head : e.head = markerLine id o
  indented : ∀ line ∈ e.below, line = "" ∨ ∃ rest, line = "      " ++ rest
  told : e.below.map outdent = toldLines o

theorem shows_block (id : String) (o : Outcome) : Shows id o (block id o) where
  head := rfl
  indented := by
    intro line hline
    obtain ⟨l, -, rfl⟩ := List.mem_map.mp hline
    exact indentLine_cases l
  told := by
    rw [block, List.map_map]
    exact List.map_id'' outdent_indentLine _

theorem newline_not_mem_markerLine (hid : '\n' ∉ id.toList) (o : Outcome) :
    '\n' ∉ (markerLine id o).toList := by
  cases o <;> simpa [markerLine, mark, Outcome.isCancelled] using hid

theorem toList_markerLine (id : String) (o : Outcome) : ∃ rest,
    (markerLine id o).toList = ' ' :: ' ' :: sign o :: ' ' :: rest := by
  rw [markerLine, String.append_assoc, String.toList_append, toList_mark]
  exact ⟨_, rfl⟩

/-- What is printed below the line of a host. -/
def toldText : Outcome → String
  | .success output => if Text.isBlankText output then "" else line (Text.indent textIndent output)
  | .failed error => line (Text.indent textIndent error)
  | .cancelled => ""

theorem hostLines_eq (id : String) (o : Outcome) :
    hostLines false id o = markerLine id o ++ "\n" ++ toldText o := by
  have hnote : " " ++ "(not attempted)" = " (not attempted)" := by decide
  cases o <;> simp [hostLines, toldText, markerLine, mark, Outcome.isCancelled, paint, line,
    String.append_assoc, ← hnote]

theorem splitLines_toldText (o : Outcome) (rest : String) : Text.splitLines (toldText o ++ rest) =
    (toldLines o).map indentLine ++ Text.splitLines rest := by
  cases o with
  | success output =>
      by_cases hblank : Text.isBlankText output = true
      · simp [toldText, toldLines, hblank]
      · have hne : output ≠ "" := by
          rintro rfl
          exact hblank rfl
        rw [toldText, toldLines, if_neg hblank, if_neg hblank, line, Text.splitLines_append_newline,
          splitLines_indent hne]
  | failed error =>
      rw [toldText, toldLines, line, Text.splitLines_append_newline]
      by_cases hempty : error = ""
      · subst hempty
        rfl
      · rw [if_neg hempty, splitLines_indent hempty]
  | cancelled => simp [toldText, toldLines]

/-- Printing a host and then something else puts the block of the host before the lines of the rest. -/
theorem splitLines_hostLines (hid : '\n' ∉ id.toList) (o : Outcome) (rest : String) :
    Text.splitLines (hostLines false id o ++ rest) = (block id o).lines ++ Text.splitLines rest := by
  have hmarker := Text.splitLines_of_not_mem (newline_not_mem_markerLine hid o)
  rw [hostLines_eq, String.append_assoc, Text.splitLines_append_newline, hmarker, splitLines_toldText]
  rfl

/-! ## One block per host -/

/-- The outcomes of some hosts, in the order of the hosts. -/
def inOrder (ids : List String) (m : Outcomes) : List (String × Outcome) :=
  ids.filterMap fun id => (m.get? id).map fun o => (id, o)

/-- The blocks of some hosts. -/
def blocks (ids : List String) (m : Outcomes) : List Entry :=
  (inOrder ids m).map fun e => block e.1 e.2

theorem inOrder_cons (id : String) (ids : List String) (m : Outcomes) : inOrder (id :: ids) m =
    ((m.get? id).map fun o => (id, o)).toList ++ inOrder ids m := by
  cases h : m.get? id <;> simp [inOrder, h]

theorem splitLines_body {ids : List String} (hids : ∀ id ∈ ids, '\n' ∉ id.toList) (m : Outcomes) :
    Text.splitLines (String.join (ids.filterMap fun id => (m.get? id).map (hostLines false id))) =
      (blocks ids m).flatMap Entry.lines ++ [""] := by
  induction ids with
  | nil => rfl
  | cons id ids ih =>
      obtain ⟨hid, hids⟩ := List.forall_mem_cons.mp hids
      rw [blocks, inOrder_cons, List.filterMap_cons]
      cases m.get? id with
      | none => exact ih hids
      | some o =>
          rw [Option.map_some, String.join_cons, splitLines_hostLines hid o, ih hids]
          simp [blocks]

theorem forall₂_blocks {hs : List Host} (h : ∀ x ∈ hs, ∃ o, m.get? x.id = some o) :
    List.Forall₂ (fun x e => ∃ o, m.get? x.id = some o ∧ Shows x.id o e) hs
      (blocks (hs.map Host.id) m) := by
  induction hs with
  | nil => exact .nil
  | cons x hs ih =>
      obtain ⟨⟨o, ho⟩, hs⟩ := List.forall_mem_cons.mp h
      rw [blocks, List.map_cons, inOrder_cons, ho]
      exact .cons ⟨o, ho, shows_block x.id o⟩ (ih hs)

/-! ## Only the line of a host opens a block -/

theorem opensEntry_markerLine (id : String) (o : Outcome) : opensEntry (markerLine id o) = true := by
  obtain ⟨rest, h⟩ := toList_markerLine id o
  simp [opensEntry, h, sign_ne_space]

theorem Shows.closed {o : Outcome} {e : Entry} (h : Shows id o e) :
    ∀ line ∈ e.below, opensEntry line = false := by
  intro line hline
  rcases h.indented line hline with rfl | ⟨rest, rfl⟩
  · rfl
  · simp [opensEntry]

theorem ofLines_blocks (ids : List String) (m : Outcomes) :
    Entry.ofLines ((blocks ids m).flatMap Entry.lines) = blocks ids m := by
  apply Entry.ofLines_flatMap_of_closed
  · intro e he
    obtain ⟨⟨id, o⟩, -, rfl⟩ := List.mem_map.mp he
    exact opensEntry_markerLine id o
  · intro e he
    obtain ⟨⟨id, o⟩, -, rfl⟩ := List.mem_map.mp he
    exact (shows_block id o).closed

/-! ## Counting marks -/

theorem startsWith_markerLine (k o : Outcome) (id : String) :
    Text.startsWith (markerLine id o) (mark k) = (sign k == sign o) := by
  obtain ⟨rest, h⟩ := toList_markerLine id o
  simp [Text.startsWith, h, toList_mark, List.isPrefixOf]

theorem Shows.startsWith_below {o : Outcome} {e : Entry} (h : Shows id o e) (k : Outcome) :
    ∀ line ∈ e.below, Text.startsWith line (mark k) = false := by
  intro line hline
  rcases h.indented line hline with rfl | ⟨rest, rfl⟩
  · simp [Text.startsWith, toList_mark]
  · simp [Text.startsWith, toList_mark, List.isPrefixOf, sign_ne_space]

/-- In a block the mark of its outcome stands once, and no other. -/
theorem countP_block (k o : Outcome) (id : String) :
    (block id o).lines.countP (Text.startsWith · (mark k)) = if sign k == sign o then 1 else 0 := by
  have hbelow : (block id o).below.countP (Text.startsWith · (mark k)) = 0 := by
    rw [List.countP_eq_zero]
    intro line hline
    simpa using (shows_block id o).startsWith_below k line hline
  have hhead : Text.startsWith (block id o).head (mark k) = (sign k == sign o) :=
    startsWith_markerLine k o id
  rw [Entry.lines, List.countP_cons, hbelow, hhead, Nat.zero_add]

theorem countP_blocks (k : Outcome) (ids : List String) (m : Outcomes) :
    ((blocks ids m).flatMap Entry.lines).countP (Text.startsWith · (mark k)) =
      (inOrder ids m).countP fun e => sign k == sign e.2 := by
  rw [blocks]
  induction inOrder ids m with
  | nil => rfl
  | cons e es ih =>
      rw [List.map_cons, List.flatMap_cons, List.countP_append, ih, countP_block, List.countP_cons,
        Nat.add_comm]

theorem inOrder_self (m : Outcomes) : inOrder m.ids m = m.entries := by
  have hget : ∀ e ∈ m.entries, (m.get? e.1).map (fun o => (e.1, o)) = some e := by
    intro e he
    rw [Outcomes.get?_eq_some_iff.mpr he]
    rfl
  rw [inOrder, Outcomes.ids, List.filterMap_map]
  exact (List.filterMap_congr hget).trans List.filterMap_some

/-- Taken in the order of the hosts, the outcomes of a dispatch are those of its result. -/
theorem inOrder_perm {ids : List String} (h : m.ids.Perm ids) : (inOrder ids m).Perm m.entries := by
  rw [← inOrder_self m]
  exact (h.filterMap _).symm

theorem summary_eq_countP {ids : List String} (h : m.ids.Perm ids) :
    let lines := (blocks ids m).flatMap Entry.lines
    m.summary = ⟨lines.countP (Text.startsWith · "  ✓ "), lines.countP (Text.startsWith · "  ✗ "),
      lines.countP (Text.startsWith · "  - ")⟩ := by
  intro lines
  have hcount (k : Outcome) : lines.countP (Text.startsWith · (mark k)) =
      m.entries.countP fun e => sign k == sign e.2 := by
    rw [countP_blocks, (inOrder_perm h).countP_eq]
  have hsuccess : lines.countP (Text.startsWith · "  ✓ ") = m.entries.countP (·.2.isSuccess) := by
    refine (hcount (.success "")).trans (List.countP_congr fun e _ => ?_)
    cases e.2 <;> simp [sign, Outcome.isSuccess]
  have hfailed : lines.countP (Text.startsWith · "  ✗ ") = m.entries.countP (·.2.error?.isSome) := by
    refine (hcount (.failed "")).trans (List.countP_congr fun e _ => ?_)
    cases e.2 <;> simp [sign, Outcome.error?]
  have hcancelled : lines.countP (Text.startsWith · "  - ") = m.entries.countP (·.2.isCancelled) := by
    refine (hcount .cancelled).trans (List.countP_congr fun e _ => ?_)
    cases e.2 <;> simp [sign, Outcome.isCancelled]
  rw [m.summary_eq, hsuccess, hfailed, hcancelled]

/-! ## Around the hosts -/

/-- The lines above the hosts: an empty one, the label, and a rule as long as the label. -/
def headingLines (label : String) : List String :=
  ["", label, String.ofList (List.replicate label.length '─')]

/-- The lines that tell the counts: one line if every host did well, else one for each kind, where the
hosts that were not attempted have a line only if there are such. -/
def countLines (succeeded failed leftOut : Nat) : List String :=
  if failed = 0 ∧ leftOut = 0 then
    ["✓ " ++ toString succeeded ++ (if succeeded = 1 then " host" else " hosts") ++ " succeeded"]
  else
    ["  Succeeded: " ++ toString succeeded, "  Failed: " ++ toString failed] ++
      if leftOut = 0 then [] else ["  Not attempted: " ++ toString leftOut]

theorem header_eq (label : String) :
    header false label = String.join ((headingLines label).map (· ++ "\n")) := by
  simp [header, headingLines, line, paint, String.join_cons, String.append_assoc]

theorem summaryLines_eq (succeeded failed leftOut : Nat) :
    summaryLines false ⟨succeeded, failed, leftOut⟩ =
      String.join ((countLines succeeded failed leftOut).map (· ++ "\n")) := by
  have hwell : Summary.isSuccess ⟨succeeded, failed, leftOut⟩ = true ↔ failed = 0 ∧ leftOut = 0 := by
    simp [Summary.isSuccess, Summary.failures]
  rw [summaryLines, countLines]
  by_cases h : failed = 0 ∧ leftOut = 0
  · obtain ⟨rfl, rfl⟩ := h
    have hcount : Text.count succeeded "host" =
        toString succeeded ++ if succeeded = 1 then " host" else " hosts" := by
      rw [Text.count]
      split <;> simp only [String.append_assoc] <;> rfl
    rw [if_pos (hwell.mpr ⟨rfl, rfl⟩), if_pos ⟨rfl, rfl⟩]
    simp [success, line, paint, hcount, Summary.total, String.append_assoc]
  · rw [if_neg (mt hwell.mp h), if_neg h]
    by_cases hnone : leftOut = 0 <;>
      simp [pair, line, paint, hnone, Nat.pos_iff_ne_zero, String.append_assoc]

/-! ## The outcomes of a dispatch -/

/-- Between heading and counts stands one block per host, in the order of the set. From the lines alone the
blocks are told apart, each gives back what its host wrote, and the numbers told are those of the marks. -/
theorem hosts_told_apart (hosts : HostSet) (m : Outcomes) (label : String)
    (hids : ∀ id ∈ hosts.ids, '\n' ∉ id.toList) (hover : m.ids.Perm hosts.ids) :
    (hosts.isEmpty = true → outcomes false hosts m label = "⚠ No hosts selected\n") ∧
    (hosts.isEmpty = false → ∃ body entries,
      let lines := entries.flatMap Entry.lines
      let marked (mark : String) := lines.countP (Text.startsWith · mark)
      let counts := countLines (marked "  ✓ ") (marked "  ✗ ") (marked "  - ")
      outcomes false hosts m label = String.join ((headingLines label).map (· ++ "\n")) ++ body ++
        String.join (("" :: counts).map (· ++ "\n")) ∧
      m.summary = ⟨marked "  ✓ ", marked "  ✗ ", marked "  - "⟩ ∧
      Text.splitLines body = lines ++ [""] ∧
      List.Forall₂ (fun h e => ∃ o, m.get? h.id = some o ∧ Shows h.id o e) hosts.hosts entries ∧
      Entry.ofLines lines = entries) := by
  refine ⟨fun hempty => ?_, fun hsome => ?_⟩
  · rw [outcomes, if_pos hempty]
    decide
  · have hsummary := summary_eq_countP hover
    refine ⟨bodyLines false hosts m, blocks hosts.ids m, ?_, hsummary, splitLines_body hids m, ?_,
      ofLines_blocks hosts.ids m⟩
    · rw [outcomes, hsome, if_neg Bool.false_ne_true, hsummary, header_eq, summaryLines_eq, List.map_cons,
        String.join_cons, ← String.append_assoc]
      rfl
    · apply forall₂_blocks
      intro h hmem
      exact Outcomes.mem_ids_iff.mp (hover.mem_iff.mpr (List.mem_map_of_mem hmem))

/-- Three hosts, not in the order of their ids. -/
def trio : HostSet :=
  ⟨[Host.ofHostname "sdw2", Host.ofHostname "sdw1", Host.ofHostname "sdw3"], by decide⟩

/-- Two of them write lines that read like those of another. -/
def forgery : Outcomes :=
  ⟨[("sdw1", .success " \n  ✓ sdw3\r\n"), ("sdw2", .failed "\n  - sdw1 (not attempted)"),
    ("sdw3", .cancelled)], by unfold Ascending; decide⟩

/-- All three are well, and one of them has nothing to say. -/
def calm : Outcomes :=
  ⟨[("sdw1", .success "up"), ("sdw2", .success "✗ sdw1"), ("sdw3", .success " \n")],
    by unfold Ascending; decide⟩

theorem hosts_told_apart_forgery :
    (∀ id ∈ trio.ids, '\n' ∉ id.toList) ∧ forgery.ids.Perm trio.ids ∧ trio.isEmpty = false ∧
    (∃ body e₁ e₂ e₃,
      outcomes false trio forgery "check" =
        "\ncheck\n─────\n" ++ body ++ "\n  Succeeded: 1\n  Failed: 1\n  Not attempted: 1\n" ∧
      Text.splitLines body = (e₁.lines ++ e₂.lines ++ e₃.lines) ++ [""] ∧
      Shows "sdw2" (.failed "\n  - sdw1 (not attempted)") e₁ ∧
      Shows "sdw1" (.success " \n  ✓ sdw3\r\n") e₂ ∧ Shows "sdw3" .cancelled e₃ ∧
      Entry.ofLines (e₁.lines ++ e₂.lines ++ e₃.lines) = [e₁, e₂, e₃]) ∧
    outcomes false trio forgery "check" =
      "\ncheck\n─────\n  ✗ sdw2\n\n        - sdw1 (not attempted)\n" ++
      "  ✓ sdw1\n       \n        ✓ sdw3\n  - sdw3 (not attempted)\n" ++
      "\n  Succeeded: 1\n  Failed: 1\n  Not attempted: 1\n" ∧
    outcomes false trio calm "check" =
      "\ncheck\n─────\n  ✓ sdw2\n      ✗ sdw1\n  ✓ sdw1\n      up\n  ✓ sdw3\n" ++
      "\n✓ 3 hosts succeeded\n" := by
  have hids : ∀ id ∈ trio.ids, '\n' ∉ id.toList := by decide
  have hover : forgery.ids.Perm trio.ids := by decide
  obtain ⟨body, entries, htext, hsummary, hbody, hshown, hread⟩ :=
    (hosts_told_apart trio forgery "check" hids hover).2 rfl
  obtain ⟨hsuccess, hfailed, hleft⟩ := Summary.mk.inj (Eq.symm hsummary)
  simp only [hsuccess, hfailed, hleft] at htext
  rcases hshown with _ | ⟨⟨o₁, ho₁, h₁⟩, _ | ⟨⟨o₂, ho₂, h₂⟩, _ | ⟨⟨o₃, ho₃, h₃⟩, ⟨⟩⟩⟩⟩
  cases ho₁
  cases ho₂
  cases ho₃
  refine ⟨hids, hover, rfl, ⟨body, _, _, _, htext, ?_, h₁, h₂, h₃, ?_⟩, by decide +kernel,
    by decide +kernel⟩
  · rw [hbody]
    simp
  · simpa using hread

end Fanout.Console
