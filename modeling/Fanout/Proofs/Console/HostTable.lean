import Fanout.Console.HostTable
import Fanout.Proofs.Text.Lines
import Mathlib.Data.List.Forall2

/-!
# The columns of the table of hosts

A row consists of its cells with spaces between them, and the row says where each cell stands. The column of
ids is at least as wide as any id has characters, so all roles start at one place. The column of content ids
has three places; a content id that needs more moves the end of its column in its own row, and the data
directory behind it.
-/
namespace Fanout.Console

variable {h : Host}

/-! ## Spaces -/

def spaces (n : Nat) : String :=
  String.ofList (List.replicate n ' ')

theorem length_spaces (n : Nat) : (spaces n).length = n := by
  simp [spaces]

theorem spaces_add (m n : Nat) : spaces (m + n) = spaces m ++ spaces n := by
  rw [← String.toList_inj]
  simp [spaces]

/-- Spaces and what is none divide a line in one way. -/
theorem eq_of_spaces_append {m n : Nat} {x y : Char} {xs ys : List Char} (hx : x ≠ ' ') (hy : y ≠ ' ')
    (h : List.replicate m ' ' ++ x :: xs = List.replicate n ' ' ++ y :: ys) :
    m = n ∧ x :: xs = y :: ys := by
  induction m generalizing n with
  | zero =>
      cases n with
      | zero => exact ⟨rfl, h⟩
      | succ n => exact absurd (List.cons.inj h).1 hx
  | succ m ih =>
      cases n with
      | zero => exact absurd (List.cons.inj h).1.symm hy
      | succ n =>
          obtain ⟨rfl, hrest⟩ := ih (List.cons.inj h).2
          exact ⟨rfl, hrest⟩

/-! ## Where columns stand -/

/-- The content id as the table has it. -/
def contentCell (h : Host) : String :=
  h.content.elim "-" fun c => toString c.toInt

/-- A row of a host has its cells in order, with nothing but spaces between them. Counted in characters, the
role starts at one offset, the content id ends at another, and the data directory, if there is one, starts
at the last. -/
def Columns (h : Host) (row : String) (role content dir : Nat) : Prop :=
  ∃ a b c,
    let front := "  " ++ h.id ++ spaces a
    let middle := front ++ h.role.name ++ spaces b ++ contentCell h
    row = middle ++ h.dataDir.elim "" (spaces c ++ ·) ∧
      role = front.length ∧ content = middle.length ∧ dir = content + c

theorem exists_name (r : Role) : ∃ x xs, r.name.toList = x :: xs ∧ x ≠ ' ' := by
  cases r <;> simp [Role.name]

theorem exists_toString (n : Nat) : ∃ x xs, (toString n).toList = x :: xs ∧ x ≠ ' ' := by
  cases hn : (toString n).toList with
  | nil =>
      rw [Nat.toString_eq_repr, Nat.toList_repr] at hn
      exact absurd hn Nat.toDigits_ne_nil
  | cons x xs =>
      refine ⟨x, xs, rfl, ?_⟩
      rintro rfl
      exact Text.not_mem_toString (by decide) n (hn ▸ List.mem_cons_self)

theorem exists_contentCell (h : Host) : ∃ x xs, (contentCell h).toList = x :: xs ∧ x ≠ ' ' := by
  unfold contentCell
  cases h.content with
  | none => exact ⟨'-', [], by simp, by decide⟩
  | some c =>
      rw [Option.elim_some, Int.toString_eq_repr, Int.repr_eq_if]
      split
      · exact exists_toString c.toInt.toNat
      · exact ⟨'-', (-c.toInt).toNat.repr.toList, by simp, by decide⟩

/-- A row says where its columns stand. -/
theorem Columns.unique {row : String} {role content dir role' content' dir' : Nat}
    (hrow : Columns h row role content dir) (hrow' : Columns h row role' content' dir') :
    role = role' ∧ content = content' ∧ (h.dataDir.isSome = true → dir = dir') := by
  obtain ⟨a, b, c, rfl, rfl, rfl, rfl⟩ := hrow
  obtain ⟨a', b', c', htext, rfl, rfl, rfl⟩ := hrow'
  obtain ⟨x, xs, hname, hx⟩ := exists_name h.role
  obtain ⟨y, ys, hcell, hy⟩ := exists_contentCell h
  rw [← String.toList_inj] at htext
  simp only [String.toList_append, List.append_assoc, List.append_cancel_left_eq, hname, hcell,
    List.cons_append, spaces, String.toList_ofList] at htext
  obtain ⟨ha, hrest⟩ := eq_of_spaces_append hx hx htext
  obtain ⟨hb, hlast⟩ := eq_of_spaces_append hy hy (List.append_cancel_left (List.cons.inj hrest).2)
  subst ha hb
  refine ⟨rfl, rfl, fun hdir => ?_⟩
  obtain ⟨d, hd⟩ := Option.isSome_iff_exists.mp hdir
  have hlast := List.append_cancel_left (List.cons.inj hlast).2
  rw [hd] at hlast
  have hc : c = c' := by simpa using congrArg List.length hlast
  rw [hc]

/-! ## The offsets in a row -/

theorem length_name_le (r : Role) : r.name.length ≤ 11 := by
  cases r <;> decide

/-- A row without colors, with its spaces told apart from its cells. -/
theorem row_eq (width : Nat) (h : Host) :
    row false width h =
      "  " ++ h.id ++ spaces (width - h.id.length + 2) ++ h.role.name ++
        spaces (11 - h.role.name.length + 2 + (3 - (contentCell h).length)) ++ contentCell h ++
        h.dataDir.elim "" (spaces 2 ++ ·) := by
  have htwo : "  " = spaces 2 := rfl
  have hright (n : Nat) (s : String) : Text.padRight n s = s ++ spaces (n - s.length) := rfl
  have hleft (n : Nat) (s : String) : Text.padLeft n ' ' s = spaces (n - s.length) ++ s := rfl
  have hpaint (d : String) : paint false .dimmed d = d := rfl
  simp only [row, hright, hleft, hpaint, htwo, spaces_add, String.append_assoc, contentCell]

/-- How wide the content id of a host is in its row. -/
def contentWidth (h : Host) : Nat :=
  max 3 (contentCell h).length

/-- In a column of ids that is wide enough, only the content id decides on where the row's columns stand. -/
theorem columns_row {width : Nat} (hid : h.id.length ≤ width) : Columns h (row false width h) (width + 4)
    (width + 17 + contentWidth h) (width + 19 + contentWidth h) := by
  have hname := length_name_le h.role
  have htwo : ("  " : String).length = 2 := rfl
  refine ⟨_, _, _, row_eq width h, ?_, ?_, ?_⟩
  · simp only [String.length_append, length_spaces]
    omega
  · simp only [String.length_append, length_spaces, contentWidth]
    omega
  · omega

theorem length_toString_le_iff (n : Int) : (toString n).length ≤ 3 ↔ -99 ≤ n ∧ n ≤ 999 := by
  rw [Int.toString_eq_repr, Int.repr_eq_if]
  split
  · rw [Nat.length_repr_le_iff (by decide)]
    omega
  · have hsign : ("-" : String).length = 1 := rfl
    rw [String.length_append, hsign, Nat.add_comm, Nat.succ_le_succ_iff,
      Nat.length_repr_le_iff (by decide)]
    omega

/-- The column is wide enough for the content ids of at most three characters. -/
theorem contentWidth_eq_three_iff :
    contentWidth h = 3 ↔ ∀ c ∈ h.content, -99 ≤ c.toInt ∧ c.toInt ≤ 999 := by
  have hmax (n : Nat) : max 3 n = 3 ↔ n ≤ 3 := by omega
  rw [contentWidth, contentCell, hmax]
  cases h.content with
  | none => simpa using show "-".length ≤ 3 by decide
  | some c => simpa using length_toString_le_iff c.toInt

/-! ## The rows of a table -/

theorem length_le_utf8ByteSize (s : String) : s.length ≤ s.utf8ByteSize := by
  induction s using String.push_induction with
  | empty => exact Nat.le_refl 0
  | push s c ih =>
      rw [String.length_push, String.utf8ByteSize_push]
      exact Nat.add_le_add ih c.utf8Size_pos

/-- The column of ids is measured in octets, and an id has at least as many of them as characters. -/
theorem length_id_le_idWidth {hosts : List Host} (hmem : h ∈ hosts) : h.id.length ≤ idWidth hosts := by
  refine Nat.le_trans (length_le_utf8ByteSize h.id) ?_
  rw [idWidth, List.foldl_max, Nat.zero_max]
  exact List.le_max?_getD_of_mem (List.mem_map_of_mem hmem)

theorem forall₂_rows {P : Host → String → Prop} {hosts : List Host} :
    List.Forall₂ P hosts (rows false hosts) ↔ ∀ h ∈ hosts, P h (row false (idWidth hosts) h) := by
  rw [rows, List.forall₂_map_right_iff, List.forall₂_same]

/-- What stands at one place for some hosts is of one width for them. -/
theorem exists_place_iff (hosts : List Host) (p : Host → Prop) (width : Host → Nat) (start : Nat) :
    (∃ place, ∀ h ∈ hosts, p h → place = start + width h) ↔
      ∀ h ∈ hosts, ∀ h' ∈ hosts, p h → p h' → width h = width h' := by
  constructor
  · rintro ⟨place, hplace⟩ h hmem h' hmem' hp hp'
    exact Nat.add_left_cancel ((hplace h hmem hp).symm.trans (hplace h' hmem' hp'))
  · intro hwidth
    by_cases hsome : ∃ h ∈ hosts, p h
    · obtain ⟨h, hmem, hp⟩ := hsome
      exact ⟨start + width h, fun h' hmem' hp' => congrArg _ (hwidth h hmem h' hmem' hp hp')⟩
    · exact ⟨0, fun h hmem hp => absurd ⟨h, hmem, hp⟩ hsome⟩

variable {hosts : List Host}

/-- The content ids of a table end at one place exactly if they are equally wide. -/
theorem content_aligned_iff :
    (∃ content, List.Forall₂ (fun h row => ∃ role dir, Columns h row role content dir) hosts
      (rows false hosts)) ↔
      ∀ h ∈ hosts, ∀ h' ∈ hosts, contentWidth h = contentWidth h' := by
  have hplace (content : Nat) (h : Host) (hmem : h ∈ hosts) :
      (∃ role dir, Columns h (row false (idWidth hosts) h) role content dir) ↔
        content = idWidth hosts + 17 + contentWidth h := by
    have hrow := columns_row (length_id_le_idWidth hmem)
    constructor
    · rintro ⟨role, dir, h'⟩
      exact (h'.unique hrow).2.1
    · rintro rfl
      exact ⟨_, _, hrow⟩
  simp only [forall₂_rows]
  rw [exists_congr fun content => forall₂_congr (hplace content)]
  simpa using exists_place_iff hosts (fun _ => True) contentWidth _

/-- The data directories start at one place exactly if the content ids before them are equally wide. -/
theorem dataDir_aligned_iff :
    (∃ dir, List.Forall₂ (fun h row => h.dataDir.isSome = true → ∃ role content,
        Columns h row role content dir) hosts (rows false hosts)) ↔
      ∀ h ∈ hosts, ∀ h' ∈ hosts, h.dataDir.isSome = true → h'.dataDir.isSome = true →
        contentWidth h = contentWidth h' := by
  have hplace (dir : Nat) (h : Host) (hmem : h ∈ hosts) (hsome : h.dataDir.isSome = true) :
      (∃ role content, Columns h (row false (idWidth hosts) h) role content dir) ↔
        dir = idWidth hosts + 19 + contentWidth h := by
    have hrow := columns_row (length_id_le_idWidth hmem)
    constructor
    · rintro ⟨role, content, h'⟩
      exact (h'.unique hrow).2.2 hsome
    · rintro rfl
      exact ⟨_, _, hrow⟩
  simp only [forall₂_rows]
  rw [exists_congr fun dir => forall₃_congr (hplace dir)]
  exact exists_place_iff hosts _ contentWidth _

/-- All roles of a table start at one place. The content ids end at one place exactly if they are equally
wide, none taking less than three characters, and so it is with the start of the data directories, among
the hosts that have one. From -99 to 999 they are. -/
theorem rows_columns (hosts : List Host) :
    (∃ role, List.Forall₂ (fun h row => ∃ content dir, Columns h row role content dir) hosts
      (rows false hosts)) ∧
    ((∃ content, List.Forall₂ (fun h row => ∃ role dir, Columns h row role content dir) hosts
        (rows false hosts)) ↔
      ∀ h ∈ hosts, ∀ h' ∈ hosts, contentWidth h = contentWidth h') ∧
    ((∃ dir, List.Forall₂ (fun h row => h.dataDir.isSome = true → ∃ role content,
        Columns h row role content dir) hosts (rows false hosts)) ↔
      ∀ h ∈ hosts, ∀ h' ∈ hosts, h.dataDir.isSome = true → h'.dataDir.isSome = true →
        contentWidth h = contentWidth h') ∧
    ((∀ h ∈ hosts, ∀ c ∈ h.content, -99 ≤ c.toInt ∧ c.toInt ≤ 999) →
      ∃ role content dir, List.Forall₂ (Columns · · role content dir) hosts (rows false hosts)) := by
  refine ⟨⟨idWidth hosts + 4, ?_⟩, content_aligned_iff, dataDir_aligned_iff, fun hnarrow => ?_⟩
  · rw [forall₂_rows]
    exact fun h hmem => ⟨_, _, columns_row (length_id_le_idWidth hmem)⟩
  · refine ⟨idWidth hosts + 4, idWidth hosts + 20, idWidth hosts + 22, ?_⟩
    rw [forall₂_rows]
    intro h hmem
    have hwidth := contentWidth_eq_three_iff.mpr (hnarrow h hmem)
    simpa [hwidth] using columns_row (length_id_le_idWidth hmem)

theorem rows_columns_narrow :
    let hosts := [Host.coordinator "cdw", Host.segment 999 .mirror "sdwä" 6000 |>.withDataDir "/data",
      Host.ofHostname "etl"]
    (∀ h ∈ hosts, ∀ c ∈ h.content, -99 ≤ c.toInt ∧ c.toInt ≤ 999) ∧
      ∃ role content dir, List.Forall₂ (Columns · · role content dir) hosts (rows false hosts) := by
  intro hosts
  have hnarrow : ∀ h ∈ hosts, ∀ c ∈ h.content, -99 ≤ c.toInt ∧ c.toInt ≤ 999 := by
    simp [hosts, Host.coordinator, Host.segment, Host.ofHostname, Host.withRole, Host.withContent,
      Host.withPort, Host.withDataDir]
  exact ⟨hnarrow, (rows_columns hosts).2.2.2 hnarrow⟩

/-- Two segments of a cluster, one with a content id of four digits. -/
def broad : HostSet :=
  ⟨[Host.segment 0 .primary "sdw1" 6000 |>.withDataDir "/data/gpseg0",
    Host.segment 1000 .primary "sdw2" 6000 |>.withDataDir "/data/gpseg1000"], by decide⟩

/-- The fourth digit moves the end of the content id, and the data directory behind it. -/
theorem broad_not_aligned :
    (¬∃ content, List.Forall₂ (fun h row => ∃ role dir, Columns h row role content dir) broad.hosts
      (rows false broad.hosts)) ∧
    ¬∃ dir, List.Forall₂ (fun h row => h.dataDir.isSome = true → ∃ role content,
      Columns h row role content dir) broad.hosts (rows false broad.hosts) := by
  have hwidth {a b : Host} (ha : a.content = some 0) (hb : b.content = some 1000) :
      contentWidth a ≠ contentWidth b := by
    intro heq
    have hnarrow : contentWidth a = 3 := contentWidth_eq_three_iff.mpr (by simp [ha])
    exact absurd (contentWidth_eq_three_iff.mp (heq ▸ hnarrow) 1000 hb) (by decide)
  rw [content_aligned_iff, dataDir_aligned_iff]
  constructor
  · intro h
    exact hwidth rfl rfl (h _ List.mem_cons_self _ (List.mem_cons_of_mem _ List.mem_cons_self))
  · intro h
    exact hwidth rfl rfl (h _ List.mem_cons_self _ (List.mem_cons_of_mem _ List.mem_cons_self) rfl rfl)

end Fanout.Console
