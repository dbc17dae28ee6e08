import Fanout.Text.Line

/-!
# Cutting a text at its newlines

Texts that hold no newline are got back from the text that joins them with newlines. A text that hangs is
its lines joined by a newline and the spaces, so each line but the first has the spaces in front. The first
line of a trimmed text is what stands before its first newline, but for a carriage return. Texts that each end
in a newline are cut, one after the other, into the lines of each.
-/
namespace Fanout

namespace Chars

theorem splitOn_cons (sep c : Char) (cs : List Char) : (c :: cs).splitOn sep =
    if c = sep then [] :: cs.splitOn sep else (cs.splitOn sep).modifyHead (c :: ·) := by
  simp only [List.splitOn, List.splitOnP_cons_eq_if_modifyHead, beq_iff_eq]

theorem exists_splitOn_eq_cons (sep : Char) (cs : List Char) :
    ∃ piece pieces, cs.splitOn sep = piece :: pieces :=
  List.exists_cons_of_ne_nil (List.splitOn_ne_nil sep cs)

theorem not_mem_of_mem_splitOn {sep : Char} {cs piece : List Char} (h : piece ∈ cs.splitOn sep) :
    sep ∉ piece := by
  induction cs generalizing piece with
  | nil =>
      obtain rfl : piece = [] := by simpa using h
      exact List.not_mem_nil
  | cons c cs ih =>
      obtain ⟨p, ps, hp⟩ := exists_splitOn_eq_cons sep cs
      rw [hp] at ih
      rw [splitOn_cons, hp] at h
      split at h
      · rcases List.mem_cons.mp h with rfl | h
        · exact List.not_mem_nil
        · exact ih h
      · rename_i hc
        rcases List.mem_cons.mp h with rfl | h
        · exact fun hmem => (List.mem_cons.mp hmem).elim (hc ∘ Eq.symm) (ih List.mem_cons_self)
        · exact ih (List.mem_cons_of_mem _ h)

/-- What holds no separator goes in front of the first piece. -/
theorem splitOn_append_of_not_mem {sep : Char} {front : List Char} (h : sep ∉ front) (cs : List Char) :
    (front ++ cs).splitOn sep = (cs.splitOn sep).modifyHead (front ++ ·) := by
  obtain ⟨p, ps, hp⟩ := exists_splitOn_eq_cons sep cs
  rw [hp]
  induction front with
  | nil => exact hp
  | cons c front ih =>
      have hc : c ≠ sep := Ne.symm (List.ne_of_not_mem_cons h)
      rw [List.cons_append, splitOn_cons, if_neg hc, ih (List.not_mem_of_not_mem_cons h)]
      rfl

/-- Writing a text for every separator joins the pieces with that text. -/
theorem flatMap_eq_intercalate (sep : Char) (new cs : List Char) :
    (cs.flatMap fun c => if c = sep then new else [c]) = new.intercalate (cs.splitOn sep) := by
  induction cs with
  | nil => simp
  | cons c cs ih =>
      obtain ⟨p, ps, hp⟩ := exists_splitOn_eq_cons sep cs
      rw [List.flatMap_cons, ih, splitOn_cons, hp]
      split
      · rw [List.intercalate_cons_cons, List.nil_append]
      · cases ps <;> simp [List.intercalate_cons_cons]

/-! ## The first line -/

theorem pieces_eq_splitOn (cs : List Char) : pieces cs = cs.splitOn '\n' := by
  induction cs with
  | nil => rfl
  | cons c cs ih =>
      obtain ⟨p, ps, hp⟩ := exists_splitOn_eq_cons '\n' cs
      rw [pieces, ih, splitOn_cons, hp]
      split <;> rfl

theorem not_mem_dropReturn {c : Char} {cs : List Char} (h : c ∉ cs) : c ∉ dropReturn cs := by
  unfold dropReturn
  split
  · exact fun hmem => h (List.dropLast_subset _ hmem)
  · exact h

/-- Trimming leaves no carriage return at the end. -/
theorem dropReturn_trim (cs : List Char) : dropReturn (trim cs) = trim cs := by
  have hend := List.head?_dropWhile_not Text.isBlank (trimStart cs).reverse
  have hlast : (trim cs).getLast? ≠ some '\r' := by
    intro hlast
    rw [trim, trimEnd, List.getLast?_reverse] at hlast
    rw [hlast] at hend
    exact absurd hend (by decide)
  rw [dropReturn, if_neg hlast]

theorem firstLine_trim (cs : List Char) :
    firstLine (trim cs) = dropReturn (((trim cs).splitOn '\n').headD []) := by
  have hjoin : ['\n'].intercalate ((trim cs).splitOn '\n') = trim cs := List.intercalate_splitOn '\n'
  rw [firstLine, lines, pieces_eq_splitOn]
  cases hsplit : (trim cs).splitOn '\n' with
  | nil => exact absurd hsplit (List.splitOn_ne_nil _ _)
  | cons p ps =>
      cases ps with
      | nil =>
          -- The last piece keeps a carriage return, but a trimmed text ends in none.
          have hp : p = trim cs := by simpa [hsplit] using hjoin
          rw [List.headD_cons, hp, dropReturn_trim]
          cases h : trim cs <;> rfl
      | cons q qs => rfl

/-! ## Lines as a person reads them -/

theorem mem_linesOfPieces {line : List Char} {ps : List (List Char)} (h : line ∈ linesOfPieces ps) :
    ∃ p ∈ ps, line = p ∨ line = dropReturn p := by
  fun_induction linesOfPieces ps with
  | case1 => cases h
  | case2 p hempty => cases h
  | case3 p hsome => exact ⟨p, List.mem_cons_self, .inl (List.mem_singleton.mp h)⟩
  | case4 p q ps ih =>
      rcases List.mem_cons.mp h with rfl | h
      · exact ⟨p, List.mem_cons_self, .inr rfl⟩
      · obtain ⟨r, hr, hline⟩ := ih h
        exact ⟨r, List.mem_cons_of_mem _ hr, hline⟩

theorem newline_not_mem_lines {cs line : List Char} (h : line ∈ lines cs) : '\n' ∉ line := by
  obtain ⟨p, hp, hline⟩ := mem_linesOfPieces h
  have hp : '\n' ∉ p := not_mem_of_mem_splitOn (pieces_eq_splitOn cs ▸ hp)
  rcases hline with rfl | rfl
  · exact hp
  · exact not_mem_dropReturn hp

theorem lines_eq_nil_iff {cs : List Char} : lines cs = [] ↔ cs = [] := by
  constructor
  · intro h
    have hjoin : ['\n'].intercalate (cs.splitOn '\n') = cs := List.intercalate_splitOn '\n'
    rw [lines, pieces_eq_splitOn] at h
    cases hsplit : cs.splitOn '\n' with
    | nil => exact absurd hsplit (List.splitOn_ne_nil _ _)
    | cons p ps =>
        rw [hsplit] at h hjoin
        cases ps with
        | nil =>
            have hempty : p = [] := by simpa [linesOfPieces] using h
            subst hempty
            exact hjoin.symm
        | cons q qs => cases h
  · rintro rfl
    rfl

end Chars

namespace Text

/-- What stands between the newlines of a text. -/
def splitLines (s : String) : List String :=
  (s.toList.splitOn '\n').map String.ofList

theorem map_toList_splitLines (s : String) :
    (splitLines s).map String.toList = s.toList.splitOn '\n' := by
  simp [splitLines, Function.comp_def]

theorem exists_splitLines_eq_cons (s : String) : ∃ line lines, splitLines s = line :: lines :=
  List.exists_cons_of_ne_nil (by simp [splitLines, List.splitOn_ne_nil])

theorem splitLines_intercalate {lines : List String} (hne : lines ≠ [])
    (h : ∀ line ∈ lines, '\n' ∉ line.toList) : splitLines ("\n".intercalate lines) = lines := by
  have hsplit : (("\n".intercalate lines).toList).splitOn '\n' = lines.map String.toList := by
    rw [String.toList_intercalate]
    exact List.splitOn_intercalate '\n' (List.forall_mem_map.mpr h) (by simpa using hne)
  rw [splitLines, hsplit, List.map_map]
  simp [Function.comp_def]

theorem intercalate_splitLines (s : String) : "\n".intercalate (splitLines s) = s := by
  rw [← String.toList_inj, String.toList_intercalate, map_toList_splitLines]
  exact List.intercalate_splitOn '\n'

theorem newline_not_mem {s line : String} (h : line ∈ splitLines s) : '\n' ∉ line.toList := by
  have hmem : line.toList ∈ s.toList.splitOn '\n' := by
    rw [← map_toList_splitLines]
    exact List.mem_map_of_mem h
  exact Chars.not_mem_of_mem_splitOn hmem

/-- Without one carriage return at the end. -/
def withoutReturn : String → String := onChars Chars.dropReturn

theorem not_mem_withoutReturn {c : Char} {s : String} (h : c ∉ s.toList) :
    c ∉ (withoutReturn s).toList := by
  rw [withoutReturn, toList_onChars]
  exact Chars.not_mem_dropReturn h

/-- The first line of a trimmed text is what stands before its first newline, without a carriage return
before that. -/
theorem firstLine_trim (s : String) :
    firstLine (trim s) = withoutReturn ((splitLines (trim s)).headD "") := by
  rw [← String.toList_inj, firstLine, withoutReturn, toList_onChars, toList_onChars, trim, toList_onChars,
    Chars.firstLine_trim, splitLines, toList_onChars]
  cases (Chars.trim s.toList).splitOn '\n' with
  | nil => rfl
  | cons line lines => simp

theorem newline_not_mem_lines {s line : String} (h : line ∈ lines s) : '\n' ∉ line.toList := by
  obtain ⟨cs, hcs, rfl⟩ := List.mem_map.mp h
  rw [String.toList_ofList]
  exact Chars.newline_not_mem_lines hcs

theorem lines_eq_nil_iff {s : String} : lines s = [] ↔ s = "" := by
  rw [lines, List.map_eq_nil_iff, Chars.lines_eq_nil_iff, String.toList_eq_nil_iff]

theorem newline_not_mem_firstLine (s : String) : '\n' ∉ (firstLine (trim s)).toList := by
  obtain ⟨line, lines, hsplit⟩ := exists_splitLines_eq_cons (trim s)
  have hline : '\n' ∉ line.toList := newline_not_mem (hsplit ▸ List.mem_cons_self)
  rw [firstLine_trim, hsplit, List.headD_cons]
  exact not_mem_withoutReturn hline

/-! ## Texts that end all their lines -/

theorem splitLines_of_not_mem {s : String} (h : '\n' ∉ s.toList) : splitLines s = [s] := by
  have hs : splitLines ("\n".intercalate [s]) = [s] :=
    splitLines_intercalate (List.cons_ne_nil s []) (by simpa using h)
  rwa [String.intercalate_singleton] at hs

/-- Only a text without a newline is one line. -/
theorem length_splitLines_eq_one_iff {s : String} : (splitLines s).length = 1 ↔ '\n' ∉ s.toList := by
  constructor
  · intro h
    obtain ⟨line, hline⟩ := List.length_eq_one_iff.mp h
    have hs := intercalate_splitLines s
    rw [hline, String.intercalate_singleton] at hs
    subst hs
    exact newline_not_mem (hline ▸ List.mem_singleton_self line)
  · intro h
    rw [splitLines_of_not_mem h, List.length_singleton]

theorem splitLines_append_of_not_mem {front : String} (h : '\n' ∉ front.toList) (s : String) :
    splitLines (front ++ s) = (splitLines s).modifyHead (front ++ ·) := by
  obtain ⟨p, ps, hp⟩ := Chars.exists_splitOn_eq_cons '\n' s.toList
  rw [splitLines, splitLines, String.toList_append, Chars.splitOn_append_of_not_mem h, hp]
  simp [String.ofList_append]

theorem splitLines_append_newline (s t : String) :
    splitLines (s ++ "\n" ++ t) = splitLines s ++ splitLines t := by
  have hlist : (s ++ "\n" ++ t).toList = s.toList ++ '\n' :: t.toList := by simp
  rw [splitLines, hlist, List.splitOn, List.splitOnP_append_cons _ _ (by simp), List.map_append]
  rfl

/-- Texts each ended by a newline are cut, one after the other, into the lines of each, and nothing stands
behind the last newline. -/
theorem splitLines_join_ended (texts : List String) :
    splitLines (String.join (texts.map (· ++ "\n"))) = texts.flatMap splitLines ++ [""] := by
  induction texts with
  | nil => rfl
  | cons s texts ih =>
      rw [List.map_cons, String.join_cons, splitLines_append_newline, ih, List.flatMap_cons,
        List.append_assoc]

/-! ## Numbers -/

/-- A number is written in digits only. -/
theorem not_mem_toDigits {c : Char} (hc : c.isDigit = false) (n : Nat) : c ∉ Nat.toDigits 10 n := by
  intro h
  have hdigit := Nat.isDigit_of_mem_toDigits (by decide) (by decide) h
  rw [hc] at hdigit
  cases hdigit

theorem not_mem_toString {c : Char} (hc : c.isDigit = false) (n : Nat) : c ∉ (toString n).toList := by
  rw [Nat.toString_eq_repr, Nat.toList_repr]
  exact not_mem_toDigits hc n

/-! ## Joining -/

theorem intercalate_cons (sep line : String) (lines : List String) :
    sep.intercalate (line :: lines) = line ++ String.join (lines.map (sep ++ ·)) := by
  induction lines generalizing line with
  | nil => simp
  | cons l ls ih => rw [String.intercalate_cons_cons, ih]; simp [String.append_assoc]

theorem not_mem_intercalate {c : Char} {sep : String} {lines : List String} (hsep : c ∉ sep.toList)
    (h : ∀ line ∈ lines, c ∉ line.toList) : c ∉ (sep.intercalate lines).toList := by
  cases lines with
  | nil => simp
  | cons line lines =>
      obtain ⟨hline, hlines⟩ := List.forall_mem_cons.mp h
      rw [intercalate_cons]
      simpa [String.toList_join, hsep, hline] using hlines

/-- A separator that ends in a text puts this text in front of all lines but the first. -/
theorem intercalate_append (sep pad line : String) (lines : List String) :
    (sep ++ pad).intercalate (line :: lines) = sep.intercalate (line :: lines.map (pad ++ ·)) := by
  rw [intercalate_cons, intercalate_cons, List.map_map]
  simp [Function.comp_def, String.append_assoc]

theorem hang_eq (width : Nat) (s : String) :
    hang width s = ("\n" ++ String.ofList (List.replicate width ' ')).intercalate (splitLines s) := by
  have hsep : ("\n" ++ String.ofList (List.replicate width ' ')).toList =
      '\n' :: List.replicate width ' ' := by simp
  rw [← String.toList_inj, hang, toList_onChars, Chars.flatMap_eq_intercalate,
    String.toList_intercalate, map_toList_splitLines, hsep]

end Text

end Fanout
