import Fanout.FileTree
import Fanout.Proofs.Lookup
import Fanout.Proofs.Text.Lines
import Mathlib.Data.String.Basic

/-!
# Adding to a file

A path is cut at its slashes, as a list of characters is. What is put at a place is found there, and the rest of
the tree is as it was. A file is never put in the place of a directory, so a path that leads to a file through
directories still leads there afterwards.
-/
namespace Fanout.FileTree

variable {t t' : FileTree} {place : List String} {e : Entry} {workDir path : String} {old bytes : Bytes}

/-! ## The parts of a path -/

section

open String

/-- What is left of a text is cut at its slashes while a piece of it is being read. -/
theorem splitOnAux_slash (l m r : List Char) (acc : List String) :
    String.splitOnAux (ofList (l ++ m ++ r)) "/" ⟨utf8Len l⟩ ⟨utf8Len l + utf8Len m⟩ 0 acc =
      acc.reverse ++ ((r.splitOn '/').modifyHead (m ++ ·)).map ofList := by
  induction r generalizing l m acc with
  | nil =>
      have hend : Pos.Raw.atEnd (ofList (l ++ m ++ [])) ⟨utf8Len l + utf8Len m⟩ = true := by
        simp [-ofList_append, ← utf8Len_append]
      rw [String.splitOnAux, if_pos hend, extract_of_valid l m []]
      simp
  | cons c r ih =>
      have hend : ¬Pos.Raw.atEnd (ofList (l ++ m ++ c :: r)) ⟨utf8Len l + utf8Len m⟩ = true := by
        simpa [-ofList_append] using atEnd_of_valid (l ++ m) (c :: r)
      have hget : Pos.Raw.get (ofList (l ++ m ++ c :: r)) ⟨utf8Len l + utf8Len m⟩ = c := by
        simpa [-ofList_append] using get_of_valid (l ++ m) (c :: r)
      have hnext : Pos.Raw.next (ofList (l ++ m ++ c :: r)) ⟨utf8Len l + utf8Len m⟩ =
          ⟨utf8Len l + utf8Len m + c.utf8Size⟩ := by
        simpa [-ofList_append] using next_of_valid (l ++ m) c r
      have hsep : Pos.Raw.get "/" 0 = '/' := by decide
      obtain ⟨p, ps, hp⟩ := Chars.exists_splitOn_eq_cons '/' r
      rw [String.splitOnAux, if_neg hend, hget, hsep, hnext, Chars.splitOn_cons, hp]
      rw [hp] at ih
      by_cases hc : c = '/'
      · -- The slash ends the piece, which lasts up to the width of the slash before the next position.
        subst hc
        have hone : Pos.Raw.atEnd "/" (Pos.Raw.next "/" 0) = true := by decide
        have hback : (⟨utf8Len l + utf8Len m + '/'.utf8Size⟩ : Pos.Raw).unoffsetBy (Pos.Raw.next "/" 0) =
            ⟨utf8Len l + utf8Len m⟩ := rfl
        have hih := ih (l ++ m ++ ['/']) [] (ofList m :: acc)
        simp only [BEq.rfl, if_true, hone, hback]
        rw [extract_of_valid]
        simpa [-ofList_append, Nat.add_assoc] using hih
      · have hzero : (⟨utf8Len l + utf8Len m⟩ : Pos.Raw).unoffsetBy 0 = ⟨utf8Len l + utf8Len m⟩ := rfl
        have hih := ih l (m ++ [c]) acc
        rw [if_neg (by simpa using hc), if_neg hc, hzero, hnext]
        simpa [-ofList_append, Nat.add_assoc] using hih

theorem parts_eq (path : String) :
    parts path = (path.toList.splitOn '/').map ofList := by
  obtain ⟨p, ps, hp⟩ := Chars.exists_splitOn_eq_cons '/' path.toList
  have h := splitOnAux_slash [] [] path.toList []
  rw [hp] at h ⊢
  rw [parts, String.splitOn, if_neg (by decide)]
  simpa using h

end

/-! ## Putting something at a place -/

theorem at?_eq_lookup (h : place ≠ []) : t.at? place = t.entries.lookup place := by
  rw [at?, List.isEmpty_eq_false_iff.mpr h, if_neg Bool.false_ne_true]

theorem ne_nil_of_at?_ne (h : t.at? place ≠ some .dir) : place ≠ [] := by
  rintro rfl
  exact h rfl

theorem at?_put (hplace : place ≠ []) (q : List String) :
    (t.put place e).at? q = if q = place then some e else t.at? q := by
  by_cases hq : q = []
  · subst hq
    rw [if_neg (Ne.symm hplace)]
    rfl
  · rw [at?_eq_lookup hq, at?_eq_lookup hq, put, at?_eq_lookup hplace]
    split
    · rename_i hsome
      obtain ⟨old, hold⟩ := Option.isSome_iff_exists.mp hsome
      rw [lookup_replace, hold, Option.map_some]
    · rename_i hnone
      rw [lookup_concat]
      by_cases hp : q = place
      · subst hp
        rw [Option.not_isSome_iff_eq_none.mp hnone]
        rfl
      · simp [hp]

theorem follow_put (hplace : t.at? place ≠ some .dir) {p q names : List String}
    (h : t.follow p names = .ok q) : (t.put place e).follow p names = .ok q := by
  have hdir {p : List String} (hp : t.at? p = some .dir) : (t.put place e).at? p = some .dir := by
    rw [at?_put (ne_nil_of_at?_ne hplace), if_neg, hp]
    rintro rfl
    exact hplace hp
  fun_induction follow t p names with
  | case1 p => exact h
  | case2 => cases h
  | case3 => cases h
  | case4 p name rest hp hname ih =>
      rw [follow, hdir hp]
      simp only [if_pos hname]
      exact ih h
  | case5 p rest hp hname ih =>
      rw [follow, hdir hp]
      simp only [if_neg hname]
      exact ih h
  | case6 p name rest hp hname hup ih =>
      rw [follow, hdir hp]
      simp only [if_neg hname, if_neg hup]
      exact ih h

theorem resolve_put (hplace : t.at? place ≠ some .dir) {q : List String}
    (h : t.resolve workDir path = .ok q) : (t.put place e).resolve workDir path = .ok q := by
  unfold resolve at h ⊢
  split at h
  · cases h
  · rename_i hnul
    rw [if_neg hnul]
    split at h
    · cases h
    · rename_i hempty
      rw [if_neg hempty]
      exact follow_put hplace h

/-! ## Reading a file that was changed -/

theorem read_eq_ok_iff : t.read workDir path = .ok old ↔
    ∃ place x, t.resolve workDir path = .ok place ∧ t.at? place = some (.file old x) := by
  rw [read, find]
  cases t.resolve workDir path with
  | error err => simp [bind, Except.bind]
  | ok place =>
      simp only [bind, Except.bind, Except.ok.injEq, exists_and_left, exists_eq_left']
      cases t.at? place with
      | none => simp
      | some e => cases e <;> simp

theorem read_put {x : Bool} (hresolve : t.resolve workDir path = .ok place)
    (hplace : t.at? place ≠ some .dir) : (t.put place (.file old x)).read workDir path = .ok old := by
  refine read_eq_ok_iff.mpr ⟨place, x, resolve_put hplace hresolve, ?_⟩
  rw [at?_put (ne_nil_of_at?_ne hplace), if_pos rfl]

/-- A file that can be read can be added to, and then holds what it held and what was added. -/
theorem append_of_read (h : t.read workDir path = .ok old) (bytes : Bytes) :
    ∃ t', t.append workDir path bytes = .ok t' ∧ t'.read workDir path = .ok (old ++ bytes) := by
  obtain ⟨place, x, hresolve, hfile⟩ := read_eq_ok_iff.mp h
  refine ⟨t.put place (.file (old ++ bytes) x), ?_, read_put hresolve (by simp [hfile])⟩
  simp [append, change, hresolve, hfile, bind, Except.bind]

/-- What could be added to is a file, which held nothing if it was missing. -/
theorem read_append (h : t.append workDir path bytes = .ok t') :
    ∃ old, (t.read workDir path = .ok old ∨ t.read workDir path = .error .notFound ∧ old = []) ∧
      t'.read workDir path = .ok (old ++ bytes) := by
  rw [append, change] at h
  cases hresolve : t.resolve workDir path with
  | error err => simp [hresolve, bind, Except.bind] at h
  | ok place =>
      simp only [hresolve, bind, Except.bind] at h
      cases hplace : t.at? place with
      | some e =>
          rw [hplace] at h
          cases e with
          | dir => cases h
          | file old x =>
              cases h
              refine ⟨old, .inl (read_eq_ok_iff.mpr ⟨place, x, hresolve, hplace⟩), ?_⟩
              exact read_put hresolve (by simp [hplace])
      | none =>
          simp only [hplace] at h
          split at h
          · cases h
            refine ⟨[], .inr ⟨?_, rfl⟩, read_put hresolve (by simp [hplace])⟩
            simp [read, find, hresolve, hplace, bind, Except.bind]
          · cases h
          · cases h

end Fanout.FileTree
