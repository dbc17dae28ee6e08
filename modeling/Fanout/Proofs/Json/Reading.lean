import Fanout.Json.Decode
import Fanout.Proofs.Json.Written

/-!
# Values are read back from their texts

The reader gives back the value of every text of it, and what follows the text. The fuel it starts
with is enough, since every part of a text is shorter than the text.
-/
namespace Fanout.Json

/-! ## Space -/

theorem skipSpace_append {gap : List Char} (h : AllSpace gap) (cs : List Char) :
    skipSpace (gap ++ cs) = skipSpace cs :=
  List.dropWhile_append_of_pos h

theorem skipSpace_cons {c : Char} (h : isSpace c = false) (cs : List Char) :
    skipSpace (c :: cs) = c :: cs := by
  simp [skipSpace, h]

theorem endsNumber_nil : EndsNumber [] := by
  intro c hc
  cases hc

theorem endsNumber_cons {c : Char} (h : c.isDigit = false ∧ c ≠ '.' ∧ c ≠ 'e' ∧ c ≠ 'E')
    (cs : List Char) : EndsNumber (c :: cs) := by
  intro d hd
  obtain rfl : c = d := by simpa using hd
  exact h

theorem endsNumber_append {back cs : List Char} (hback : AllSpace back) (h : EndsNumber cs) :
    EndsNumber (back ++ cs) := by
  cases back with
  | nil => exact h
  | cons b bs =>
    have hb := hback b List.mem_cons_self
    simp only [isSpace, Bool.or_eq_true, beq_iff_eq] at hb
    rcases hb with ((rfl | rfl) | rfl) | rfl <;> exact endsNumber_cons (by decide) (bs ++ cs)

/-! ## The first character -/

/-- A character that is neither space nor the end of an array. -/
def Begins (c : Char) : Prop :=
  isSpace c = false ∧ c ≠ ']'

def IsNumeric (c : Char) : Prop :=
  c = '-' ∨ c.isDigit = true

theorem IsNumeric.begins {c : Char} (h : IsNumeric c) : Begins c := by
  constructor
  · rw [Bool.eq_false_iff]
    intro hc
    simp only [isSpace, Bool.or_eq_true, beq_iff_eq] at hc
    rcases hc with ((rfl | rfl) | rfl) | rfl <;> revert h <;> simp [IsNumeric]
  · rintro rfl
    revert h
    simp [IsNumeric]

theorem exists_intText (n : Int) : ∃ c cs, intText n = c :: cs ∧ IsNumeric c := by
  cases n with
  | ofNat n =>
    obtain ⟨d, ds, hd⟩ := List.exists_cons_of_ne_nil (Nat.toDigits_ne_nil (n := n) (b := 10))
    exact ⟨d, ds, hd, .inr (isDigit_of_mem_toDigits (hd ▸ List.mem_cons_self))⟩
  | negSucc n => exact ⟨'-', _, rfl, .inl rfl⟩

theorem Written.exists_begins {j : Json} {text : List Char} (h : Written j text) :
    ∃ c cs, text = c :: cs ∧ Begins c := by
  cases h with
  | int =>
    obtain ⟨c, cs, hc, hnumeric⟩ := exists_intText _
    exact ⟨c, cs, hc, hnumeric.begins⟩
  | _ => exact ⟨_, _, rfl, rfl, by decide⟩

theorem WrittenItems.exists_begins {js : List Json} {text : List Char} (h : WrittenItems js text) :
    ∃ c cs, text = c :: cs ∧ Begins c := by
  cases h with
  | one h => exact h.exists_begins
  | more h =>
    obtain ⟨c, cs, rfl, hc⟩ := h.exists_begins
    exact ⟨c, _, rfl, hc⟩

theorem WrittenMembers.exists_begins {ms : List (String × Json)} {text : List Char}
    (h : WrittenMembers ms text) : ∃ cs, text = '"' :: cs := by
  cases h <;> exact ⟨_, rfl⟩

/-! ## One part at a time -/

theorem readTree_number {c : Char} (h : IsNumeric c) (fuel : Nat) (cs : List Char) :
    readTree (fuel + 1) (c :: cs) =
      match readNumeral (c :: cs) with
      | none => (.cut, [])
      | some (n, rest) => (n.value?.elim .unreadable .number, rest) := by
  rw [readTree, skipSpace_cons h.begins.1]
  split
  case h_1 heq => cases heq
  case h_8 heq =>
    obtain ⟨rfl, rfl⟩ := List.cons.inj heq
    rfl
  all_goals
    rename_i heq
    obtain ⟨rfl, -⟩ := List.cons.inj heq
    revert h
    simp [IsNumeric]

theorem toTree_ne_cut (j : Json) : toTree j ≠ .cut := by
  cases j <;> simp [toTree]

/-- An array that is not empty is read item by item. -/
theorem readTree_items {front : List Char} (hfront : AllSpace front) {c : Char} (hc : Begins c)
    (fuel : Nat) (cs : List Char) : readTree (fuel + 1) ('[' :: (front ++ c :: cs)) =
      (.arr (readItems fuel (c :: cs)).1, (readItems fuel (c :: cs)).2) := by
  rw [readTree, skipSpace_cons (by decide)]
  simp only [skipSpace_append hfront, skipSpace_cons hc.1]
  split
  · rename_i heq
    exact absurd (List.cons.inj heq).1 hc.2
  · rfl

theorem readTree_members {front : List Char} (hfront : AllSpace front) (fuel : Nat)
    (cs : List Char) : readTree (fuel + 1) ('\x7b' :: (front ++ '"' :: cs)) =
      (.obj (readMembers fuel ('"' :: cs)).1, (readMembers fuel ('"' :: cs)).2) := by
  rw [readTree, skipSpace_cons (by decide)]
  simp only [skipSpace_append hfront, skipSpace_cons (c := '"') (by decide)]
  rfl

/-- The last item of an array. -/
theorem readItems_last {fuel : Nat} {cs back rest : List Char} {j : Json} (hback : AllSpace back)
    (hread : readTree fuel cs = (toTree j, back ++ ']' :: rest)) :
    readItems (fuel + 1) cs = (.cons (toTree j) .nil, rest) := by
  rw [readItems, hread]
  simp only [skipSpace_append hback, skipSpace_cons (c := ']') (by decide)]
  split
  · rename_i hcut
    exact absurd hcut (toTree_ne_cut j)
  · rfl

/-- An item with another one behind it. -/
theorem readItems_more {fuel : Nat} {cs gap cs' : List Char} {c : Char} {j : Json}
    (hgap : AllSpace gap) (hc : Begins c)
    (hread : readTree fuel cs = (toTree j, ',' :: (gap ++ c :: cs'))) :
    readItems (fuel + 1) cs =
      (.cons (toTree j) (readItems fuel (c :: cs')).1, (readItems fuel (c :: cs')).2) := by
  rw [readItems, hread]
  simp only [skipSpace_append hgap, skipSpace_cons (c := ',') (by decide), skipSpace_cons hc.1]
  split
  · rename_i hcut
    exact absurd hcut (toTree_ne_cut j)
  · split
    · rename_i heq
      exact absurd (List.cons.inj heq).1 hc.2
    · rfl

theorem quote_append (k : String) (cs : List Char) :
    quote k ++ cs = '"' :: (k.toList.flatMap escapeChar ++ '"' :: cs) := by
  simp [quote]

theorem readMembers_last {fuel : Nat} {k : String} {cs back rest : List Char} {j : Json}
    (hback : AllSpace back) (hread : readTree fuel cs = (toTree j, back ++ '\x7d' :: rest)) :
    readMembers (fuel + 1) (quote k ++ ':' :: cs) = (.cons (.str k) (toTree j) .nil, rest) := by
  rw [quote_append, readMembers, skipSpace_cons (by decide)]
  simp only [readQuoted_quote, skipSpace_cons (c := ':') (by decide), hread,
    skipSpace_append hback, skipSpace_cons (c := '\x7d') (by decide)]

theorem readMembers_more {fuel : Nat} {k : String} {cs gap cs' : List Char} {j : Json}
    (hgap : AllSpace gap) (hread : readTree fuel cs = (toTree j, ',' :: (gap ++ '"' :: cs'))) :
    readMembers (fuel + 1) (quote k ++ ':' :: cs) =
      (.cons (.str k) (toTree j) (readMembers fuel ('"' :: cs')).1,
        (readMembers fuel ('"' :: cs')).2) := by
  rw [quote_append, readMembers, skipSpace_cons (by decide)]
  simp only [readQuoted_quote, skipSpace_cons (c := ':') (by decide), hread,
    skipSpace_cons (c := ',') (by decide), skipSpace_append hgap,
    skipSpace_cons (c := '"') (by decide)]
  rfl

/-! ## Whole values -/

theorem readTree_append_space {gap : List Char} (h : AllSpace gap) (fuel : Nat) (cs : List Char) :
    readTree (fuel + 1) (gap ++ cs) = readTree (fuel + 1) cs := by
  rw [readTree, readTree, skipSpace_append h]

mutual

theorem Written.read {j : Json} {text : List Char} (h : Written j text) {fuel : Nat}
    (hfuel : text.length < fuel) {rest : List Char} (hrest : EndsNumber rest) :
    readTree fuel (text ++ rest) = (toTree j, rest) := by
  obtain ⟨fuel, rfl⟩ : ∃ k, fuel = k + 1 := ⟨fuel - 1, by omega⟩
  match h with
  | .null => rfl
  | .yes => rfl
  | .no => rfl
  | .int hn =>
      -- The other texts end by themselves, a number by what follows it.
      obtain ⟨c, cs, hc, hnumeric⟩ := exists_intText _
      obtain ⟨numeral, hread, hvalue⟩ := exists_readNumeral hn hrest
      rw [hc, List.cons_append] at hread ⊢
      rw [readTree_number hnumeric, hread]
      simp only [hvalue]
      rfl
  | .str s =>
      rw [quote_append, readTree, skipSpace_cons (by decide)]
      exact readQuoted_quote s rest
  | .noItems => rfl
  | @Written.arr items text front back hfront hitems hback =>
      have hlen : text.length + 1 < fuel := by
        simp only [List.length_cons, List.length_append] at hfuel
        omega
      have hread := hitems.read hlen hback rest
      obtain ⟨c, cs, htext, hc⟩ := hitems.exists_begins
      have hsplit : '[' :: (front ++ text ++ back ++ [']']) ++ rest =
          '[' :: (front ++ c :: (cs ++ (back ++ ']' :: rest))) := by
        simp [htext]
      rw [htext, List.cons_append] at hread
      rw [hsplit, readTree_items hfront hc, hread]
      rfl
  | .noMembers => rfl
  | @Written.obj members text front back hfront hmembers hback =>
      have hlen : text.length + 1 < fuel := by
        simp only [List.length_cons, List.length_append] at hfuel
        omega
      have hread := hmembers.read hlen hback rest
      obtain ⟨cs, htext⟩ := hmembers.exists_begins
      have hsplit : '\x7b' :: (front ++ text ++ back ++ ['\x7d']) ++ rest =
          '\x7b' :: (front ++ '"' :: (cs ++ (back ++ '\x7d' :: rest))) := by
        simp [htext]
      rw [htext, List.cons_append] at hread
      rw [hsplit, readTree_members hfront, hread]
      rfl

theorem WrittenItems.read {js : List Json} {text : List Char} (h : WrittenItems js text)
    {fuel : Nat} (hfuel : text.length + 1 < fuel) {back : List Char} (hback : AllSpace back)
    (rest : List Char) : readItems fuel (text ++ (back ++ ']' :: rest)) = (toItems js, rest) := by
  obtain ⟨fuel, rfl⟩ : ∃ k, fuel = k + 1 := ⟨fuel - 1, by omega⟩
  match h with
  | .one h =>
      have hlen : text.length < fuel := by omega
      have hends : EndsNumber (back ++ ']' :: rest) :=
        endsNumber_append hback (endsNumber_cons (by decide) rest)
      exact readItems_last hback (h.read hlen hends)
  | @WrittenItems.more j js text texts gap h hgap hs =>
      have hlen : text.length < fuel ∧ texts.length + 1 < fuel := by
        simp only [List.length_cons, List.length_append] at hfuel
        omega
      have hrest := hs.read hlen.2 hback rest
      obtain ⟨c, cs, htexts, hc⟩ := hs.exists_begins
      have hread := h.read hlen.1
        (endsNumber_cons (c := ',') (by decide) (gap ++ c :: (cs ++ (back ++ ']' :: rest))))
      have hsplit : text ++ ',' :: (gap ++ texts) ++ (back ++ ']' :: rest) =
          text ++ ',' :: (gap ++ c :: (cs ++ (back ++ ']' :: rest))) := by
        simp [htexts]
      rw [htexts, List.cons_append] at hrest
      rw [hsplit, readItems_more hgap hc hread, hrest]
      rfl

theorem WrittenMembers.read {ms : List (String × Json)} {text : List Char}
    (h : WrittenMembers ms text) {fuel : Nat} (hfuel : text.length + 1 < fuel) {back : List Char}
    (hback : AllSpace back) (rest : List Char) :
    readMembers fuel (text ++ (back ++ '\x7d' :: rest)) = (toMembers ms, rest) := by
  obtain ⟨fuel, rfl⟩ : ∃ k, fuel = k + 1 := ⟨fuel - 1, by omega⟩
  match h with
  | @WrittenMembers.one k j text gap hgap h =>
      -- The name and the colon take up more than the fuel of one step.
      have hlen : text.length < fuel := by
        simp only [List.length_cons, List.length_append] at hfuel
        omega
      have hends : EndsNumber (back ++ '\x7d' :: rest) :=
        endsNumber_append hback (endsNumber_cons (by decide) rest)
      have hread := h.read hlen hends
      obtain ⟨fuel, rfl⟩ : ∃ k, fuel = k + 1 := ⟨fuel - 1, by omega⟩
      rw [← readTree_append_space hgap] at hread
      have hsplit : quote k ++ ':' :: (gap ++ text) ++ (back ++ '\x7d' :: rest) =
          quote k ++ ':' :: (gap ++ (text ++ (back ++ '\x7d' :: rest))) := by
        simp
      rw [hsplit, readMembers_last hback hread]
      rfl
  | @WrittenMembers.more k j ms text texts gap gap' hgap h hgap' hs =>
      have hlen : text.length < fuel ∧ texts.length + 1 < fuel := by
        simp only [List.length_cons, List.length_append] at hfuel
        omega
      have hrest := hs.read hlen.2 hback rest
      obtain ⟨cs, htexts⟩ := hs.exists_begins
      have hread := h.read hlen.1
        (endsNumber_cons (c := ',') (by decide) (gap' ++ '"' :: (cs ++ (back ++ '\x7d' :: rest))))
      obtain ⟨fuel, rfl⟩ : ∃ k, fuel = k + 1 := ⟨fuel - 1, by omega⟩
      rw [← readTree_append_space hgap] at hread
      have hsplit : quote k ++ ':' :: (gap ++ text ++ ',' :: (gap' ++ texts)) ++
          (back ++ '\x7d' :: rest) = quote k ++ ':' ::
            (gap ++ (text ++ ',' :: (gap' ++ '"' :: (cs ++ (back ++ '\x7d' :: rest))))) := by
        simp [htexts]
      rw [htexts, List.cons_append] at hrest
      rw [hsplit, readMembers_more hgap' hread, hrest]
      rfl

end

/-! ## Whole texts -/

/-- A text of a value, with space behind it, is read as that value. -/
theorem Written.readDocument_eq {j : Json} {text back : List Char} (h : Written j text)
    (hback : AllSpace back) : readDocument (String.ofList (text ++ back)) = ⟨toTree j, true⟩ := by
  have hends : EndsNumber back := by
    rw [← List.append_nil back]
    exact endsNumber_append hback endsNumber_nil
  have hlen : text.length < (text ++ back).length + 1 := by
    rw [List.length_append]
    omega
  have hclean : (skipSpace back).isEmpty = true := by
    rw [← List.append_nil back, skipSpace_append hback]
    rfl
  simp only [readDocument, String.toList_ofList, h.read hlen hends, hclean]

variable {α : Type} {j : Json}

theorem Written.decode_eq {text back : List Char} (h : Written j text) (hback : AllSpace back)
    (d : Decoder α) : decode d (String.ofList (text ++ back)) = d (toTree j) := by
  simp only [decode, h.readDocument_eq hback]
  cases d (toTree j) <;> rfl

theorem decode_compact (h : j.Fits) (d : Decoder α) : decode d j.compact = d (toTree j) := by
  have := (written_compact j h).decode_eq allSpace_nil d
  rwa [List.append_nil] at this

theorem decode_pretty (h : j.Fits) (d : Decoder α) : decode d j.pretty = d (toTree j) := by
  have := (written_pretty j 0 h).decode_eq allSpace_nil d
  rwa [List.append_nil] at this

/-- The pretty text may stand on lines of its own. -/
theorem decode_prettyLine (h : j.Fits) (d : Decoder α) :
    decode d (j.pretty ++ "\n") = d (toTree j) := by
  have hback : AllSpace ['\n'] := List.forall_mem_singleton.mpr rfl
  rw [← (written_pretty j 0 h).decode_eq hback d, String.ofList_append]
  rfl

end Fanout.Json
