import Fanout.Proofs.Json.Scalar

/-!
# Texts of a value

The texts that say the same value, with space in the places where the two layouts have it: inside
brackets and braces, after a comma and after a colon. Both layouts are among them as long as the
whole numbers are within 64 bits.
-/
namespace Fanout.Json

def AllSpace (cs : List Char) : Prop :=
  ∀ c ∈ cs, isSpace c = true

mutual

inductive Written : Json → List Char → Prop where
  | null : Written .null ['n', 'u', 'l', 'l']
  | yes : Written (.bool true) ['t', 'r', 'u', 'e']
  | no : Written (.bool false) ['f', 'a', 'l', 's', 'e']
  | int {n : Int} (hn : IntFits n) : Written (.int n) (intText n)
  | str (s : String) : Written (.str s) (quote s)
  | noItems : Written (.arr []) ['[', ']']
  | arr {items : List Json} {text front back : List Char} (hfront : AllSpace front)
      (h : WrittenItems items text) (hback : AllSpace back) :
      Written (.arr items) ('[' :: (front ++ text ++ back ++ [']']))
  | noMembers : Written (.obj []) ['\x7b', '\x7d']
  | obj {members : List (String × Json)} {text front back : List Char} (hfront : AllSpace front)
      (h : WrittenMembers members text) (hback : AllSpace back) :
      Written (.obj members) ('\x7b' :: (front ++ text ++ back ++ ['\x7d']))

inductive WrittenItems : List Json → List Char → Prop where
  | one {j : Json} {text : List Char} (h : Written j text) : WrittenItems [j] text
  | more {j : Json} {js : List Json} {text texts gap : List Char} (h : Written j text)
      (hgap : AllSpace gap) (hs : WrittenItems js texts) :
      WrittenItems (j :: js) (text ++ ',' :: (gap ++ texts))

inductive WrittenMembers : List (String × Json) → List Char → Prop where
  | one {k : String} {j : Json} {text gap : List Char} (hgap : AllSpace gap) (h : Written j text) :
      WrittenMembers [(k, j)] (quote k ++ ':' :: (gap ++ text))
  | more {k : String} {j : Json} {ms : List (String × Json)} {text texts gap gap' : List Char}
      (hgap : AllSpace gap) (h : Written j text) (hgap' : AllSpace gap')
      (hs : WrittenMembers ms texts) :
      WrittenMembers ((k, j) :: ms) (quote k ++ ':' :: (gap ++ text ++ ',' :: (gap' ++ texts)))

end

mutual

/-- All whole numbers of a value are within 64 bits. -/
def Fits : Json → Prop
  | .int n => IntFits n
  | .arr items => FitsItems items
  | .obj members => FitsMembers members
  | _ => True

def FitsItems : List Json → Prop
  | [] => True
  | j :: js => Fits j ∧ FitsItems js

def FitsMembers : List (String × Json) → Prop
  | [] => True
  | (_, j) :: ms => Fits j ∧ FitsMembers ms

end

/-! ## The compact layout -/

theorem allSpace_nil : AllSpace [] := List.forall_mem_nil _

mutual

theorem written_compact : ∀ j : Json, j.Fits → Written j (compactChars j)
  | .null, _ => .null
  | .bool true, _ => .yes
  | .bool false, _ => .no
  | .int _, h => .int h
  | .str s, _ => .str s
  | .arr [], _ => .noItems
  | .arr (j :: js), h => by
      have hitems := written_compactItems (j :: js) h (List.cons_ne_nil j js)
      simpa [compactChars] using Written.arr allSpace_nil hitems allSpace_nil
  | .obj [], _ => .noMembers
  | .obj (m :: ms), h => by
      have hmembers := written_compactMembers (m :: ms) h (List.cons_ne_nil m ms)
      simpa [compactChars] using Written.obj allSpace_nil hmembers allSpace_nil

theorem written_compactItems : ∀ js : List Json, FitsItems js → js ≠ [] →
    WrittenItems js (compactItems js)
  | [], _, hne => absurd rfl hne
  | [j], h, _ => .one (written_compact j h.1)
  | j :: i :: js, h, _ => by
      have hrest := written_compactItems (i :: js) h.2 (List.cons_ne_nil i js)
      simpa [compactItems] using WrittenItems.more (written_compact j h.1) allSpace_nil hrest

theorem written_compactMembers : ∀ ms : List (String × Json), FitsMembers ms → ms ≠ [] →
    WrittenMembers ms (compactMembers ms)
  | [], _, hne => absurd rfl hne
  | [(_, j)], h, _ => .one allSpace_nil (written_compact j h.1)
  | (k, j) :: m :: ms, h, _ => by
      have hrest := written_compactMembers (m :: ms) h.2 (List.cons_ne_nil m ms)
      simpa [compactMembers] using
        WrittenMembers.more allSpace_nil (written_compact j h.1) allSpace_nil hrest

end

/-! ## The pretty layout -/

theorem allSpace_breakLine (level : Nat) : AllSpace (breakLine level) := by
  intro c hc
  rcases List.mem_cons.mp hc with rfl | hc
  · rfl
  · rw [List.eq_of_mem_replicate hc]
    rfl

theorem allSpace_single : AllSpace [' '] := List.forall_mem_singleton.mpr rfl

mutual

theorem written_pretty : ∀ (j : Json) (level : Nat), j.Fits → Written j (prettyChars level j)
  | .null, _, _ => .null
  | .bool true, _, _ => .yes
  | .bool false, _, _ => .no
  | .int _, _, h => .int h
  | .str s, _, _ => .str s
  | .arr [], _, _ => .noItems
  | .arr (j :: js), level, h => by
      have hitems := written_prettyItems (j :: js) (level + 1) h (List.cons_ne_nil j js)
      simpa [prettyChars] using
        Written.arr (allSpace_breakLine (level + 1)) hitems (allSpace_breakLine level)
  | .obj [], _, _ => .noMembers
  | .obj (m :: ms), level, h => by
      have hmembers := written_prettyMembers (m :: ms) (level + 1) h (List.cons_ne_nil m ms)
      simpa [prettyChars] using
        Written.obj (allSpace_breakLine (level + 1)) hmembers (allSpace_breakLine level)

theorem written_prettyItems : ∀ (js : List Json) (level : Nat), FitsItems js → js ≠ [] →
    WrittenItems js (prettyItems level js)
  | [], _, _, hne => absurd rfl hne
  | [j], level, h, _ => .one (written_pretty j level h.1)
  | j :: i :: js, level, h, _ => by
      have hrest := written_prettyItems (i :: js) level h.2 (List.cons_ne_nil i js)
      simpa [prettyItems] using
        WrittenItems.more (written_pretty j level h.1) (allSpace_breakLine level) hrest

theorem written_prettyMembers : ∀ (ms : List (String × Json)) (level : Nat), FitsMembers ms →
    ms ≠ [] → WrittenMembers ms (prettyMembers level ms)
  | [], _, _, hne => absurd rfl hne
  | [(_, j)], level, h, _ => .one allSpace_single (written_pretty j level h.1)
  | (k, j) :: m :: ms, level, h, _ => by
      have hrest := written_prettyMembers (m :: ms) level h.2 (List.cons_ne_nil m ms)
      simpa [prettyMembers] using WrittenMembers.more allSpace_single (written_pretty j level h.1)
        (allSpace_breakLine level) hrest

end

end Fanout.Json
