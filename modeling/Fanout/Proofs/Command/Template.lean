import Fanout.Command.Template
import Mathlib.Data.List.Basic
import Mathlib.Data.List.Infix
import Mathlib.Data.List.Nodup

/-!
# Templates filled in one pass

A template names its places, and a host has a value for each. Filling all places in one pass writes every
value just as it is. Filling one kind of place after the other also looks at the values written before, so
the two agree where no place of a later kind has come up among the values.
-/
namespace Fanout

namespace Chars

/-! ## Filling in one pass -/

/-- Fills the places of a text with their values, after passing over the rest of one already filled. -/
def fillFrom (places : List (List Char × List Char)) : Nat → List Char → List Char
  | _, [] => []
  | skip + 1, _ :: cs => fillFrom places skip cs
  | 0, c :: cs =>
    match places.find? fun p => p.1.isPrefixOf (c :: cs) with
    | some p => p.2 ++ fillFrom places (p.1.length - 1) cs
    | none => c :: fillFrom places 0 cs

/-- One pass from left to right; what is written for a place is not looked at again. -/
def fill (places : List (List Char × List Char)) (cs : List Char) : List Char :=
  fillFrom places 0 cs

/-- Replacing is filling places of one kind. -/
theorem replace_eq_fill (p : List Char × List Char) (cs : List Char) :
    replace p.1 p.2 cs = fill [p] cs := by
  suffices h : ∀ skip, replaceFrom p.1 p.2 skip cs = fillFrom [p] skip cs from h 0
  induction cs with
  | nil => intro skip; cases skip <;> rfl
  | cons c cs ih =>
      intro skip
      cases skip with
      | succ skip => exact ih skip
      | zero => cases h : p.1.isPrefixOf (c :: cs) <;> simp [replaceFrom, fillFrom, h, ih]

theorem fillFrom_append {places : List (List Char × List Char)} (front cs : List Char) :
    fillFrom places front.length (front ++ cs) = fill places cs := by
  induction front with
  | nil => rfl
  | cons c front ih => exact ih

variable {places : List (List Char × List Char)} {p : List Char × List Char}
  {c : Char} {cs front value : List Char}

/-- A character on which no place begins is copied. -/
theorem fill_cons (h : ∀ p ∈ places, ¬ p.1 <+: c :: cs) :
    fill places (c :: cs) = c :: fill places cs := by
  have hnone : places.find? (fun p => p.1.isPrefixOf (c :: cs)) = none := by
    simpa [List.find?_eq_none] using h
  simp [fill, fillFrom, hnone]

/-! ## Places between braces -/

/-- A name between braces. -/
def Braced (place : List Char) : Prop :=
  ∃ name, place = '\x7b' :: (name ++ ['\x7d']) ∧ '\x7b' ∉ name ∧ '\x7d' ∉ name

/-- The closing brace ends a place, so two places that begin one text are the same. -/
theorem Braced.eq_of_begins {a b : List Char} (ha : Braced a) (hb : Braced b) (hpa : a <+: cs)
    (hpb : b <+: cs) : a = b := by
  suffices h : ∀ {a b : List Char}, Braced a → Braced b → a <+: b → a = b by
    rcases List.prefix_or_prefix_of_prefix hpa hpb with hab | hba
    · exact h ha hb hab
    · exact (h hb ha hba).symm
  rintro a b ⟨name, rfl, -, -⟩ ⟨name', rfl, -, hname'⟩ ⟨rest, hrest⟩
  have heq : name' ++ '\x7d' :: [] = name ++ '\x7d' :: rest := by simpa using hrest.symm
  obtain ⟨rfl, -, -⟩ := (List.append_cons_inj_of_notMem hname' List.not_mem_nil).mp heq
  rfl

theorem Braced.opens (h : Braced front) : ∃ rest, front = '\x7b' :: rest ∧ '\x7b' ∉ rest := by
  obtain ⟨name, rfl, hname, -⟩ := h
  exact ⟨name ++ ['\x7d'], rfl, by simp [hname]⟩

/-- Places between braces, one of each name. -/
structure Places (places : List (List Char × List Char)) : Prop where
  braced : ∀ p ∈ places, Braced p.1
  distinct : (places.map Prod.fst).Nodup

theorem Places.tail (h : Places (p :: places)) : Places places :=
  ⟨fun q hq => h.braced q (List.mem_cons_of_mem _ hq), (List.nodup_cons.mp h.distinct).2⟩

theorem Places.head (h : Places (p :: places)) : Places [p] :=
  ⟨fun q hq => h.braced q (List.mem_singleton.mp hq ▸ List.mem_cons_self), List.pairwise_singleton _ _⟩

theorem Places.eq_of_place_eq {q : List Char × List Char} (h : Places places) (hq : q ∈ places)
    (hp : p ∈ places) (he : q.1 = p.1) : q = p :=
  List.inj_on_of_nodup_map h.distinct hq hp he

/-- A place is filled with its value. -/
theorem fill_place (h : Places places) (hp : p ∈ places) :
    fill places (p.1 ++ cs) = p.2 ++ fill places cs := by
  obtain ⟨rest, hopen, -⟩ := (h.braced p hp).opens
  have hfind : places.find? (fun q => q.1.isPrefixOf (p.1 ++ cs)) = some p := by
    cases hq : places.find? fun q => q.1.isPrefixOf (p.1 ++ cs) with
    | none =>
        have hno := List.find?_eq_none.mp hq p hp
        exact absurd (List.isPrefixOf_iff_prefix.mpr (List.prefix_append p.1 cs)) hno
    | some q =>
        have hmem := List.mem_of_find?_eq_some hq
        have hbegins : q.1 <+: p.1 ++ cs := by simpa using List.find?_some hq
        have he := (h.braced q hmem).eq_of_begins (h.braced p hp) hbegins (List.prefix_append _ _)
        rw [h.eq_of_place_eq hmem hp he]
  have hlength : p.1.length - 1 = rest.length := by simp [hopen]
  rw [hopen, List.cons_append] at hfind ⊢
  rw [fill, fillFrom, hfind]
  simp only [hlength, fillFrom_append]

/-- What holds no opening brace is copied. -/
theorem fill_append_of_not_mem (h : ∀ p ∈ places, Braced p.1) (hfront : '\x7b' ∉ front) :
    fill places (front ++ cs) = front ++ fill places cs := by
  induction front with
  | nil => rfl
  | cons c front ih =>
      obtain ⟨hc, hfront⟩ := List.ne_and_not_mem_of_not_mem_cons hfront
      have hnone : ∀ p ∈ places, ¬ p.1 <+: c :: (front ++ cs) := by
        intro p hp hbegins
        obtain ⟨rest, hopen, -⟩ := (h p hp).opens
        rw [hopen, List.cons_prefix_cons] at hbegins
        exact hc hbegins.1
      rw [List.cons_append, fill_cons hnone, ih hfront, List.cons_append]

/-- A place of another kind is copied. -/
theorem fill_other (h : ∀ p ∈ places, Braced p.1) (hfront : Braced front)
    (hother : front ∉ places.map Prod.fst) :
    fill places (front ++ cs) = front ++ fill places cs := by
  have hnone : ∀ p ∈ places, ¬ p.1 <+: front ++ cs := by
    intro p hp hbegins
    have he := (h p hp).eq_of_begins hfront hbegins (List.prefix_append _ _)
    exact hother (he ▸ List.mem_map_of_mem hp)
  obtain ⟨rest, rfl, hrest⟩ := hfront.opens
  rw [List.cons_append] at hnone ⊢
  rw [fill_cons hnone, fill_append_of_not_mem h hrest, List.cons_append]

/-! ## One kind after the other -/

/-- A place that begins in a value is still there when what follows is filled: the part of it behind the
value holds no opening brace. -/
theorem prefix_append_fill (h : ∀ p ∈ places, Braced p.1) (hfront : Braced front)
    (hbegins : front <+: c :: (value ++ cs)) : front <+: c :: (value ++ fill places cs) := by
  obtain ⟨rest, rfl, hrest⟩ := hfront.opens
  obtain ⟨hc, hbegins⟩ := List.cons_prefix_cons.mp hbegins
  refine List.cons_prefix_cons.mpr ⟨hc, ?_⟩
  rcases List.prefix_or_prefix_of_prefix hbegins (List.prefix_append value cs) with hin | ⟨back, rfl⟩
  · exact hin.trans (List.prefix_append _ _)
  · obtain ⟨tail, rfl⟩ := (List.prefix_append_right_inj value).mp hbegins
    have hback : '\x7b' ∉ back := fun hmem => hrest (List.mem_append_right value hmem)
    rw [fill_append_of_not_mem h hback, List.prefix_append_right_inj]
    exact List.prefix_append _ _

/-- A value is copied if no place has come up in it. -/
theorem fill_value (h : ∀ p ∈ places, Braced p.1)
    (hnone : ∀ p ∈ places, ¬ p.1 <:+: value ++ fill places cs) :
    fill places (value ++ cs) = value ++ fill places cs := by
  induction value with
  | nil => rfl
  | cons c value ih =>
      have hhere : ∀ p ∈ places, ¬ p.1 <+: c :: (value ++ cs) := fun p hp hbegins =>
        hnone p hp (prefix_append_fill h (h p hp) hbegins).isInfix
      have hlater : ∀ p ∈ places, ¬ p.1 <:+: value ++ fill places cs := fun p hp hpart =>
        hnone p hp (hpart.trans (List.infix_cons (List.infix_refl _)))
      rw [List.cons_append, fill_cons hhere, ih hlater, List.cons_append]

/-- A text is read from left to right: it begins with a place, or with a character on which none begins. -/
theorem text_induction (places : List (List Char × List Char)) (hopen : ∀ p ∈ places, Braced p.1)
    {motive : List Char → Prop} (nil : motive [])
    (place : ∀ p ∈ places, ∀ cs, motive cs → motive (p.1 ++ cs))
    (char : ∀ c cs, (∀ p ∈ places, ¬ p.1 <+: c :: cs) → motive cs → motive (c :: cs))
    (cs : List Char) : motive cs := by
  induction hn : cs.length using Nat.strong_induction_on generalizing cs with
  | _ n ih =>
      by_cases hbegins : ∃ p ∈ places, p.1 <+: cs
      · obtain ⟨p, hp, rest, rfl⟩ := hbegins
        obtain ⟨tail, htail, -⟩ := (hopen p hp).opens
        refine place p hp rest (ih rest.length ?_ rest rfl)
        simp only [← hn, htail, List.length_append, List.length_cons]
        omega
      · cases cs with
        | nil => exact nil
        | cons c cs =>
            refine char c cs (fun p hp hp' => hbegins ⟨p, hp, hp'⟩) (ih cs.length ?_ cs rfl)
            simp [← hn]

/-- Filling one kind of place before the others comes to the same if no place of the others is left. -/
theorem fill_fill (h : Places (p :: places)) (hnone : ∀ q ∈ places, ¬ q.1 <:+: fill (p :: places) cs) :
    fill places (fill [p] cs) = fill (p :: places) cs := by
  have hbraced := h.tail.braced
  induction cs using text_induction (p :: places) h.braced with
  | nil => rfl
  | place q hq cs ih =>
      rw [fill_place h hq] at hnone ⊢
      have hlater : ∀ r ∈ places, ¬ r.1 <:+: fill (p :: places) cs := fun r hr hpart =>
        hnone r hr (hpart.trans (List.suffix_append _ _).isInfix)
      have ih := ih hlater
      rcases List.mem_cons.mp hq with rfl | hq
      · -- What stands behind the value is filled later, so the value itself must hold no place.
        rw [fill_place h.head List.mem_cons_self, fill_value hbraced (ih.symm ▸ hnone), ih]
      · have hother : q.1 ∉ [p].map Prod.fst := by
          intro hmem
          obtain he : q.1 = p.1 := by simpa using hmem
          exact (List.nodup_cons.mp h.distinct).1 (he ▸ List.mem_map_of_mem hq)
        rw [fill_other h.head.braced (hbraced q hq) hother, fill_place h.tail hq, ih]
  | char c cs hc ih =>
      rw [fill_cons hc] at hnone ⊢
      have hlater : ∀ r ∈ places, ¬ r.1 <:+: fill (p :: places) cs := fun r hr hpart =>
        hnone r hr (hpart.trans (List.infix_cons (List.infix_refl _)))
      have ih := ih hlater
      have hcopied : fill places ([c] ++ fill [p] cs) = [c] ++ fill places (fill [p] cs) :=
        fill_value hbraced (by rw [ih]; exact hnone)
      rw [fill_cons fun q hq => hc q (List.mem_singleton.mp hq ▸ List.mem_cons_self)]
      rw [List.singleton_append, List.singleton_append, ih] at hcopied
      exact hcopied

theorem fill_nil (cs : List Char) : fill [] cs = cs := by
  induction cs with
  | nil => rfl
  | cons c cs ih => rw [fill_cons (by simp), ih]

/-- Filling the kinds of places in turn is filling them at once, if no place but one of the first kind
has come up. -/
theorem foldl_fill (h : Places places) (hnone : ∀ p ∈ places.tail, ¬ p.1 <:+: fill places cs) :
    places.foldl (fun cs p => fill [p] cs) cs = fill places cs := by
  induction places generalizing cs with
  | nil => exact (fill_nil cs).symm
  | cons p places ih =>
      have hstep := fill_fill h hnone
      have hlater : ∀ q ∈ places.tail, ¬ q.1 <:+: fill places (fill [p] cs) := fun q hq =>
        hstep ▸ hnone q (List.mem_of_mem_tail hq)
      rw [List.foldl_cons, ih h.tail hlater, hstep]

end Chars

/-! ## Templates -/

/-- The places of a template, as characters. -/
def templatePlaces (h : Host) : List (List Char × List Char) :=
  (placeholders h).map fun p => (p.1.toList, p.2.toList)

/-- The command of a host, all places being filled at once. -/
def fillTemplate (template : String) (h : Host) : String :=
  Text.onChars (Chars.fill (templatePlaces h)) template

theorem places_templatePlaces (h : Host) : Chars.Places (templatePlaces h) where
  braced := by
    simp only [templatePlaces, placeholders, List.map_cons, List.map_nil, List.forall_mem_cons]
    exact ⟨⟨"host".toList, by decide⟩, ⟨"port".toList, by decide⟩, ⟨"content".toList, by decide⟩,
      ⟨"datadir".toList, by decide⟩, ⟨"role".toList, by decide⟩, nofun⟩
  distinct := by
    simp only [templatePlaces, placeholders, List.map_cons, List.map_nil]
    decide

theorem toList_expandTemplate (template : String) (h : Host) : (expandTemplate template h).toList =
    (templatePlaces h).foldl (fun cs p => Chars.fill [p] cs) template.toList := by
  rw [expandTemplate, templatePlaces]
  generalize placeholders h = places
  induction places generalizing template with
  | nil => rfl
  | cons p places ih =>
      rw [List.foldl_cons, ih, List.map_cons, List.foldl_cons, ← Chars.replace_eq_fill, Text.replace,
        Text.toList_onChars]

/-- Filling a template's places one kind after the other comes to filling them at once, unless a place has
come up that stands in no template: one that a value brings along, or one that closes around a value. -/
theorem expandTemplate_eq_fillTemplate (template : String) (h : Host)
    (hnone : ∀ p ∈ (placeholders h).tail, ¬ p.1.toList <:+: (fillTemplate template h).toList) :
    expandTemplate template h = fillTemplate template h := by
  have hnone' : ∀ p ∈ (templatePlaces h).tail,
      ¬ p.1 <:+: Chars.fill (templatePlaces h) template.toList := by
    simp only [fillTemplate, Text.toList_onChars] at hnone
    exact List.map_tail ▸ List.forall_mem_map.mpr hnone
  rw [← String.toList_inj, toList_expandTemplate, fillTemplate, Text.toList_onChars,
    Chars.foldl_fill (places_templatePlaces h) hnone']

theorem expandTemplate_eq_fillTemplate_mirror :
    let h := (Host.segment 3 .mirror "sdw4" 7003).withDataDir "/data/mirror/gpseg3"
    (∀ p ∈ (placeholders h).tail, ¬ p.1.toList <:+:
      (fillTemplate "ls \x7bdatadir\x7d # \x7brole\x7d on \x7bhost\x7d:\x7bport\x7d" h).toList) ∧
    expandTemplate "ls \x7bdatadir\x7d # \x7brole\x7d on \x7bhost\x7d:\x7bport\x7d" h =
      "ls /data/mirror/gpseg3 # mirror on sdw4:7003" := by
  intro h
  have hfill : fillTemplate "ls \x7bdatadir\x7d # \x7brole\x7d on \x7bhost\x7d:\x7bport\x7d" h =
      "ls /data/mirror/gpseg3 # mirror on sdw4:7003" := by decide
  have hnone : ∀ p ∈ (placeholders h).tail, ¬ p.1.toList <:+:
      (fillTemplate "ls \x7bdatadir\x7d # \x7brole\x7d on \x7bhost\x7d:\x7bport\x7d" h).toList := by
    rw [hfill]
    decide
  exact ⟨hnone, (expandTemplate_eq_fillTemplate _ h hnone).trans hfill⟩

/-- A value that holds a place is not written as it is, and a place that closes around a value is filled. -/
theorem expandTemplate_ne_fillTemplate :
    (expandTemplate "ls \x7bdatadir\x7d" ((Host.ofHostname "sdw1").withDataDir "/data/\x7brole\x7d") =
        "ls /data/primary" ∧
      fillTemplate "ls \x7bdatadir\x7d" ((Host.ofHostname "sdw1").withDataDir "/data/\x7brole\x7d") =
        "ls /data/\x7brole\x7d") ∧
    expandTemplate "\x7bpo\x7bhost\x7drt\x7d" ((Host.ofHostname "").withPort 6000) = "6000" ∧
    fillTemplate "\x7bpo\x7bhost\x7drt\x7d" ((Host.ofHostname "").withPort 6000) = "\x7bport\x7d" := by
  decide

end Fanout
