import Fanout.Proofs.Json.Reading
import Fanout.Proofs.Lookup

/-!
# Decoding what was encoded

A decoder that gives back the value of each part gives back the whole: of an optional value, a list, a
map, and a record whose members are its fields. Members that are no fields are passed over.
-/
namespace Fanout.Json

variable {α : Type} {d : Decoder α} {f : α → Json}

mutual

theorem isWhole_toTree : ∀ j : Json, (toTree j).isWhole = true
  | .null => rfl
  | .bool _ => rfl
  | .int _ => rfl
  | .str _ => rfl
  | .arr items => isWhole_toItems items
  | .obj members => isWhole_toMembers members

theorem isWhole_toItems : ∀ js : List Json, (toItems js).isWhole = true
  | [] => rfl
  | j :: js => by
      rw [toItems, Items.isWhole, isWhole_toTree j, isWhole_toItems js]
      rfl

theorem isWhole_toMembers : ∀ ms : List (String × Json), (toMembers ms).isWhole = true
  | [] => rfl
  | (k, j) :: ms => by
      rw [toMembers, Members.isWhole, isWhole_toTree j, isWhole_toMembers ms]
      rfl

end

theorem fitsItems_iff {js : List Json} : FitsItems js ↔ ∀ j ∈ js, j.Fits := by
  induction js with
  | nil => simp [FitsItems]
  | cons j js ih => rw [FitsItems, ih, List.forall_mem_cons]

theorem fitsMembers_iff {ms : List (String × Json)} : FitsMembers ms ↔ ∀ m ∈ ms, m.2.Fits := by
  induction ms with
  | nil => simp [FitsMembers]
  | cons m ms ih => rw [FitsMembers, ih, List.forall_mem_cons]

/-- The decoder gives back what was encoded, from a tree with no number in it that a text would not
keep. -/
structure Inverts (d : Decoder α) (f : α → Json) : Prop where
  fits (a : α) : (f a).Fits
  eq (a : α) : d (toTree (f a)) = .ok a

/-- Both layouts are read as the value that was written. -/
def ReadsBack (d : Decoder α) (f : α → Json) : Prop :=
  ∀ a, decode d (f a).compact = .ok a ∧ decode d (f a).pretty = .ok a

theorem Inverts.readsBack (h : Inverts d f) : ReadsBack d f := fun a =>
  ⟨(decode_compact (h.fits a) d).trans (h.eq a), (decode_pretty (h.fits a) d).trans (h.eq a)⟩

namespace Decode

/-! ## Parts -/

theorem inverts_text : Inverts text .str := ⟨fun _ => trivial, fun _ => rfl⟩

theorem inverts_bool : Inverts bool .bool := ⟨fun _ => trivial, fun _ => rfl⟩

theorem integer_int {low high n : Int} (hlow : low ≤ n) (hhigh : n ≤ high) (expected : String) :
    integer low high expected (toTree (.int n)) = .ok n := by
  cases n with
  | ofNat n =>
    simp only [toTree, Number.ofInt, integer]
    exact if_pos hhigh
  | negSucc n =>
    simp only [toTree, Number.ofInt, integer]
    exact if_pos hlow

theorem size_int {n : Nat} (h : n < UInt64.size) : size (toTree (.int n)) = .ok n := by
  have hhigh : (n : Int) ≤ UInt64.size - 1 := by omega
  rw [size, integer_int (Int.natCast_nonneg n) hhigh]
  rfl

theorem inverts_portNumber : Inverts portNumber fun p => .int p.toNat := by
  constructor
  case fits =>
    intro p
    have hlt := p.toNat_lt
    simp only [Fits, IntFits, UInt64.size]
    omega
  case eq =>
    intro p
    have hhigh : (p.toNat : Int) ≤ UInt16.size - 1 := by
      have := p.toNat_lt_size
      omega
    rw [portNumber, integer_int (Int.natCast_nonneg p.toNat) hhigh]
    exact congrArg Except.ok p.ofNat_toNat

theorem inverts_contentNumber : Inverts contentNumber fun c => .int c.toInt := by
  constructor
  case fits =>
    intro c
    have hlow := c.le_toInt
    have hhigh := c.toInt_lt
    simp only [Fits, IntFits, UInt64.size]
    omega
  case eq =>
    intro c
    rw [contentNumber, integer_int c.minValue_le_toInt c.toInt_le]
    exact congrArg Except.ok c.ofInt_toInt

/-! ## Optional values, lists and maps -/

theorem inverts_nullable (h : Inverts d f) (hnull : ∀ a, toTree (f a) ≠ .null) :
    Inverts (nullable d) (ofOption f) := by
  constructor
  case fits =>
    intro o
    cases o with
    | none => trivial
    | some a => exact h.fits a
  case eq =>
    intro o
    cases o with
    | none => rfl
    | some a =>
      simp only [ofOption]
      rw [nullable.eq_2 d _ (hnull a), h.eq]
      rfl

theorem items_toItems (h : Inverts d f) (as : List α) : items d (toItems (as.map f)) = .ok as := by
  induction as with
  | nil => rfl
  | cons a as ih =>
    rw [List.map_cons, toItems, items, h.eq, ih]
    rfl

theorem inverts_list (h : Inverts d f) : Inverts (list d) fun as => .arr (as.map f) := by
  constructor
  case fits => exact fun as => fitsItems_iff.mpr (List.forall_mem_map.mpr fun a _ => h.fits a)
  case eq => exact items_toItems h

theorem members_toMembers (h : Inverts d f) (es : List (String × α)) :
    members d (toMembers (es.map fun e => (e.1, f e.2))) = .ok es := by
  induction es with
  | nil => rfl
  | cons e es ih =>
    rw [List.map_cons, toMembers, members, h.eq, ih]
    rfl

theorem inverts_map (h : Inverts d f) :
    Inverts (map d) fun es => .obj (es.map fun e => (e.1, f e.2)) := by
  constructor
  case fits => exact fun es => fitsMembers_iff.mpr (List.forall_mem_map.mpr fun e _ => h.fits e.2)
  case eq => exact members_toMembers h

/-! ## Records -/

/-- The field of a name. -/
def known (fields : List Field) (name : String) : Option Field :=
  fields.find? fun f => f.name = name

theorem name_of_known {fields : List Field} {name : String} {f : Field}
    (h : known fields name = some f) : f.name = name := by
  unfold known at h
  simpa using List.find?_some h

/-- The members of an object that are fields. -/
def knownMembers (fields : List Field) (ms : List (String × Json)) : List (String × Tree) :=
  (ms.filter fun m => (known fields m.1).isSome).map fun m => (m.1, toTree m.2)

theorem check_field {name : String} {t : Tree} {a : α} (h : d t = .ok a) :
    (field name d).check t = .ok () := by
  simp only [field, h]
  rfl

theorem fieldMembers_toMembers {fields : List Field} {seen : List String}
    {ms : List (String × Json)} (hnd : (ms.map Prod.fst).Nodup) (hseen : ∀ m ∈ ms, m.1 ∉ seen)
    (hcheck : ∀ m ∈ ms, ∀ f, known fields m.1 = some f → f.check (toTree m.2) = .ok ()) :
    fieldMembers fields seen (toMembers ms) = .ok (knownMembers fields ms) := by
  induction ms generalizing seen with
  | nil => rfl
  | cons m ms ih =>
    obtain ⟨k, j⟩ := m
    obtain ⟨hk, hnd⟩ := List.nodup_cons.mp hnd
    obtain ⟨hnew, hseen⟩ := List.forall_mem_cons.mp hseen
    obtain ⟨hfirst, hcheck⟩ := List.forall_mem_cons.mp hcheck
    rw [toMembers, fieldMembers]
    cases hknown : known fields k with
    | none =>
      have hskip : skip (toTree j) = .ok () := by rw [skip, if_pos (isWhole_toTree j)]
      have hfind : (fields.find? fun f => f.name = k) = none := hknown
      simp only [hfind, hskip, knownMembers, List.filter_cons, hknown]
      exact ih hnd hseen hcheck
    | some f =>
      have hfind : (fields.find? fun f => f.name = k) = some f := hknown
      have hseen' : ∀ m ∈ ms, m.1 ∉ k :: seen := by
        intro m hm hmem
        rcases List.mem_cons.mp hmem with heq | hmem
        · exact hk (List.mem_map.mpr ⟨m, hm, heq⟩)
        · exact hseen m hm hmem
      simp only [hfind, if_neg hnew, hfirst f hknown, ih hnd hseen' hcheck, knownMembers,
        List.filter_cons, hknown]
      rfl

theorem record_obj (title : String) {fields : List Field} {ms : List (String × Json)}
    (hnd : (ms.map Prod.fst).Nodup)
    (hcheck : ∀ m ∈ ms, ∀ f, known fields m.1 = some f → f.check (toTree m.2) = .ok ()) :
    record title fields (toTree (.obj ms)) = .ok (knownMembers fields ms) :=
  fieldMembers_toMembers hnd (fun _ _ => List.not_mem_nil) hcheck

theorem lookup_knownMembers {fields : List Field} {ms : List (String × Json)} {name : String}
    {j : Json} (hnd : (ms.map Prod.fst).Nodup) (hmem : (name, j) ∈ ms)
    (hknown : (known fields name).isSome = true) :
    (knownMembers fields ms).lookup name = some (toTree j) := by
  have hkeys : ((knownMembers fields ms).map Prod.fst).Nodup := by
    rw [knownMembers, List.map_map]
    exact hnd.sublist (List.filter_sublist.map _)
  refine (lookup_eq_some_iff_mem hkeys).mpr (List.mem_map.mpr ⟨(name, j), ?_, rfl⟩)
  exact List.mem_filter.mpr ⟨hmem, hknown⟩

theorem required_eq {name : String} {found : List (String × Tree)} {t : Tree}
    (h : found.lookup name = some t) (d : Decoder α) : required name d found = d t := by
  rw [required, h]

/-- A record of one field takes it out of an object that may have others. -/
def member (title name : String) (d : Decoder α) : Decoder α := fun t => do
  let found ← record title [field name d] t
  required name d found

theorem member_obj (title : String) {ms : List (String × Json)} {name : String} {j : Json} {a : α}
    (hnd : (ms.map Prod.fst).Nodup) (hmem : (name, j) ∈ ms) (hj : d (toTree j) = .ok a) :
    member title name d (toTree (.obj ms)) = .ok a := by
  have hself : known [field name d] name = some (field name d) := by simp [known, field]
  have hcheck : ∀ m ∈ ms, ∀ f, known [field name d] m.1 = some f →
      f.check (toTree m.2) = .ok () := by
    intro m hm f hf
    obtain rfl : f = field name d := List.mem_singleton.mp (List.mem_of_find?_eq_some hf)
    have hname : name = m.1 := name_of_known hf
    have heq : m = (name, j) := List.inj_on_of_nodup_map hnd hm hmem hname.symm
    rw [heq]
    exact check_field hj
  have hfound := lookup_knownMembers hnd hmem (by rw [hself]; rfl)
  simp only [member, record_obj title hnd hcheck, bind, Except.bind, required_eq hfound, hj]

end Decode

end Fanout.Json
