import Fanout.Text.Utf8
import Mathlib.Data.List.Basic

/-!
# Texts and their octets

What is written as UTF-8 is read back, also by a reader that puts up with anything.

Texts are ordered by their characters. UTF-8 keeps this order: the first octet of a character says how
many there are, and more of them stand for greater characters; among characters with equally many the
first octet in which they differ decides, as it does in a number written to the base 64.
-/
namespace Fanout.Utf8

/-! ## The order of characters -/

/-- Some octets are smaller than others, whatever follows either. -/
def Precedes (bs cs : Bytes) : Prop :=
  ∀ xs ys : Bytes, bs ++ xs < cs ++ ys

theorem precedes_of_lt {m n : Nat} (hn : n < 256) (h : m < n) {bs cs : Bytes} :
    Precedes (UInt8.ofNat m :: bs) (UInt8.ofNat n :: cs) := by
  intro xs ys
  refine List.cons_lt_cons_iff.mpr (.inl ?_)
  rw [UInt8.lt_iff_toNat_lt, UInt8.toNat_ofNat', UInt8.toNat_ofNat']
  omega

theorem precedes_of_eq {m n : Nat} (h : m = n) {bs cs : Bytes} (hr : Precedes bs cs) :
    Precedes (UInt8.ofNat m :: bs) (UInt8.ofNat n :: cs) := by
  subst h
  exact fun xs ys => List.cons_lt_cons_iff.mpr (.inr ⟨rfl, hr xs ys⟩)

/-- One octet of a code, given that all octets before it are equal. -/
theorem precedes_digit {m n : Nat} (hm : m / 64 = n / 64) (hle : m ≤ n) {bs cs : Bytes}
    (hr : m = n → Precedes bs cs) :
    Precedes (UInt8.ofNat (m % 64 + 128) :: bs) (UInt8.ofNat (n % 64 + 128) :: cs) := by
  rcases Nat.eq_or_lt_of_le hle with he | hlt
  · exact precedes_of_eq (by omega) (hr he)
  · exact precedes_of_lt (by omega) (by omega)

theorem precedes_lead {m n base : Nat} (hn : n + base < 256) (hle : m ≤ n) {bs cs : Bytes}
    (hr : m = n → Precedes bs cs) :
    Precedes (UInt8.ofNat (m + base) :: bs) (UInt8.ofNat (n + base) :: cs) := by
  rcases Nat.eq_or_lt_of_le hle with he | hlt
  · exact precedes_of_eq (by omega) (hr he)
  · exact precedes_of_lt (by omega) (by omega)

theorem precedes_encodeChar {c d : Char} (h : c < d) :
    Precedes (String.utf8EncodeChar c) (String.utf8EncodeChar d) := by
  have hlt : c.val.toNat < d.val.toNat := h
  have hd : d.val.toNat < 1114112 := by
    have := d.valid
    simp only [UInt32.isValidChar, Nat.isValidChar] at this
    omega
  simp only [String.utf8EncodeChar]
  generalize c.val.toNat = m at hlt
  generalize d.val.toNat = n at hlt hd
  by_cases hlead : m ≤ 127 ∨ m ≤ 2047 ∧ 2047 < n ∨ m ≤ 65535 ∧ 65535 < n
  · -- Fewer octets, or one octet each: the first one decides.
    split_ifs <;> exact precedes_of_lt (by omega) (by omega)
  · have hlast : m / 64 = n / 64 →
        Precedes [UInt8.ofNat (m % 64 + 128)] [UInt8.ofNat (n % 64 + 128)] := fun he =>
      precedes_digit he (Nat.le_of_lt hlt) fun he => absurd he (Nat.ne_of_lt hlt)
    have hthird : m / 4096 = n / 4096 →
        Precedes [UInt8.ofNat (m / 64 % 64 + 128), UInt8.ofNat (m % 64 + 128)]
          [UInt8.ofNat (n / 64 % 64 + 128), UInt8.ofNat (n % 64 + 128)] := fun he =>
      precedes_digit (by omega) (by omega) hlast
    split_ifs <;> try omega
    · exact precedes_lead (by omega) (by omega) fun he => hlast (by omega)
    · exact precedes_lead (by omega) (by omega) fun he => hthird (by omega)
    · exact precedes_lead (by omega) (by omega) fun he =>
        precedes_digit (by omega) (by omega) hthird

/-! ## The octets of a text -/

theorem toList_loop (bs : ByteArray) (i : Nat) (front : Bytes) :
    ByteArray.toList.loop bs i front = front.reverse ++ bs.data.toList.drop i := by
  fun_induction ByteArray.toList.loop bs i front with
  | case1 i front h ih =>
      have hi : i < bs.data.toList.length := h
      have hget : bs.get! i = bs.data.toList[i] := by simp [ByteArray.get!, getElem!_pos, h]
      rw [ih, List.drop_eq_getElem_cons hi, hget]
      simp
  | case2 i front h =>
      have hi : bs.data.toList.length ≤ i := Nat.le_of_not_lt h
      rw [List.drop_eq_nil_of_le hi, List.append_nil]

/-- The octets of a text are those of its characters, one after the other. -/
theorem encode_eq (s : String) : encode s = s.toList.flatMap String.utf8EncodeChar := by
  rw [encode, String.toUTF8_eq_toByteArray, ← String.utf8Encode_toList, ByteArray.toList, toList_loop,
    List.utf8Encode, List.toList_data_toByteArray]
  rfl

/-! ## Reading back -/

theorem toNat_ofNat_of_lt {n : Nat} (h : n < 256) : (UInt8.ofNat n).toNat = n := by
  rw [UInt8.toNat_ofNat']
  exact Nat.mod_eq_of_lt h

/-- The first octet of two. -/
theorem first_two {n : Nat} (hlow : 2 ≤ n) (hhigh : n < 32) :
    first (UInt8.ofNat (n + 192)) = .begun ⟨n, 1, 0x80, 0xBF⟩ := by
  have hn : (UInt8.ofNat (n + 192)).toNat = n + 192 := toNat_ofNat_of_lt (by omega)
  simp only [first, hn]
  rw [if_neg (by omega), if_pos (by omega), Nat.add_sub_cancel]

/-- The first octet of three. -/
theorem first_three {n : Nat} (h : n < 16) : first (UInt8.ofNat (n + 224)) =
    .begun ⟨n, 2, if n = 0 then 0xA0 else 0x80, if n = 0xD then 0x9F else 0xBF⟩ := by
  have hn : (UInt8.ofNat (n + 224)).toNat = n + 224 := toNat_ofNat_of_lt (by omega)
  simp only [first, hn]
  rw [if_neg (by omega), if_neg (by omega)]
  by_cases hzero : n = 0
  · subst hzero
    rfl
  · by_cases hd : n = 0xD
    · subst hd
      rfl
    · rw [if_neg (by omega), if_neg (by omega), if_pos (by omega), if_neg hzero, if_neg hd,
        Nat.add_sub_cancel]

/-- The first octet of four. -/
theorem first_four {n : Nat} (h : n < 5) : first (UInt8.ofNat (n + 240)) =
    .begun ⟨n, 3, if n = 0 then 0x90 else 0x80, if n = 4 then 0x8F else 0xBF⟩ := by
  match n, h with
  | 0, _ | 1, _ | 2, _ | 3, _ | 4, _ => rfl

theorem scan_begun {b : UInt8} {p : Pending} (h : first b = .begun p) (bs : Bytes) :
    scan none (b :: bs) = scan (some p) bs := by
  rw [scan, h]

/-- An octet in the range that is waited for, and not the last one. -/
theorem scan_more {bits owed low high n : Nat} (hn : n < 64) (hlow : low ≤ n + 128)
    (hhigh : n + 128 ≤ high) (bs : Bytes) :
    scan (some ⟨bits, owed + 2, low, high⟩) (UInt8.ofNat (n + 128) :: bs) =
      scan (some ⟨bits * 64 + n, owed + 1, 0x80, 0xBF⟩) bs := by
  have hb : (UInt8.ofNat (n + 128)).toNat = n + 128 := toNat_ofNat_of_lt (by omega)
  simp only [scan, hb]
  rw [if_pos ⟨hlow, hhigh⟩, if_neg (by omega), Nat.add_sub_cancel]
  rfl

theorem scan_last {bits n : Nat} {low high : Nat} (hn : n < 64) (hlow : low ≤ n + 128)
    (hhigh : n + 128 ≤ high) (bs : Bytes) :
    scan (some ⟨bits, 1, low, high⟩) (UInt8.ofNat (n + 128) :: bs) =
      some (Char.ofNat (bits * 64 + n)) :: scan none bs := by
  have hb : (UInt8.ofNat (n + 128)).toNat = n + 128 := toNat_ofNat_of_lt (by omega)
  simp only [scan, hb]
  rw [if_pos ⟨hlow, hhigh⟩, if_pos (Nat.le_refl 1), Nat.add_sub_cancel]

theorem scan_encodeChar (c : Char) (bs : Bytes) :
    scan none (String.utf8EncodeChar c ++ bs) = some c :: scan none bs := by
  have hc : Char.ofNat c.val.toNat = c := Char.ofNat_toNat c
  have hvalid : c.val.toNat < 0xD800 ∨ 0xDFFF < c.val.toNat ∧ c.val.toNat < 0x110000 := c.valid
  simp only [String.utf8EncodeChar]
  generalize c.val.toNat = n at hc hvalid
  split_ifs with h1 h2 h3
  · have hn : (UInt8.ofNat n).toNat = n := toNat_ofNat_of_lt (by omega)
    rw [List.singleton_append, scan, first, hn, if_pos h1]
    exact congrArg (some · :: scan none bs) hc
  · have hlead : n / 64 % 32 = n / 64 := Nat.mod_eq_of_lt (by omega)
    have hbits : n / 64 * 64 + n % 64 = n := by omega
    rw [hlead, List.cons_append, List.singleton_append,
      scan_begun (first_two (by omega) (by omega)), scan_last (by omega) (by omega) (by omega), hbits, hc]
  · have hlead : n / 4096 % 16 = n / 4096 := Nat.mod_eq_of_lt (by omega)
    have hbits : (n / 4096 * 64 + n / 64 % 64) * 64 + n % 64 = n := by omega
    rw [hlead]
    simp only [List.cons_append, List.nil_append]
    rw [scan_begun (first_three (by omega)), scan_more (by omega) ?_ ?_,
      scan_last (by omega) (by omega) (by omega), hbits, hc]
    · split <;> omega
    · split <;> omega
  · have hlead : n / 262144 % 8 = n / 262144 := Nat.mod_eq_of_lt (by omega)
    have hbits : ((n / 262144 * 64 + n / 4096 % 64) * 64 + n / 64 % 64) * 64 + n % 64 = n := by omega
    rw [hlead]
    simp only [List.cons_append, List.nil_append]
    rw [scan_begun (first_four (by omega)), scan_more (by omega) ?_ ?_,
      scan_more (by omega) (by omega) (by omega), scan_last (by omega) (by omega) (by omega), hbits, hc]
    · split <;> omega
    · split <;> omega

theorem scan_encode (cs : List Char) :
    scan none (cs.flatMap String.utf8EncodeChar) = cs.map some := by
  induction cs with
  | nil => rfl
  | cons c cs ih => rw [List.flatMap_cons, scan_encodeChar, ih, List.map_cons]

/-- What is written as UTF-8 is read back. -/
theorem decodeLossy_encode (s : String) : decodeLossy (encode s) = s := by
  rw [decodeLossy, encode_eq, scan_encode, List.map_map]
  exact (congrArg String.ofList (List.map_id s.toList)).trans String.ofList_toList

/-! ## The order of texts -/

theorem flatMap_encodeChar_lt {cs ds : List Char} (h : cs < ds) :
    cs.flatMap String.utf8EncodeChar < ds.flatMap String.utf8EncodeChar := by
  induction cs generalizing ds with
  | nil =>
      cases ds with
      | nil => cases h
      | cons d ds =>
          obtain ⟨b, bs, hd⟩ := List.exists_cons_of_ne_nil (String.utf8EncodeChar_ne_nil (c := d))
          rw [List.flatMap_nil, List.flatMap_cons, hd]
          exact List.nil_lt_cons b _
  | cons c cs ih =>
      cases ds with
      | nil => cases h
      | cons d ds =>
          rw [List.flatMap_cons, List.flatMap_cons]
          rcases List.cons_lt_cons_iff.mp h with hlt | ⟨rfl, hlt⟩
          · exact precedes_encodeChar hlt _ _
          · exact List.append_left_lt (ih hlt)

/-- The order of texts is that of their octets. -/
theorem encode_lt_iff {s t : String} : encode s < encode t ↔ s < t := by
  have hmono : ∀ {s t : String}, s < t → encode s < encode t := by
    intro s t h
    rw [encode_eq, encode_eq]
    exact flatMap_encodeChar_lt (String.lt_iff.mp h)
  refine ⟨fun h => ?_, hmono⟩
  by_contra hnot
  by_cases hlt : t < s
  · exact List.lt_irrefl _ (List.lt_trans h (hmono hlt))
  · obtain rfl := String.le_antisymm (String.not_lt.mp hlt) (String.not_lt.mp hnot)
    exact List.lt_irrefl _ h

end Fanout.Utf8
