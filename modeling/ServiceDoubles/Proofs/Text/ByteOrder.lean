import ServiceDoubles.SortedMap

/-!
# ServiceDoubles.Proofs.Text.ByteOrder

Texts are compared character by character, which is how their **bytes in UTF-8** compare
(`Text.bytes_lt_bytes_iff`): of two characters the one with the smaller code point has the smaller
bytes, whatever follows them, since the first byte grows with the number of bytes and the others
hold the digits of the code point to the base 64.
-/

namespace ServiceDoubles.Text

/-- The bytes of a text in UTF-8. -/
def bytes (s : String) : List UInt8 := s.toUTF8.data.toList

theorem bytes_eq_flatMap (s : String) : bytes s = s.toList.flatMap String.utf8EncodeChar := by
  rw [bytes, String.toUTF8_eq_toByteArray, ← String.utf8Encode_toList, List.utf8Encode,
    List.toList_data_toByteArray]

/-! ### Characters -/

/-- The bytes of a code point. -/
inductive Encodes (v : Nat) : List UInt8 → Prop
  | one : v < 0x80 → Encodes v [UInt8.ofNat v]
  | two : 0x80 ≤ v → v < 0x800 →
    Encodes v [UInt8.ofNat (v / 64 + 0xc0), UInt8.ofNat (v % 64 + 0x80)]
  | three : 0x800 ≤ v → v < 0x10000 →
    Encodes v [UInt8.ofNat (v / 4096 + 0xe0), UInt8.ofNat (v / 64 % 64 + 0x80),
      UInt8.ofNat (v % 64 + 0x80)]
  | four : 0x10000 ≤ v → v < 0x110000 →
    Encodes v [UInt8.ofNat (v / 262144 + 0xf0), UInt8.ofNat (v / 4096 % 64 + 0x80),
      UInt8.ofNat (v / 64 % 64 + 0x80), UInt8.ofNat (v % 64 + 0x80)]

theorem encodes_utf8EncodeChar (c : Char) : Encodes c.val.toNat (String.utf8EncodeChar c) := by
  have hlast : c.val.toNat < 0x110000 := by
    rcases c.valid with h | h <;> omega
  unfold String.utf8EncodeChar
  generalize c.val.toNat = v at hlast ⊢
  dsimp only
  split
  next => exact .one (by omega)
  split
  next =>
    rw [Nat.mod_eq_of_lt (by omega : v / 64 < 0x20)]
    exact .two (by omega) (by omega)
  split
  next =>
    rw [Nat.mod_eq_of_lt (by omega : v / 4096 < 0x10)]
    exact .three (by omega) (by omega)
  next =>
    rw [Nat.mod_eq_of_lt (by omega : v / 262144 < 0x08)]
    exact .four (by omega) hlast

section

variable {m n : Nat} {l l' : List UInt8}

/-- A smaller byte decides. -/
theorem cons_lt_of_lt (hn : n < 256) (h : m < n) : UInt8.ofNat m :: l < UInt8.ofNat n :: l' := by
  refine List.cons_lt_cons_iff.mpr (.inl ?_)
  rw [UInt8.lt_iff_toNat_lt, UInt8.toNat_ofNat', UInt8.toNat_ofNat', Nat.mod_eq_of_lt hn,
    Nat.mod_eq_of_lt (Nat.lt_trans h hn)]
  exact h

/-- A byte that is no greater decides, or is the same and leaves it to the rest. -/
theorem cons_lt_of_le (hn : n < 256) (h : m ≤ n) (hrest : m = n → l < l') :
    UInt8.ofNat m :: l < UInt8.ofNat n :: l' := by
  rcases Nat.lt_or_eq_of_le h with hlt | rfl
  · exact cons_lt_of_lt hn hlt
  · exact List.cons_lt_cons_iff.mpr (.inr ⟨rfl, hrest rfl⟩)

end

/-- The bytes of a smaller code point are smaller, and not the beginning of the others. -/
theorem Encodes.append_lt {v w : Nat} {b b' : List UInt8} (hv : Encodes v b) (hw : Encodes w b')
    (h : v < w) (l l' : List UInt8) : b ++ l < b' ++ l' := by
  cases hv with
  | one hv =>
      cases hw with
      | one | two | three | four => exact cons_lt_of_lt (by omega) (by omega)
  | two hv hv' =>
      cases hw with
      | one => omega
      | two =>
          refine cons_lt_of_le (by omega) (by omega) fun hfirst => ?_
          exact cons_lt_of_lt (by omega) (by omega)
      | three | four => exact cons_lt_of_lt (by omega) (by omega)
  | three hv hv' =>
      cases hw with
      | one | two => omega
      | three =>
          refine cons_lt_of_le (by omega) (by omega) fun hfirst => ?_
          refine cons_lt_of_le (by omega) (by omega) fun hsecond => ?_
          exact cons_lt_of_lt (by omega) (by omega)
      | four => exact cons_lt_of_lt (by omega) (by omega)
  | four hv hv' =>
      cases hw with
      | one | two | three => omega
      | four =>
          refine cons_lt_of_le (by omega) (by omega) fun hfirst => ?_
          refine cons_lt_of_le (by omega) (by omega) fun hsecond => ?_
          refine cons_lt_of_le (by omega) (by omega) fun hthird => ?_
          exact cons_lt_of_lt (by omega) (by omega)

theorem Encodes.nil_lt_append {v : Nat} {b : List UInt8} (hv : Encodes v b) (l : List UInt8) :
    [] < b ++ l := by
  cases hv with
  | one | two | three | four => exact List.Lex.nil

/-! ### Texts -/

theorem flatMap_utf8EncodeChar_lt {cs ds : List Char} (h : cs < ds) :
    cs.flatMap String.utf8EncodeChar < ds.flatMap String.utf8EncodeChar := by
  induction h with
  | @nil d ds =>
      rw [List.flatMap_nil, List.flatMap_cons]
      exact (encodes_utf8EncodeChar d).nil_lt_append _
  | @rel c cs d ds hlt =>
      have hval : c.val.toNat < d.val.toNat := UInt32.lt_iff_toNat_lt.mp hlt
      exact (encodes_utf8EncodeChar c).append_lt (encodes_utf8EncodeChar d) hval _ _
  | cons _ ih => exact List.append_left_lt ih

/-- Texts compare as their bytes do. -/
theorem bytes_lt_bytes_iff {s t : String} : bytes s < bytes t ↔ s < t := by
  have hmono {s t : String} (h : s < t) : bytes s < bytes t := by
    rw [bytes_eq_flatMap, bytes_eq_flatMap]
    exact flatMap_utf8EncodeChar_lt h
  constructor
  · intro h
    refine Decidable.byContradiction fun hnot => ?_
    by_cases heq : s = t
    · subst heq
      exact List.lt_irrefl _ h
    · exact List.lt_asymm h (hmono (Entries.lt_of_not_lt_of_ne hnot heq))
  · exact hmono

end ServiceDoubles.Text
