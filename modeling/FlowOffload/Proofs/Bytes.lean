import FlowOffload.Bytes

/-!
# Byte strings — what is read back

A field that has been written reads as what was written, and every other byte as before
(`Bytes.byte_setWord16`).  Words of four bytes are two half-words, and consecutive bytes of a string
are the bytes that are read one by one (`Bytes.take_drop_eq`).
-/

namespace FlowOffload.Bytes

variable {bs cs : List UInt8} {i j n : Nat} {w : UInt16}

/-- Writing a half-word writes its two bytes, the high one first. -/
theorem byte_setWord16 (h : i + 1 < bs.length) (j : Nat) : byte (setWord16 bs i w) j =
    if j = i then UInt8.ofNat (w.toNat / 256) else if j = i + 1 then UInt8.ofNat w.toNat
    else byte bs j := by
  simp only [byte, setWord16, List.getD_eq_getElem?_getD, List.getElem?_set, List.length_set]
  by_cases hj : j = i
  · subst hj
    simp [Nat.lt_of_succ_lt h]
  · by_cases hj' : j = i + 1
    · subst hj'
      simp [h]
    · simp [hj, hj', Ne.symm hj, Ne.symm hj']

theorem byte_setWord16_of_ne (bs : List UInt8) (w : UInt16) (hi : j ≠ i) (hi' : j ≠ i + 1) :
    byte (setWord16 bs i w) j = byte bs j := by
  simp [byte, setWord16, Ne.symm hi, Ne.symm hi']

/-- The bytes in front of a seam come from the string that was cut. -/
theorem byte_take_append (bs cs : List UInt8) (hi : i ≤ bs.length) (hj : j < i) :
    byte (bs.take i ++ cs) j = byte bs j := by
  have hl : j < (bs.take i).length := by
    rw [List.length_take]
    omega
  rw [byte, byte, List.getD_eq_getElem?_getD, List.getD_eq_getElem?_getD,
    List.getElem?_append_left hl, List.getElem?_take_of_lt hj]

/-- Consecutive bytes of a string that is long enough, one by one. -/
theorem take_drop_eq (bs : List UInt8) (i n : Nat) (h : i + n ≤ bs.length) :
    (bs.drop i).take n = (List.range n).map fun k => byte bs (i + k) := by
  refine List.ext_getElem? fun k => ?_
  by_cases hk : k < n
  · rw [List.getElem?_take_of_lt hk, List.getElem?_drop, List.getElem?_map,
      List.getElem?_range hk, List.getElem?_eq_getElem (by omega)]
    simp [byte, List.getElem?_eq_getElem (show i + k < bs.length by omega)]
  · have hk := Nat.le_of_not_lt hk
    rw [List.getElem?_eq_none (by simp; omega), List.getElem?_eq_none (by simp; omega)]

/-! ### Half-words and words -/

/-- A half-word is made of two bytes. -/
theorem word16_congr (h : byte bs i = byte cs j)
    (h' : byte bs (i + 1) = byte cs (j + 1)) : word16 bs i = word16 cs j := by
  rw [word16, word16, h, h']

/-- A half-word that was written is read back. -/
theorem word16_setWord16_self (h : i + 1 < bs.length) : word16 (setWord16 bs i w) i = w := by
  have hw := w.toNat_lt
  rw [word16, byte_setWord16 h, byte_setWord16 h, if_pos rfl, if_neg (Nat.succ_ne_self i),
    if_pos rfl, ← UInt16.toNat_inj]
  simp only [UInt8.toNat_ofNat', UInt16.toNat_ofNat']
  omega

/-- The number of two bytes. -/
theorem toNat_word16 (bs : List UInt8) (i : Nat) :
    (word16 bs i).toNat = (byte bs i).toNat * 256 + (byte bs (i + 1)).toNat := by
  have h := (byte bs i).toNat_lt
  have h' := (byte bs (i + 1)).toNat_lt
  rw [word16, UInt16.toNat_ofNat']
  omega

/-- The four-byte field at an offset. -/
def word32 (bs : List UInt8) (i : Nat) : UInt32 :=
  UInt32.ofNat ((word16 bs i).toNat * 65536 + (word16 bs (i + 2)).toNat)

/-- The number of two half-words. -/
theorem toNat_word32 (bs : List UInt8) (i : Nat) :
    (word32 bs i).toNat = (word16 bs i).toNat * 65536 + (word16 bs (i + 2)).toNat := by
  have h := (word16 bs i).toNat_lt
  have h' := (word16 bs (i + 2)).toNat_lt
  rw [word32, UInt32.toNat_ofNat']
  omega

/-- The first half-word of a word is its high half. -/
theorem high_word32 (bs : List UInt8) (i : Nat) : high (word32 bs i) = word16 bs i := by
  have h := (word16 bs i).toNat_lt
  have h' := (word16 bs (i + 2)).toNat_lt
  rw [high, toNat_word32, ← UInt16.toNat_inj, UInt16.toNat_ofNat']
  omega

theorem low_word32 (bs : List UInt8) (i : Nat) : low (word32 bs i) = word16 bs (i + 2) := by
  have h := (word16 bs i).toNat_lt
  have h' := (word16 bs (i + 2)).toNat_lt
  rw [low, toNat_word32, ← UInt16.toNat_inj, UInt16.toNat_ofNat']
  omega

/-- A word is its two halves. -/
theorem word32_of_halves {w : UInt32} (h : word16 bs i = high w) (h' : word16 bs (i + 2) = low w) :
    word32 bs i = w := by
  have hw := w.toNat_lt
  rw [word32, h, h', high, low, ← UInt32.toNat_inj]
  simp only [UInt16.toNat_ofNat', UInt32.toNat_ofNat']
  omega

/-! ### Parts of a string -/

theorem take_setWord16 (bs : List UInt8) (i n : Nat) (w : UInt16) :
    (setWord16 bs i w).take n = setWord16 (bs.take n) i w := by
  rw [setWord16, List.take_set, List.take_set, setWord16]

/-- Writing behind a part of a string leaves the part alone. -/
theorem take_setWord16_of_le (bs : List UInt8) (w : UInt16) (h : n ≤ i) :
    (setWord16 bs i w).take n = bs.take n := by
  rw [setWord16, List.take_set_of_le (Nat.le_succ_of_le h), List.take_set_of_le h]

/-- What is written in the rest of a string is written at its place within the rest. -/
theorem drop_setWord16 (bs : List UInt8) (w : UInt16) (h : n ≤ i) :
    (setWord16 bs i w).drop n = setWord16 (bs.drop n) (i - n) w := by
  rw [setWord16, List.drop_set, if_neg (Nat.not_lt_of_le (Nat.le_succ_of_le h)), List.drop_set,
    if_neg (Nat.not_lt_of_le h), Nat.succ_sub h, setWord16]

/-- Writing in front of a part of a string leaves the part alone. -/
theorem drop_setWord16_of_lt (bs : List UInt8) (w : UInt16) (h : i + 1 < n) :
    (setWord16 bs i w).drop n = bs.drop n := by
  rw [setWord16, List.drop_set_of_lt h, List.drop_set_of_lt (Nat.lt_of_succ_lt h)]

/-- Writing behind a seam leaves the front alone. -/
theorem setWord16_append (bs cs : List UInt8) (i : Nat) (w : UInt16) :
    setWord16 (bs ++ cs) (bs.length + i) w = bs ++ setWord16 cs i w := by
  simp only [setWord16, List.set_append_right, Nat.le_add_right, Nat.add_assoc,
    Nat.add_sub_cancel_left]

theorem byte_drop (bs : List UInt8) (n i : Nat) : byte (bs.drop n) i = byte bs (n + i) := by
  rw [byte, byte, List.getD_eq_getElem?_getD, List.getD_eq_getElem?_getD, List.getElem?_drop]

theorem byte_take (bs : List UInt8) (h : i < n) : byte (bs.take n) i = byte bs i := by
  rw [byte, byte, List.getD_eq_getElem?_getD, List.getD_eq_getElem?_getD,
    List.getElem?_take_of_lt h]

theorem word16_drop (bs : List UInt8) (n i : Nat) : word16 (bs.drop n) i = word16 bs (n + i) :=
  word16_congr (byte_drop bs n i) (byte_drop bs n (i + 1))

theorem word16_take (bs : List UInt8) (h : i + 1 < n) : word16 (bs.take n) i = word16 bs i :=
  word16_congr (byte_take bs (Nat.lt_of_succ_lt h)) (byte_take bs h)

/-- Strings of one length are equal if their bytes are. -/
theorem eq_of_byte_eq (hl : bs.length = cs.length) (h : ∀ j, byte bs j = byte cs j) : bs = cs := by
  refine List.ext_getElem hl fun j h₁ h₂ => ?_
  have hj := h j
  rw [byte, byte, List.getD_eq_getElem?_getD, List.getD_eq_getElem?_getD,
    List.getElem?_eq_getElem h₁, List.getElem?_eq_getElem h₂] at hj
  exact hj

/-- Writing what is there changes nothing. -/
theorem setWord16_word16 (h : i + 1 < bs.length) : setWord16 bs i (word16 bs i) = bs := by
  refine eq_of_byte_eq (length_setWord16 _ _ _) fun j => ?_
  have hb := (byte bs i).toNat_lt
  have hb' := (byte bs (i + 1)).toNat_lt
  rw [byte_setWord16 h, toNat_word16]
  split
  · next hj =>
      rw [hj, ← UInt8.toNat_inj, UInt8.toNat_ofNat']
      omega
  · split
    · next hj =>
        rw [hj, ← UInt8.toNat_inj, UInt8.toNat_ofNat']
        omega
    · rfl

end FlowOffload.Bytes
