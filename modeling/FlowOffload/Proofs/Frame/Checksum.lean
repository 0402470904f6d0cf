import FlowOffload.Frame.Checksum
import FlowOffload.Proofs.Bytes

/-!
# Internet checksum — arithmetic modulo `0xFFFF`

Adding carries back in changes a sum by multiples of `0xFFFF`, and makes no sum zero that was not
(`Checksum.fold_mod`, `Checksum.fold_eq_zero_iff`).  So a sum *verifies*, that is, folds to
`0xFFFF`, when it is a multiple of `0xFFFF` other than zero (`Checksum.fold_eq_iff`), and the one
checksum below `0xFFFF` that makes a sum verify is the complement of what the sum folds to
(`Checksum.eq_complement_of_mod`).

Two rounds take in all the carries of a sum of 32 bits (`Checksum.fold_eq_carry_carry`), so an
update is the complement of a fold too.  Overwriting a word changes the word sum by the difference
(`Checksum.wordSum_setWord16`), and an update changes the checksum by the opposite difference
(`Checksum.update_mod`).
-/

namespace FlowOffload.Checksum

open Bytes

variable {s n : Nat} {c m m' : UInt16} {i : Nat}

/-! ### Carries -/

theorem carry_mod (s : Nat) : carry s % 65535 = s % 65535 := by
  rw [carry]
  omega

/-- Folding keeps the residue modulo `0xFFFF`. -/
theorem fold_mod (s : Nat) : fold s % 65535 = s % 65535 := by
  fun_induction fold s with
  | case1 s _ => rfl
  | case2 s _ ih => rw [ih, carry_mod]

theorem fold_lt (s : Nat) : fold s < 65536 := by
  fun_induction fold s with
  | case1 s h => exact h
  | case2 s _ ih => exact ih

/-- Only zero is folded to zero. -/
theorem fold_eq_zero_iff : fold s = 0 ↔ s = 0 := by
  fun_induction fold s with
  | case1 s _ => rfl
  | case2 s h ih =>
      rw [ih, carry]
      omega

theorem fold_of_lt (h : s < 65536) : fold s = s := by
  rw [fold, if_pos h]

/-- A round of carries does not change what a sum folds to. -/
theorem fold_carry (s : Nat) : fold (carry s) = fold s := by
  by_cases h : s < 65536
  · have hs : carry s = s := by
      rw [carry]
      omega
    rw [hs]
  · conv => rhs; rw [fold, if_neg h]

theorem carry_carry_lt (h : s < UInt32.size) : carry (carry s) < 65536 := by
  simp only [carry, UInt32.size] at h ⊢
  omega

/-- Two rounds take in all the carries of a sum of 32 bits. -/
theorem fold_eq_carry_carry (h : s < UInt32.size) : fold s = carry (carry s) := by
  rw [← fold_carry s, ← fold_carry (carry s), fold_of_lt (carry_carry_lt h)]

/-- A sum verifies when it is a multiple of `0xFFFF` other than zero. -/
theorem fold_eq_iff : fold s = 65535 ↔ s % 65535 = 0 ∧ s ≠ 0 := by
  have hm := fold_mod s
  have hl := fold_lt s
  have hz := fold_eq_zero_iff (s := s)
  omega

/-! ### Complements -/

theorem toNat_complement (h : n < 65536) : (complement n).toNat = 65535 - n := by
  rw [complement, UInt16.toNat_ofNat']
  omega

/-- The complement of what a sum folds to makes the sum verify. -/
theorem complement_fold_mod (s : Nat) : (s + (complement (fold s)).toNat) % 65535 = 0 := by
  have hm := fold_mod s
  have hl := fold_lt s
  rw [toNat_complement hl]
  omega

/-- A checksum makes what it is computed from verify. -/
theorem fold_add_complement (s : Nat) : fold (s + (complement (fold s)).toNat) = 65535 := by
  have hz := fold_eq_zero_iff (s := s)
  have hl := fold_lt s
  refine fold_eq_iff.mpr ⟨complement_fold_mod s, ?_⟩
  rw [toNat_complement hl]
  omega

/-- The checksum of what is not zero is not `0xFFFF`. -/
theorem complement_fold_ne (h : s ≠ 0) : (complement (fold s)).toNat ≠ 65535 := by
  have hz := mt fold_eq_zero_iff.mp h
  have hl := fold_lt s
  rw [toNat_complement hl]
  omega

/-- One checksum below `0xFFFF` makes a sum verify. -/
theorem eq_complement_of_mod (hs : s ≠ 0) (hc : c.toNat ≠ 65535)
    (h : (s + c.toNat) % 65535 = 0) : c = complement (fold s) := by
  have hm := complement_fold_mod s
  have hn := complement_fold_ne hs
  have hl := (complement (fold s)).toNat_lt
  have hc' := c.toNat_lt
  refine UInt16.toNat_inj.mp ?_
  omega

/-! ### Updates -/

/-- The two rounds of an update come to what the loop comes to. -/
theorem update_eq (c m m' : UInt16) : update c m m' =
    complement (fold ((65535 - c.toNat) + (65535 - m.toNat) + m'.toNat)) := by
  have hm' := m'.toNat_lt
  rw [update, fold_eq_carry_carry]
  rw [UInt32.size]
  omega

/-- An update makes up for the change of a word. -/
theorem update_mod (c m m' : UInt16) :
    ((update c m m').toNat + m'.toNat) % 65535 = (c.toNat + m.toNat) % 65535 := by
  have hc := c.toNat_lt
  have hm := m.toNat_lt
  have hs := complement_fold_mod ((65535 - c.toNat) + (65535 - m.toNat) + m'.toNat)
  rw [← update_eq] at hs
  omega

/-- Updates lead to `0xFFFF` from nowhere else. -/
theorem update_ne (h : c.toNat ≠ 65535) : (update c m m').toNat ≠ 65535 := by
  have hc := c.toNat_lt
  rw [update_eq]
  refine complement_fold_ne ?_
  omega

/-! ### Word sums -/

/-- Writing a half-word at an even place exchanges one summand for another. -/
theorem wordSum_setWord16 (bs : List UInt8) (hi : i % 2 = 0) (h : i + 1 < bs.length)
    (w : UInt16) :
    wordSum (setWord16 bs i w) + (word16 bs i).toNat = wordSum bs + w.toNat := by
  fun_induction wordSum bs generalizing i with
  | case1 => cases h
  | case2 b =>
      simp only [List.length_singleton] at h
      omega
  | case3 a b rest ih =>
      match i with
      | 0 =>
          have hw := w.toNat_lt
          rw [toNat_word16]
          simp only [setWord16, List.set_cons_zero, List.set_cons_succ, wordSum, byte,
            List.getD_cons_zero, List.getD_cons_succ, UInt8.toNat_ofNat', Nat.zero_add]
          omega
      | 1 => cases hi
      | i + 2 =>
          have hs : setWord16 (a :: b :: rest) (i + 2) w = a :: b :: setWord16 rest i w := rfl
          have hr : word16 (a :: b :: rest) (i + 2) = word16 rest i := rfl
          simp only [List.length_cons] at h
          have := ih (i := i) (by omega) (by omega)
          rw [hs, hr, wordSum]
          omega

/-- A checksum that is written over a zero word makes the sum verify. -/
theorem fold_wordSum_setWord16_ofBytes (bs : List UInt8) (hi : i % 2 = 0) (h : i + 1 < bs.length)
    (hz : word16 bs i = 0) : fold (wordSum (setWord16 bs i (ofBytes bs))) = 65535 := by
  have hs := wordSum_setWord16 bs hi h (ofBytes bs)
  rw [hz, UInt16.toNat_zero, Nat.add_zero] at hs
  rw [hs]
  exact fold_add_complement _

end FlowOffload.Checksum
