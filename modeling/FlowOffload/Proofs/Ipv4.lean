import FlowOffload.Ipv4

/-!
# IPv4 addresses — read back

The digits of a number are read as that number (`Nat.ofDigitChars_ten_toDigits`) and have no zero in
front (`Ipv4.digits_head`), so the text of a byte is an octet.  None of the four has a dot in it, so
the text of an address falls apart into them again (`Ipv4.parse?_chars`).
-/

namespace FlowOffload.Ipv4

/-! ### Digits -/

theorem isDigit_of_mem_digits {n : Nat} {c : Char} (h : c ∈ digits n) : c.isDigit = true :=
  Nat.isDigit_of_mem_toDigits (by decide) (by decide) h

/-- Only zero itself starts with a zero. -/
theorem digits_head (n : Nat) : digits n = ['0'] ∨ (digits n).head? ≠ some '0' := by
  induction n using Nat.strongRecOn with
  | ind n ih =>
      by_cases h : n < 10
      · -- a digit of its own
        have hd : ∀ n < 10, digits n = ['0'] ∨ (digits n).head? ≠ some '0' := by decide
        exact hd n h
      · -- the head is that of the digits in front
        have hle := Nat.le_of_not_lt h
        have hs : digits n = digits (n / 10) ++ [(n % 10).digitChar] :=
          Nat.toDigits_of_base_le (by decide) hle
        obtain ⟨c, cs, hc⟩ := List.exists_cons_of_ne_nil
          (show digits (n / 10) ≠ [] from Nat.toDigits_ne_nil)
        have hr := (ih (n / 10) (by omega)).resolve_left fun hz => ?_
        · rw [hc] at hr
          rw [hs, hc]
          exact .inr hr
        · have hv := congrArg (Nat.ofDigitChars 10 · 0) hz
          simp only [digits, Nat.ofDigitChars_ten_toDigits] at hv
          have hv : n / 10 = 0 := hv
          omega

/-! ### Addresses -/

theorem octet?_digits (b : UInt8) : octet? (digits b.toNat) = some b := by
  have hb := b.toNat_lt
  have hv : Nat.ofDigitChars 10 (digits b.toNat) 0 = b.toNat := Nat.ofDigitChars_ten_toDigits
  rw [octet?, hv, if_pos, UInt8.ofNat_toNat]
  refine ⟨Nat.toDigits_ne_nil, ?_, ?_, ?_, hb⟩
  · exact (Nat.length_toDigits_le_iff (by decide) (by decide)).mpr (by omega)
  · exact List.all_eq_true.mpr fun c hc => isDigit_of_mem_digits hc
  · exact (digits_head b.toNat).imp_left fun h => by rw [h]; rfl

/-- **The text of an address is read as the address.** -/
theorem parse?_chars (a : UInt32) : parse? (chars a) = some a := by
  have hd : ∀ ds ∈ (bytes a).map fun b => digits b.toNat, '.' ∉ ds := by
    intro ds hds hc
    obtain ⟨b, -, rfl⟩ := List.mem_map.mp hds
    exact absurd (isDigit_of_mem_digits hc) (by decide)
  have ha := a.toNat_lt
  rw [parse?, chars, List.splitOn_intercalate '.' hd (List.cons_ne_nil _ _), List.map_map]
  simp only [bytes, List.map_cons, List.map_nil, Function.comp_apply, octet?_digits]
  refine congrArg some (UInt32.toNat_inj.mp ?_)
  simp only [ofBytes, UInt8.toNat_ofNat', UInt32.toNat_ofNat', Nat.shiftRight_eq_div_pow]
  omega

/-- The text of an address consists of digits and dots. -/
theorem mem_chars {a : UInt32} {c : Char} (h : c ∈ chars a) : c.isDigit = true ∨ c = '.' := by
  simp only [chars, bytes, List.map_cons, List.map_nil, List.intercalate_cons_cons,
    List.intercalate_singleton, List.mem_append, List.mem_singleton] at h
  rcases h with (h | h) | (h | h) | (h | h) | h
  all_goals first | exact .inl (isDigit_of_mem_digits h) | exact .inr h

end FlowOffload.Ipv4
