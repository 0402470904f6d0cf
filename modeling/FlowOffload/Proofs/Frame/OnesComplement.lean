import FlowOffload.Proofs.Frame.Checksum
import Mathlib.Data.Int.ModEq

/-!
# One's complement — checksums in words of 32 bits

Checksums are computed in words of 32 bits, in which an addition can overflow (`Checksum.add?`).
The word sum of a byte string fits if the string has at most 131074 bytes; of every greater length
there are strings whose word sum does not (`Checksum.addWords?_isSome_iff`).

The loop that adds carries back in makes two rounds at most, from any word
(`Checksum.exists_folds`), which is why the update of a checksum makes two rounds and has no loop.
Neither of them overflows, and they come to what carrying and updating come to in unbounded numbers
(`Checksum.Folds.toNat_eq`, `Checksum.update?_eq`).  Modulo `0xFFFF` that is the word itself and the
difference of the words, with `0` kept apart from `0xFFFF` (`Checksum.ones_complement`).
-/

namespace FlowOffload.Checksum

open Bytes

/-- The sum of two words, if it has 32 bits. -/
def add? (s t : UInt32) : Option UInt32 :=
  if s.toNat + t.toNat < UInt32.size then some (s + t) else none

/-- The 16-bit words of a byte string added to `s` one by one; an odd last byte is a high half. -/
def addWords? (s : UInt32) : List UInt8 → Option UInt32
  | [] => some s
  | [b] => add? s (b.toUInt32 <<< 8)
  | a :: b :: rest => (add? s (word16 [a, b] 0).toUInt32).bind fun t => addWords? t rest

/-- One round of carries: the high half is added to the low half. -/
def carry? (s : UInt32) : Option UInt32 := add? (s &&& 0xFFFF) (s >>> 16)

/-- From `s`, the loop that adds carries back in ends after `n` rounds, with `v`. -/
inductive Folds : Nat → UInt32 → UInt16 → Prop where
  | done {s : UInt32} : s >>> 16 = 0 → Folds 0 s s.toUInt16
  | round {n : Nat} {s t : UInt32} {v : UInt16} :
      s >>> 16 ≠ 0 → carry? s = some t → Folds n t v → Folds (n + 1) s v

/-- The checksum after a word of the data has changed from `old` to `new`. -/
def update? (sum old new : UInt16) : Option UInt16 :=
  (add? (~~~sum).toUInt32 (~~~old).toUInt32).bind fun s =>
    (add? s new.toUInt32).bind fun t =>
      (carry? t).bind fun u => (carry? u).map fun v => ~~~v.toUInt16

variable {s t u : UInt32} {v w : UInt16} {n k : Nat} {bs : List UInt8}

/-! ### Additions -/

/-- An addition that succeeds gives the exact sum, and succeeds if there is a word for it. -/
theorem add?_eq_some_iff : add? s t = some u ↔ u.toNat = s.toNat + t.toNat := by
  rw [add?]
  split
  · next h =>
      rw [Option.some_inj, ← UInt32.toNat_inj, UInt32.toNat_add, Nat.mod_eq_of_lt h, eq_comm]
  · next h => exact iff_of_false (Option.some_ne_none u).symm fun hu => h (hu ▸ u.toNat_lt)

/-- A sum that fits is found. -/
theorem exists_add? (h : s.toNat + t.toNat < UInt32.size) :
    ∃ u, add? s t = some u ∧ u.toNat = s.toNat + t.toNat := by
  have hu := UInt32.toNat_ofNat_of_lt' h
  exact ⟨_, add?_eq_some_iff.mpr hu, hu⟩

theorem toNat_shiftLeft_byte (b : UInt8) : (b.toUInt32 <<< 8).toNat = b.toNat * 256 := by
  have hb := b.toNat_lt
  have h : (b.toUInt32 <<< 8).toNat = b.toNat <<< 8 % 4294967296 := by
    rw [UInt32.toNat_shiftLeft, UInt8.toNat_toUInt32]
    rfl
  rw [h, Nat.shiftLeft_eq]
  omega

/-- Words are added up exactly, and they are added up if the sum has 32 bits. -/
theorem addWords?_eq_some_iff : addWords? s bs = some u ↔ u.toNat = s.toNat + wordSum bs := by
  fun_induction addWords? s bs with
  | case1 s => rw [wordSum, Nat.add_zero, Option.some_inj, ← UInt32.toNat_inj, eq_comm]
  | case2 s b => rw [add?_eq_some_iff, toNat_shiftLeft_byte, wordSum]
  | case3 s a b rest ih =>
      have hw : (word16 [a, b] 0).toUInt32.toNat = a.toNat * 256 + b.toNat := by
        rw [UInt16.toNat_toUInt32, toNat_word16]
        rfl
      rw [Option.bind_eq_some_iff, wordSum]
      constructor
      · rintro ⟨t, ht, hu⟩
        rw [(ih t).mp hu, add?_eq_some_iff.mp ht, hw, Nat.add_assoc]
      · -- what has been added so far is not more than the whole
        intro hu
        have hl : s.toNat + (word16 [a, b] 0).toUInt32.toNat < UInt32.size := by
          have := u.toNat_lt
          rw [hw, UInt32.size]
          omega
        obtain ⟨t, ht, hn⟩ := exists_add? hl
        refine ⟨t, ht, (ih t).mpr ?_⟩
        rw [hu, hn, hw, Nat.add_assoc s.toNat]

theorem addWords?_zero_eq_some_iff : addWords? 0 bs = some s ↔ s.toNat = wordSum bs := by
  rw [addWords?_eq_some_iff, UInt32.toNat_zero, Nat.zero_add]

/-- So is the sum of words, if it fits. -/
theorem exists_addWords? (h : wordSum bs < UInt32.size) :
    ∃ s, addWords? 0 bs = some s ∧ s.toNat = wordSum bs := by
  have hs := UInt32.toNat_ofNat_of_lt' h
  exact ⟨_, addWords?_zero_eq_some_iff.mpr hs, hs⟩

/-! ### How long a string may be -/

/-- The sum of words is largest when all bits are set. -/
theorem wordSum_le (bs : List UInt8) :
    wordSum bs ≤ bs.length / 2 * 65535 + bs.length % 2 * 65280 := by
  fun_induction wordSum bs with
  | case1 => exact Nat.le_refl 0
  | case2 b =>
      have hb := b.toNat_lt
      rw [List.length_singleton]
      omega
  | case3 a b rest ih =>
      have ha := a.toNat_lt
      have hb := b.toNat_lt
      rw [List.length_cons, List.length_cons]
      omega

/-- Strings of set bits have the greatest word sums. -/
theorem wordSum_replicate (n : Nat) :
    wordSum (List.replicate n 255) = n / 2 * 65535 + n % 2 * 65280 := by
  match n with
  | 0 => rfl
  | 1 => rfl
  | n + 2 =>
      have hn := wordSum_replicate n
      rw [List.replicate_succ, List.replicate_succ, wordSum, hn,
        show (255 : UInt8).toNat = 255 from rfl]
      omega

/-- The words of up to 131074 bytes have a sum that fits. -/
theorem wordSum_lt (h : bs.length ≤ 131074) : wordSum bs < UInt32.size := by
  have hl := wordSum_le bs
  rw [UInt32.size]
  omega

/-- The words of all strings of a length can be added up if and only if it is at most 131074. -/
theorem addWords?_isSome_iff (n : Nat) :
    (∀ bs : List UInt8, bs.length = n → (addWords? 0 bs).isSome) ↔ n ≤ 131074 := by
  constructor
  · intro h
    obtain ⟨s, hs⟩ := Option.isSome_iff_exists.mp (h _ List.length_replicate)
    have hn := addWords?_zero_eq_some_iff.mp hs
    have hl := s.toNat_lt
    rw [wordSum_replicate] at hn
    omega
  · rintro h bs rfl
    obtain ⟨s, hs, -⟩ := exists_addWords? (wordSum_lt h)
    exact Option.isSome_iff_exists.mpr ⟨s, hs⟩

/-! ### Carries -/

theorem toNat_upper (s : UInt32) : (s >>> 16).toNat = s.toNat / 65536 := by
  rw [UInt32.toNat_shiftRight, Nat.shiftRight_eq_div_pow]
  rfl

theorem toNat_lower (s : UInt32) : (s &&& 0xFFFF).toNat = s.toNat % 65536 := by
  rw [UInt32.toNat_and]
  exact Nat.and_two_pow_sub_one_eq_mod _ 16

/-- The carries are gone when the sum fits a half-word. -/
theorem upper_eq_zero_iff : s >>> 16 = 0 ↔ s.toNat < 65536 := by
  rw [← UInt32.toNat_inj, toNat_upper, UInt32.toNat_zero]
  omega

/-- A round of carries never overflows. -/
theorem exists_carry? (s : UInt32) : ∃ t, carry? s = some t ∧ t.toNat = carry s.toNat := by
  have hs := s.toNat_lt
  have hl : (s &&& 0xFFFF).toNat + (s >>> 16).toNat < UInt32.size := by
    rw [toNat_lower, toNat_upper, UInt32.size]
    omega
  obtain ⟨t, ht, hn⟩ := exists_add? hl
  rw [toNat_lower, toNat_upper] at hn
  exact ⟨t, ht, hn⟩

/-- Adding the carries once, among the natural numbers. -/
theorem toNat_of_carry? (h : carry? s = some t) : t.toNat = carry s.toNat := by
  obtain ⟨t', ht, hn⟩ := exists_carry? s
  cases h.symm.trans ht
  exact hn

theorem toNat_toUInt16_of_lt (h : s.toNat < 65536) : s.toUInt16.toNat = s.toNat := by
  rw [UInt32.toNat_toUInt16]
  exact Nat.mod_eq_of_lt h

/-- The loop ends in one way at most. -/
theorem Folds.unique (h : Folds n s v) (h' : Folds k s w) : n = k ∧ v = w := by
  induction h generalizing k with
  | done hs =>
      cases h' with
      | done _ => exact ⟨rfl, rfl⟩
      | round hs' _ _ => exact absurd hs hs'
  | round hs hc _ ih =>
      cases h' with
      | done hs' => exact absurd hs' hs
      | round _ hc' hf =>
          cases hc.symm.trans hc'
          obtain ⟨rfl, rfl⟩ := ih hf
          exact ⟨rfl, rfl⟩

/-- The loop ends with what the sum folds to. -/
theorem Folds.toNat_eq (h : Folds n s v) : v.toNat = fold s.toNat := by
  induction h with
  | done hs =>
      have hl := upper_eq_zero_iff.mp hs
      rw [toNat_toUInt16_of_lt hl, fold_of_lt hl]
  | round _ hc _ ih => rw [ih, toNat_of_carry? hc, fold_carry]

/-- **The loop ends**, after two rounds at most. -/
theorem exists_folds (s : UInt32) : ∃ n ≤ 2, ∃ v, Folds n s v := by
  by_cases h₀ : s.toNat < 65536
  · exact ⟨0, Nat.zero_le 2, _, .done (upper_eq_zero_iff.mpr h₀)⟩
  obtain ⟨t, ht, hn⟩ := exists_carry? s
  have h₀ := mt upper_eq_zero_iff.mp h₀
  by_cases h₁ : t.toNat < 65536
  · exact ⟨1, Nat.le_succ 1, _, .round h₀ ht (.done (upper_eq_zero_iff.mpr h₁))⟩
  obtain ⟨u, hu, hm⟩ := exists_carry? t
  have h₁ := mt upper_eq_zero_iff.mp h₁
  have h₂ : u.toNat < 65536 := by
    rw [hm, hn]
    exact carry_carry_lt s.toNat_lt
  exact ⟨2, Nat.le_refl 2, _, .round h₀ ht (.round h₁ hu (.done (upper_eq_zero_iff.mpr h₂)))⟩

/-! ### Checksums -/

theorem not_eq_complement (v : UInt16) : ~~~v = complement v.toNat := by
  rw [← UInt16.toNat_inj, UInt16.toNat_not, toNat_complement v.toNat_lt]
  rfl

/-- Checksums are computed by adding up the words and carrying. -/
theorem ofBytes?_eq_some_iff {c : UInt16} :
    ofBytes? bs = some c ↔ ∃ s n v, addWords? 0 bs = some s ∧ Folds n s v ∧ ~~~v = c := by
  have hc {n : Nat} {s : UInt32} {v : UInt16} (hs : s.toNat = wordSum bs) (hf : Folds n s v) :
      ~~~v = ofBytes bs := by
    rw [not_eq_complement, hf.toNat_eq, hs, ofBytes]
  rw [ofBytes?]
  constructor
  · intro h
    split at h
    · next hl =>
        cases h
        obtain ⟨s, hs, hn⟩ := exists_addWords? hl
        obtain ⟨n, -, v, hf⟩ := exists_folds s
        exact ⟨s, n, v, hs, hf, hc hn hf⟩
    · cases h
  · rintro ⟨s, n, v, hs, hf, rfl⟩
    have hs := addWords?_zero_eq_some_iff.mp hs
    rw [if_pos (hs ▸ s.toNat_lt), hc hs hf]

theorem toNat_not_toUInt32 (v : UInt16) : (~~~v).toUInt32.toNat = 65535 - v.toNat := by
  rw [UInt16.toNat_toUInt32, UInt16.toNat_not]
  rfl

/-- No addition of an update overflows, and two rounds take in all carries. -/
theorem update?_eq (c m m' : UInt16) : update? c m m' = some (update c m m') := by
  have hm' := m'.toNat_lt
  have hc : (~~~c).toUInt32.toNat + (~~~m).toUInt32.toNat < UInt32.size := by
    rw [toNat_not_toUInt32, toNat_not_toUInt32, UInt32.size]
    omega
  obtain ⟨s, hs, hn⟩ := exists_add? hc
  rw [toNat_not_toUInt32, toNat_not_toUInt32] at hn
  have hd : s.toNat + m'.toUInt32.toNat < UInt32.size := by
    rw [UInt16.toNat_toUInt32, hn, UInt32.size]
    omega
  obtain ⟨t, ht, hk⟩ := exists_add? hd
  rw [UInt16.toNat_toUInt32, hn] at hk
  obtain ⟨u, hu, hl⟩ := exists_carry? t
  obtain ⟨v, hv, hj⟩ := exists_carry? u
  rw [hl] at hj
  have hw := toNat_toUInt16_of_lt (hj ▸ carry_carry_lt t.toNat_lt)
  rw [update?, hs, Option.bind_some, ht, Option.bind_some, hu, Option.bind_some, hv,
    Option.map_some, not_eq_complement, hw, hj, hk, update]

/-- **One's complement arithmetic.**  The words of a string of at most 131074 bytes are added up
without overflow.  From any word, the loop that adds carries back in ends with a 16-bit number that
is congruent to the word modulo `0xFFFF` and is zero only for zero.  A checksum written over two
zero bytes at an even offset makes the word sum of the string fold to `0xFFFF`.  An update changes a
checksum by the old word less the new one modulo `0xFFFF`, and leads to `0xFFFF` from nowhere
else. -/
theorem ones_complement :
    (∀ bs : List UInt8, bs.length ≤ 131074 →
      ∃ s, addWords? 0 bs = some s ∧ s.toNat = wordSum bs) ∧
    (∀ s : UInt32, ∃ n ≤ 2, ∃ v, Folds n s v ∧ v.toNat = fold s.toNat ∧ v.toNat ≤ 0xFFFF ∧
      v.toNat ≡ s.toNat [MOD 0xFFFF] ∧ (v = 0 ↔ s = 0)) ∧
    (∀ (bs : List UInt8) (i : Nat), bs.length ≤ 131074 → i % 2 = 0 → i + 1 < bs.length →
      word16 bs i = 0 →
      ∃ c, ofBytes? bs = some c ∧ fold (wordSum (setWord16 bs i c)) = 0xFFFF) ∧
    ∀ c m m' : UInt16, update? c m m' = some (update c m m') ∧
      ((update c m m').toNat : Int) ≡ c.toNat + m.toNat - m'.toNat [ZMOD 0xFFFF] ∧
      (c ≠ 0xFFFF → update c m m' ≠ 0xFFFF) := by
  refine ⟨fun bs h => exists_addWords? (wordSum_lt h), fun s => ?fold,
    fun bs i h hi hl hz => ?written, fun c m m' => ⟨update?_eq c m m', ?mod, ?ne⟩⟩
  case fold =>
    obtain ⟨n, hn, v, hf⟩ := exists_folds s
    have hv := hf.toNat_eq
    refine ⟨n, hn, v, hf, hv, Nat.le_of_lt_succ v.toNat_lt, ?_, ?_⟩
    · rw [hv]
      exact fold_mod s.toNat
    · rw [← UInt16.toNat_inj, ← UInt32.toNat_inj, hv]
      exact fold_eq_zero_iff
  case written =>
    exact ⟨_, if_pos (wordSum_lt h), fold_wordSum_setWord16_ofBytes bs hi hl hz⟩
  case mod =>
    -- the difference may be negative, so the congruence is one of integers
    have hu := update_mod c m m'
    rw [Int.ModEq]
    omega
  case ne =>
    exact fun hc hu => update_ne (fun hn => hc (UInt16.toNat_inj.mp hn)) (congrArg UInt16.toNat hu)

/-- A header with no checksum yet, and a checksum when the time to live goes down by one. -/
theorem ones_complement_header :
    let header : List UInt8 :=
      [0x45, 0, 0, 56, 0, 0, 0x40, 0, 64, 6, 0, 0, 192, 168, 1, 1, 8, 8, 8, 8]
    header.length ≤ 131074 ∧ 10 + 1 < header.length ∧ word16 header 10 = 0 ∧
    (∃ s, addWords? 0 header = some s ∧ s.toNat = wordSum header) ∧
    (∃ c, ofBytes? header = some c ∧ fold (wordSum (setWord16 header 10 c)) = 0xFFFF) ∧
    (0x6907 : UInt16) ≠ 0xFFFF ∧ update 0x6907 0x4006 0x3F06 ≠ 0xFFFF := by
  intro header
  obtain ⟨hsum, -, hwritten, hupdate⟩ := ones_complement
  have hl : header.length ≤ 131074 := show 20 ≤ 131074 by omega
  have hi : 10 + 1 < header.length := by decide
  have hz : word16 header 10 = 0 := by decide
  have hc : (0x6907 : UInt16) ≠ 0xFFFF := by decide
  exact ⟨hl, hi, hz, hsum header hl, hwritten header 10 hl rfl hi hz, hc, (hupdate _ _ _).2.2 hc⟩

end FlowOffload.Checksum
