import FlowOffload.FiveTuple.Hash

/-!
# Hashing — neighbouring keys have different hashes

The multiplier is odd, so it has an inverse modulo `2 ^ 64`, and the exclusive or of a state and a
byte can be read off the state that follows (`Hash.step_mul_inverse`).  Hence no byte takes two
states to one, and no two bytes take a state to one.

Strings that differ at one place lead to different states there, and what they share behind it does
not bring the states together again (`Hash.absorb_ne_of_differOnce`).  So keys of one length that
differ in one byte have different hashes, in whatever pieces they arrive.  A tuple is hashed byte by
byte, field after field, and tuples that differ in one byte have different hashes
(`Hash.neighbours_apart`).
-/

namespace FlowOffload

namespace Bytes

variable {b c : UInt8} {bs cs : List UInt8}

/-- Two strings of one length differ at one place, and at no other. -/
def DifferOnce (bs cs : List UInt8) : Prop :=
  bs.length = cs.length ∧ ∃ i, ∀ j : Nat, bs[j]? ≠ cs[j]? ↔ j = i

theorem not_differOnce_cons_nil (b : UInt8) (bs : List UInt8) : ¬ DifferOnce (b :: bs) [] :=
  fun h => Nat.succ_ne_zero bs.length h.1

/-- The empty string differs from no string at one place. -/
theorem not_differOnce_nil (cs : List UInt8) : ¬ DifferOnce [] cs := by
  rintro ⟨hl, i, h⟩
  rw [List.length_nil, eq_comm, List.length_eq_zero_iff] at hl
  subst hl
  exact (h i).mpr rfl rfl

/-- The place is the first one, or one of those behind it. -/
theorem differOnce_cons_iff :
    DifferOnce (b :: bs) (c :: cs) ↔ b ≠ c ∧ bs = cs ∨ b = c ∧ DifferOnce bs cs := by
  constructor
  · rintro ⟨hl, i, h⟩
    cases i with
    | zero =>
        refine .inl ⟨fun hb => (h 0).mpr rfl (congrArg some hb), List.ext_getElem? fun j => ?_⟩
        exact Decidable.not_not.mp fun hj => Nat.succ_ne_zero j ((h (j + 1)).mp hj)
    | succ i =>
        have hb : b = c := Decidable.not_not.mp fun hb =>
          Nat.succ_ne_zero i ((h 0).mp fun h₀ => hb (Option.some.inj h₀)).symm
        exact .inr ⟨hb, Nat.succ.inj hl, i, fun j => (h (j + 1)).trans Nat.succ_inj⟩
  · rintro (⟨hb, rfl⟩ | ⟨rfl, hl, i, h⟩)
    · refine ⟨rfl, 0, fun j => ?_⟩
      cases j with
      | zero => exact iff_of_true (fun h₀ => hb (Option.some.inj h₀)) rfl
      | succ j => exact iff_of_false (fun hj => hj rfl) (Nat.succ_ne_zero j)
    · refine ⟨congrArg (· + 1) hl, i + 1, fun j => ?_⟩
      cases j with
      | zero => exact iff_of_false (fun h₀ => h₀ rfl) (Nat.succ_ne_zero i).symm
      | succ j => exact (h j).trans Nat.succ_inj.symm

instance decidableDifferOnce : (bs cs : List UInt8) → Decidable (DifferOnce bs cs)
  | [], cs => isFalse (not_differOnce_nil cs)
  | b :: bs, [] => isFalse (not_differOnce_cons_nil b bs)
  | _ :: bs, _ :: cs =>
    have := decidableDifferOnce bs cs
    decidable_of_iff' _ differOnce_cons_iff

end Bytes

open Bytes

namespace Hash

variable {h k : UInt64} {b c : UInt8} {bs cs : List UInt8}

/-! ### One byte -/

/-- The inverse of the multiplier. -/
def inverse : UInt64 := 0xce965057aff6957b

theorem prime_mul_inverse : prime * inverse = 1 := rfl

/-- Nothing of a state and a byte is lost but how they were put together. -/
theorem step_mul_inverse (h : UInt64) (b : UInt8) : step h b * inverse = h ^^^ b.toUInt64 := by
  rw [step, UInt64.mul_assoc, prime_mul_inverse, UInt64.mul_one]

/-- Multiplication by an odd number loses nothing. -/
theorem xor_eq_of_step_eq (hs : step h b = step k c) : h ^^^ b.toUInt64 = k ^^^ c.toUInt64 := by
  rw [← step_mul_inverse, hs, step_mul_inverse]

/-- A byte takes different states to different states. -/
theorem eq_of_step_eq (hs : step h b = step k b) : h = k :=
  (UInt64.xor_left_inj _).mp (xor_eq_of_step_eq hs)

/-- Different bytes take a state to different states. -/
theorem byte_eq_of_step_eq (hs : step h b = step h c) : b = c :=
  UInt8.toUInt64_inj.mp ((UInt64.xor_right_inj h).mp (xor_eq_of_step_eq hs))

/-! ### Strings -/

/-- Equal bytes lead from different states to different states. -/
theorem eq_of_absorb_eq (hs : absorb h bs = absorb k bs) : h = k := by
  induction bs generalizing h k with
  | nil => exact hs
  | cons b bs ih => exact eq_of_step_eq (ih hs)

/-- **From any state**, strings that differ at one place lead to different states. -/
theorem absorb_ne_of_differOnce (hd : DifferOnce bs cs) : absorb h bs ≠ absorb h cs := by
  induction bs generalizing cs h with
  | nil => exact absurd hd (not_differOnce_nil cs)
  | cons b bs ih =>
      cases cs with
      | nil => exact absurd hd (not_differOnce_cons_nil b bs)
      | cons c cs =>
          rw [absorb_cons, absorb_cons]
          rcases differOnce_cons_iff.mp hd with ⟨hb, rfl⟩ | ⟨rfl, hr⟩
          · -- the states part here, and the rest keeps them apart
            exact fun hs => hb (byte_eq_of_step_eq (eq_of_absorb_eq hs))
          · exact ih hr

/-- Pieces are absorbed like the whole. -/
theorem foldl_absorb (h : UInt64) (writes : List (List UInt8)) :
    writes.foldl absorb h = absorb h writes.flatten := by
  induction writes generalizing h with
  | nil => rfl
  | cons w ws ih => rw [List.foldl_cons, ih, List.flatten_cons, absorb_append]

/-- A hash sees the bytes that arrive, not how they are split. -/
theorem ofWrites_eq (writes : List (List UInt8)) : ofWrites writes = absorb basis writes.flatten :=
  foldl_absorb basis writes

/-! ### Tuples -/

/-- The bytes of a half-word, the least significant first. -/
def bytes16 (w : UInt16) : List UInt8 := [w.toUInt8, (w >>> 8).toUInt8]

/-- The bytes of a word, the least significant first. -/
def bytes32 (w : UInt32) : List UInt8 :=
  [w.toUInt8, (w >>> 8).toUInt8, (w >>> 16).toUInt8, (w >>> 24).toUInt8]

theorem littleEndian_two (w : UInt16) : littleEndian 2 w.toNat = bytes16 w := by
  simp only [littleEndian, bytes16, List.cons.injEq, ← UInt8.toNat_inj, UInt8.toNat_ofNat',
    UInt16.toNat_toUInt8, UInt16.toNat_shiftRight, Nat.shiftRight_eq_div_pow, and_true, true_and]
  rfl

theorem littleEndian_four (w : UInt32) : littleEndian 4 w.toNat = bytes32 w := by
  simp only [littleEndian, bytes32, List.cons.injEq, ← UInt8.toNat_inj, UInt8.toNat_ofNat',
    UInt32.toNat_toUInt8, UInt32.toNat_shiftRight, Nat.shiftRight_eq_div_pow,
    Nat.div_div_eq_div_mul, and_true, true_and]
  exact ⟨rfl, rfl, rfl⟩

end Hash

/-- The fields of a tuple as they are written to its hash, thirteen bytes in all. -/
def FiveTuple.writes (t : FiveTuple) : List (List UInt8) :=
  [[t.protocol], Hash.bytes32 t.srcAddr, Hash.bytes32 t.dstAddr, Hash.bytes16 t.srcPort,
    Hash.bytes16 t.dstPort]

/-- The bytes of a tuple are its fields, one after the other. -/
theorem FiveTuple.hashBytes_eq (t : FiveTuple) : t.hashBytes = t.writes.flatten := by
  rw [hashBytes, Hash.littleEndian_four, Hash.littleEndian_four, Hash.littleEndian_two,
    Hash.littleEndian_two, Hash.littleEndian, UInt8.ofNat_toNat]
  rfl

/-- The hash of a tuple is the hash of its fields written one after the other. -/
theorem FiveTuple.hashValue_eq (t : FiveTuple) : t.hashValue = Hash.ofWrites t.writes := by
  rw [hashValue, hashBytes_eq, Hash.ofWrites_eq]

namespace Hash

/-- **Neighbouring keys are told apart.**  Keys of one length that differ in one byte have different
hashes, and equal keys have equal hashes, in whatever pieces each of them arrives.  So tuples that
differ in one of their thirteen bytes have different hashes. -/
theorem neighbours_apart :
    (∀ ws vs : List (List UInt8), DifferOnce ws.flatten vs.flatten → ofWrites ws ≠ ofWrites vs) ∧
    (∀ ws vs : List (List UInt8), ws.flatten = vs.flatten → ofWrites ws = ofWrites vs) ∧
    ∀ t u : FiveTuple, DifferOnce t.writes.flatten u.writes.flatten →
      t.hashValue ≠ u.hashValue := by
  have hne (ws vs : List (List UInt8)) (hd : DifferOnce ws.flatten vs.flatten) :
      ofWrites ws ≠ ofWrites vs := by
    rw [ofWrites_eq, ofWrites_eq]
    exact absorb_ne_of_differOnce hd
  refine ⟨hne, fun ws vs h => ?_, fun t u hd => ?_⟩
  · rw [ofWrites_eq, ofWrites_eq, h]
  · rw [t.hashValue_eq, u.hashValue_eq]
    exact hne _ _ hd

/-- A key in two pieces and in three, and two neighbours on one network. -/
theorem neighbours_apart_addresses :
    let t : FiveTuple := ⟨FiveTuple.tcp, 0xC0A80101, 0x08080808, 12345, 443⟩
    let u : FiveTuple := ⟨FiveTuple.tcp, 0xC0A80102, 0x08080808, 12345, 443⟩
    DifferOnce [1, 2, 3, 4] [1, 2, 0, 4] ∧
    ofWrites [[1, 2], [3, 4]] ≠ ofWrites [[1], [], [2, 0, 4]] ∧
    ofWrites [[1, 2], [3, 4]] = ofWrites [[1], [], [2, 3, 4]] ∧
    DifferOnce t.writes.flatten u.writes.flatten ∧ t.hashValue ≠ u.hashValue := by
  intro t u
  obtain ⟨hne, heq, ht⟩ := neighbours_apart
  have hd : DifferOnce [1, 2, 3, 4] [1, 2, 0, 4] := by decide
  have hd' : DifferOnce t.writes.flatten u.writes.flatten := by decide
  exact ⟨hd, hne _ _ hd, heq _ _ rfl, hd', ht t u hd'⟩

/-- The hash of `foobar` in two pieces. -/
example : ofWrites [[0x66, 0x6f, 0x6f], [0x62, 0x61, 0x72]] = 0x85944171f73967e8 := by decide

end Hash

end FlowOffload
