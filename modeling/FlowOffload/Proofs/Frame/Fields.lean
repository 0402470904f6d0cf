import FlowOffload.Frame.Classify
import FlowOffload.Proofs.Bytes

/-!
# Classification — reading the fields of a header

The tuple that is cut out of the masked window of a header is made of the header's fields
(`Frame.tupleOf_eq`).  Frames that classify are those whose packet is `Frame.Readable`.
-/

namespace FlowOffload.Frame

open Bytes

variable {ip : Frame}

/-! ### The window -/

/-- The window, put together from the fields in it. -/
theorem window_eq (h : 24 ≤ ip.length) : window ip =
    ((((word16 ip 8).toNat * 65536 + (word16 ip 10).toNat) * 4294967296 + (word32 ip 12).toNat)
      * 4294967296 + (word32 ip 16).toNat) * 4294967296 + (word32 ip 20).toNat := by
  rw [window, take_drop_eq ip 8 16 h]
  simp only [List.range, List.range.loop, List.map_cons, List.map_nil, bigEndian, List.foldl_cons,
    List.foldl_nil, toNat_word32, toNat_word16, Nat.reduceAdd]
  omega

/-- The four bytes behind a header, as two words. -/
theorem bigEndian_four {n : Nat} (h : n + 4 ≤ ip.length) :
    bigEndian ((ip.drop n).take 4) = (word16 ip n).toNat * 65536 + (word16 ip (n + 2)).toNat := by
  rw [take_drop_eq ip n 4 h]
  simp only [List.range, List.range.loop, List.map_cons, List.map_nil, bigEndian, List.foldl_cons,
    List.foldl_nil, toNat_word16, Nat.add_assoc, Nat.reduceAdd, Nat.add_zero]
  omega

/-- The window in words, from the front and from the back. -/
theorem window_fields (h : 24 ≤ ip.length) :
    window ip >>> 112 = (word16 ip 8).toNat ∧
    (window ip >>> 64) % 4294967296 = (word32 ip 12).toNat ∧
    (window ip >>> 32) % 4294967296 = (word32 ip 16).toNat ∧
    window ip % 4294967296 = (word32 ip 20).toNat := by
  have b₁₀ := (word16 ip 10).toNat_lt
  have b₁₂ := (word32 ip 12).toNat_lt
  have b₁₆ := (word32 ip 16).toNat_lt
  have b₂₀ := (word32 ip 20).toNat_lt
  rw [window_eq h]
  simp only [Nat.shiftRight_eq_div_pow, Nat.reducePow] at b₁₀ b₁₂ b₁₆ b₂₀ ⊢
  refine ⟨?_, ?_, ?_, ?_⟩
  · omega
  · omega
  · omega
  · omega

/-- A mask that keeps `n` bits from the `k`-th on keeps the number that they stand for. -/
theorem masked (word : Nat) {mask k n : Nat} (h : (mask >>> k) % (1 <<< n) = 1 <<< n - 1) :
    ((word &&& mask) >>> k) % (1 <<< n) = (word >>> k) % (1 <<< n) := by
  rw [Nat.one_shiftLeft] at h ⊢
  rw [Nat.shiftRight_and_distrib, Nat.and_mod_two_pow, h, Nat.and_two_pow_sub_one_eq_mod,
    Nat.mod_mod]

/-- **The masked window holds the fields of the header** at their places. -/
theorem tupleOf_eq (h : minHeader ≤ headerLength ip) (hl : headerLength ip + 4 ≤ ip.length) :
    tupleOf ip = ⟨byte ip 9, word32 ip 12, word32 ip 16, word16 ip (headerLength ip),
      word16 ip (headerLength ip + 2)⟩ := by
  have hm : 24 ≤ ip.length := Nat.le_trans (Nat.add_le_add_right h 4) hl
  obtain ⟨h₈, h₁₂, h₁₆, h₂₀⟩ := window_fields hm
  have m₉ := masked (window ip) (show (windowMask >>> 112) % (1 <<< 8) = 1 <<< 8 - 1 by decide)
  have m₁₂ := masked (window ip) (show (windowMask >>> 64) % (1 <<< 32) = 1 <<< 32 - 1 by decide)
  have m₁₆ := masked (window ip) (show (windowMask >>> 32) % (1 <<< 32) = 1 <<< 32 - 1 by decide)
  have m₂₀ := masked (window ip) (show (windowMask >>> 0) % (1 <<< 32) = 1 <<< 32 - 1 by decide)
  simp only [Nat.shiftRight_zero, Nat.reduceShiftLeft] at m₉ m₁₂ m₁₆ m₂₀
  -- the ports are in the window if the header has no options, and behind it otherwise
  have hports : (if headerLength ip = minHeader then window ip &&& windowMask
      else bigEndian ((ip.drop (headerLength ip)).take 4)) % 4294967296 =
        (word16 ip (headerLength ip)).toNat * 65536 + (word16 ip (headerLength ip + 2)).toNat := by
    split
    · next hn => rw [m₂₀, h₂₀, toNat_word32, hn, minHeader]
    · rw [bigEndian_four hl, ← toNat_word32]
      exact Nat.mod_eq_of_lt (UInt32.toNat_lt _)
  have hs := (word16 ip (headerLength ip)).toNat_lt
  have hd := (word16 ip (headerLength ip + 2)).toNat_lt
  have hb : (word16 ip 8).toNat = (byte ip 8).toNat * 256 + (byte ip 9).toNat := toNat_word16 ip 8
  have hb' := (byte ip 9).toNat_lt
  simp only [tupleOf, FiveTuple.mk.injEq, ← UInt8.toNat_inj, ← UInt16.toNat_inj, ← UInt32.toNat_inj,
    UInt8.toNat_ofNat', UInt16.toNat_ofNat', UInt32.toNat_ofNat', Nat.reducePow]
  refine ⟨?_, m₁₂.trans h₁₂, m₁₆.trans h₁₆, ?_, ?_⟩
  · rw [m₉, h₈, hb]
    omega
  · rw [Nat.shiftRight_eq_div_pow]
    omega
  · omega

/-! ### Packets that have a tuple -/

/-- What a classified packet looks like. -/
structure Readable (ip : Frame) : Prop where
  version : (byte ip 0).toNat / 16 = 4
  header : minHeader ≤ headerLength ip
  unfragmented : (word16 ip 6).toNat % 0x2000 = 0
  portful : FiveTuple.Portful (byte ip 9)
  ports : headerLength ip + 4 ≤ ip.length

theorem Readable.protocol_ne_zero (h : Readable ip) : byte ip 9 ≠ 0 := by
  rcases h.portful with h | h <;> rw [h] <;> decide

/-- The protocol of a readable header is the one that stands there. -/
theorem protocol_tupleOf (h : Readable ip) : (tupleOf ip).protocol = byte ip 9 := by
  rw [tupleOf_eq h.header h.ports]

/-- A check that refuses lets through what does not meet its condition. -/
theorem refuse_eq_ok {α : Type} {c : Prop} [Decidable c] {e : ClassifyError}
    {x : Except ClassifyError α} {a : α} :
    (if c then .error e else x) = .ok a ↔ ¬ c ∧ x = .ok a := by
  split <;> simp [*]

/-- A header has a tuple when it is readable, and then that of its fields. -/
theorem extract_eq_ok {frame : Frame} {offset : Nat} {t : FiveTuple} :
    extract frame offset = .ok t ↔
      Readable (frame.drop offset) ∧ tupleOf (frame.drop offset) = t := by
  simp only [extract, refuse_eq_ok, Except.ok.injEq, ← and_assoc]
  refine and_congr_left fun _ => ⟨?_, ?_⟩
  · rintro ⟨⟨⟨⟨⟨h₁, h₂⟩, h₃⟩, h₄⟩, h₅⟩, h₆⟩
    refine ⟨Decidable.not_not.mp h₂, Nat.le_of_not_lt h₃, Decidable.not_not.mp h₄,
      Decidable.not_not.mp h₅, ?_⟩
    rw [List.length_drop]
    omega
  · rintro ⟨h₂, h₃, h₄, h₅, h₆⟩
    rw [List.length_drop] at h₆
    refine ⟨⟨⟨⟨⟨?_, not_not_intro h₂⟩, Nat.not_lt_of_le h₃⟩, not_not_intro h₄⟩,
      not_not_intro h₅⟩, ?_⟩
    · omega
    · omega

theorem classify_eq_ok {frame : Frame} {t : FiveTuple} :
    classify frame = .ok t ↔ etherHeader ≤ frame.length ∧ word16 frame 12 = etherTypeIpv4 ∧
      Readable (frame.drop etherHeader) ∧ tupleOf (frame.drop etherHeader) = t := by
  simp only [classify, refuse_eq_ok, extract_eq_ok, Nat.not_lt, Decidable.not_not]

end FlowOffload.Frame
