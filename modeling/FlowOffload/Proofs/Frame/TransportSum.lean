import FlowOffload.Proofs.Frame.Checksum
import FlowOffload.Proofs.Frame.Readdressing

/-!
# Readdressing — checksums are carried over

A TCP or UDP checksum covers the addresses, the protocol and the length of the packet besides all
that follows the IPv4 header.  Whatever it verifies or fails to verify before a packet is
readdressed, it does so afterwards: each half-word that is overwritten moves the sum, and the update
of the checksum moves it back (`Frame.Draft.balance_replaceAll`).  The checksum of the IPv4 header
verifies in any case (`Frame.checksums_carried`).
-/

namespace FlowOffload.Frame

open Bytes Checksum

variable {ip : Frame} {o : Nat}

/-! ### What checksums cover -/

/-- The sum that a transport checksum is to make verify, with the checksum itself: the addresses,
the protocol and the length of what follows the IPv4 header, and all of that. -/
def transportSum (ip : Frame) : Nat :=
  wordSum ((ip.drop 12).take 8) + (byte ip 9).toNat + (ip.length - headerLength ip)
    + wordSum (ip.drop (headerLength ip))

/-- The sum that the checksum of an IPv4 header is to make verify. -/
def headerSum (ip : Frame) : Nat := wordSum (ip.take (headerLength ip))

/-- Where the transport checksum stands. -/
def sumPlace (ip : Frame) : Nat := headerLength ip + if byte ip 9 = FiveTuple.tcp then 16 else 6

/-- The length of the header stands in its first byte. -/
theorem headerLength_setWord16 (ip : Frame) (w : UInt16) (h : 0 < o) :
    headerLength (setWord16 ip o w) = headerLength ip := by
  rw [headerLength, byte_setWord16_of_ne _ _ (Nat.ne_of_lt h) (Nat.succ_ne_zero o).symm,
    headerLength]

theorem headerLength_even (ip : Frame) : headerLength ip % 2 = 0 := by
  rw [headerLength]
  omega

/-- The checksum stands behind the ports. -/
theorem four_le_sumPlace (ip : Frame) : headerLength ip + 4 ≤ sumPlace ip := by
  rw [sumPlace]
  split <;> omega

theorem sumPlace_even (ip : Frame) : sumPlace ip % 2 = 0 := by
  have he := headerLength_even ip
  rw [sumPlace]
  split <;> omega

/-- Overwriting a half-word that is covered moves the sum by the difference. -/
theorem transportSum_setWord16 (ip : Frame) (hi : minHeader ≤ headerLength ip) (ho : o % 2 = 0)
    (hl : o + 1 < ip.length) (hc : 12 ≤ o ∧ o < 20 ∨ headerLength ip ≤ o) (w : UInt16) :
    transportSum (setWord16 ip o w) + (word16 ip o).toNat = transportSum ip + w.toNat := by
  have hi : (20 : Nat) ≤ headerLength ip := hi
  have he := headerLength_even ip
  have h₉ : byte (setWord16 ip o w) 9 = byte ip 9 :=
    byte_setWord16_of_ne _ _ (by omega) (by omega)
  rw [transportSum, transportSum, headerLength_setWord16 ip w (by omega), h₉, length_setWord16]
  rcases hc with hc | hc
  · -- an address, which stands in front of the rest
    have hs := wordSum_setWord16 ((ip.drop 12).take 8) (i := o - 12) (by omega)
      (by rw [List.length_take, List.length_drop]; omega) w
    rw [word16_take _ (by omega), word16_drop, show 12 + (o - 12) = o by omega] at hs
    rw [drop_setWord16 _ _ hc.1, take_setWord16, drop_setWord16_of_lt _ _ (by omega)]
    omega
  · -- behind the header, which is behind the addresses
    have hs := wordSum_setWord16 (ip.drop (headerLength ip)) (i := o - headerLength ip)
      (by omega) (by rw [List.length_drop]; omega) w
    rw [word16_drop, show headerLength ip + (o - headerLength ip) = o by omega] at hs
    rw [drop_setWord16 _ _ (show 12 ≤ o by omega), take_setWord16_of_le _ _ (by omega),
      drop_setWord16 _ _ hc]
    omega

/-- The checksum of the header is not covered. -/
theorem transportSum_sealHeader (hi : minHeader ≤ headerLength ip) :
    transportSum (sealHeader ip (headerLength ip)) = transportSum ip := by
  have hk (bs : Frame) (hi : minHeader ≤ headerLength bs) (w : UInt16) :
      transportSum (setWord16 bs 10 w) = transportSum bs := by
    have hi : (20 : Nat) ≤ headerLength bs := hi
    rw [transportSum, transportSum, headerLength_setWord16 bs w (by decide), length_setWord16,
      byte_setWord16_of_ne _ _ (by decide) (by decide), drop_setWord16_of_lt _ _ (by decide),
      drop_setWord16_of_lt _ _ (by omega)]
  rw [sealHeader, hk, hk _ hi]
  rw [headerLength_setWord16 ip 0 (by decide)]
  exact hi

/-- The sum is not zero, since the protocol is part of it and is not. -/
theorem transportSum_ne_zero (h : byte ip 9 ≠ 0) : transportSum ip ≠ 0 := by
  have := mt UInt8.toNat_inj.mp h
  rw [transportSum]
  simp only [UInt8.toNat_zero] at this
  omega

/-! ### Half-word by half-word -/

namespace Draft

variable {d : Draft} {xs : List (Nat × UInt16 × UInt16)}

/-- What a draft's transport checksum would have to make verify. -/
def balance (d : Draft) : Nat := transportSum d.ip + d.sum.toNat

/-- Replacing a half-word that is summed up keeps the balance. -/
theorem balance_replace {old new : UInt16} (hi : minHeader ≤ headerLength d.ip) (ho : o % 2 = 0)
    (hl : o + 1 < d.ip.length) (hc : 12 ≤ o ∧ o < 20 ∨ headerLength d.ip ≤ o)
    (hw : word16 d.ip o = old) : (d.replace o old new).balance % 65535 = d.balance % 65535 := by
  rw [replace]
  split
  · rfl
  · have hs := transportSum_setWord16 d.ip hi ho hl hc new
    have hu := update_mod d.sum old new
    rw [hw] at hs
    simp only [balance]
    omega

/-- It also leaves the length of the header alone. -/
theorem headerLength_replace (d : Draft) (old new : UInt16) (h : 0 < o) :
    headerLength (d.replace o old new).ip = headerLength d.ip := by
  rw [headerLength, byte_replace_of_ne d old new (Nat.ne_of_lt h) (Nat.succ_ne_zero o).symm,
    headerLength]

/-- **The checksum keeps up with the changes**, if they are made to half-words that it covers. -/
theorem balance_replaceAll (h : d.Applies xs) (hi : minHeader ≤ headerLength d.ip)
    (hc : ∀ x ∈ xs, x.1 % 2 = 0 ∧ (12 ≤ x.1 ∧ x.1 < 20 ∨ headerLength d.ip ≤ x.1)) :
    (d.replaceAll xs).balance % 65535 = d.balance % 65535 := by
  induction h with
  | nil => rfl
  | @cons d y ys hl hw _ ih =>
      obtain ⟨⟨ho, ha⟩, hcs⟩ := List.forall_mem_cons.mp hc
      have hm : (20 : Nat) ≤ headerLength d.ip := hi
      have hh := headerLength_replace d y.2.1 y.2.2 (show 0 < y.1 by omega)
      rw [hh] at ih
      exact (ih hi hcs).trans (balance_replace hi ho hl ha hw)

theorem sum_replace_ne (h : d.sum.toNat ≠ 65535) (o : Nat) (old new : UInt16) :
    (d.replace o old new).sum.toNat ≠ 65535 := by
  rw [replace]
  split
  · exact h
  · exact update_ne h

/-- Changes lead to a checksum of `0xFFFF` from nowhere else. -/
theorem sum_replaceAll_ne (h : d.sum.toNat ≠ 65535) (xs : List (Nat × UInt16 × UInt16)) :
    (d.replaceAll xs).sum.toNat ≠ 65535 := by
  induction xs generalizing d with
  | nil => exact h
  | cons x xs ih => exact ih (sum_replace_ne h _ _ _)

end Draft

/-! ### A whole header -/

variable {u : FiveTuple}

/-- Moving a packet keeps the balance between the bytes and the checksum. -/
theorem balance_moved (hi : minHeader ≤ headerLength ip) (hl : headerLength ip + 4 ≤ ip.length)
    (sumAt : Nat) (u : FiveTuple) : (moved ip sumAt (tupleOf ip) u).balance % 65535 =
      (transportSum ip + (word16 ip sumAt).toNat) % 65535 := by
  refine Draft.balance_replaceAll (applies_changes hi hl (word16 ip sumAt) u) hi fun x hx => ?_
  have hm : (20 : Nat) ≤ headerLength ip := hi
  have he := headerLength_even ip
  simp only [Draft.changes, List.mem_cons, List.not_mem_nil, or_false] at hx
  rcases hx with rfl | rfl | rfl | rfl | rfl | rfl <;> simp only [true_and] <;> omega

/-- The checksum of UDP is written with another zero, which is the same in the sum. -/
theorem writtenSum_mod (p : UInt8) (c : UInt16) :
    (writtenSum p c).toNat % 65535 = c.toNat % 65535 := by
  rw [writtenSum]
  split
  · next h =>
      rw [h.2]
      rfl
  · rfl

/-- A computed UDP checksum is never written as zero. -/
theorem writtenSum_udp_ne (c : UInt16) : writtenSum FiveTuple.udp c ≠ 0 := by
  rw [writtenSum]
  split
  · decide
  · next h => exact fun hc => h ⟨rfl, hc⟩

/-- A header is sealed by a checksum that makes it verify. -/
theorem fold_headerSum_sealHeader (hi : minHeader ≤ headerLength ip)
    (hl : headerLength ip ≤ ip.length) :
    fold (headerSum (sealHeader ip (headerLength ip))) = 65535 := by
  have hi : (20 : Nat) ≤ headerLength ip := hi
  have hn : headerLength (sealHeader ip (headerLength ip)) = headerLength ip := by
    rw [sealHeader, headerLength_setWord16 _ _ (by decide), headerLength_setWord16 _ _ (by decide)]
  have hz : word16 ((setWord16 ip 10 0).take (headerLength ip)) 10 = 0 := by
    rw [word16_take _ (by omega), word16_setWord16_self (by omega)]
  have hs : 10 + 1 < ((setWord16 ip 10 0).take (headerLength ip)).length := by
    rw [List.length_take, length_setWord16]
    omega
  rw [headerSum, hn, sealHeader, take_setWord16]
  exact fold_wordSum_setWord16_ofBytes _ (by decide) hs hz

/-- The checksum stands where the protocol says. -/
theorem checksumOffset?_eq (h : FiveTuple.Portful (byte ip 9)) :
    ∃ inner, checksumOffset? (byte ip 9) = some inner ∧ headerLength ip + inner = sumPlace ip := by
  rw [checksumOffset?, sumPlace]
  rcases h with h | h <;> rw [h] <;> exact ⟨_, rfl, rfl⟩

/-- Moving a packet leaves its checksum as it was. -/
theorem word16_moved_sumPlace (hi : minHeader ≤ headerLength ip) (s u : FiveTuple) :
    word16 (moved ip (sumPlace ip) s u).ip (sumPlace ip) = word16 ip (sumPlace ip) := by
  have hm : (20 : Nat) ≤ headerLength ip := hi
  have hp := four_le_sumPlace ip
  exact word16_congr
    (byte_moved_of_outside ip _ s u (.inr (by omega)) (.inr (by omega)))
    (byte_moved_of_outside ip _ s u (.inr (by omega)) (.inr (by omega)))

/-- A packet that is sent without a checksum. -/
def Unsummed (ip : Frame) : Prop := byte ip 9 = FiveTuple.udp ∧ word16 ip (sumPlace ip) = 0

instance (ip : Frame) : Decidable (Unsummed ip) := inferInstanceAs (Decidable (_ ∧ _))

/-- A readdressed packet before its header is sealed. -/
def summed (ip : Frame) (u : FiveTuple) : Frame :=
  let draft := moved ip (sumPlace ip) (tupleOf ip) u
  if Unsummed ip then draft.ip
  else setWord16 draft.ip (sumPlace ip) (writtenSum (byte ip 9) draft.sum)

/-- Readdressing a header is writing the tuple and the transport checksum, and then sealing the
header. -/
theorem readdressHeader_eq (h : Readable ip) (u : FiveTuple) :
    readdressHeader ip (sumPlace ip) (tupleOf ip) u =
      sealHeader (summed ip u) (headerLength ip) := by
  simp only [readdressHeader, Draft.readdress_eq, protocol_tupleOf h, summed, Unsummed, moved]
  rfl

/-- What readdressing makes of a frame that classifies. -/
theorem readdress_of_classify {frame f : Frame} {s : FiveTuple} (hc : classify frame = .ok s) :
    readdress frame etherHeader s u = .ok f ↔
      sumPlace (frame.drop etherHeader) + 2 ≤ (frame.drop etherHeader).length ∧
      frame.take etherHeader ++ sealHeader (summed (frame.drop etherHeader) u)
        (headerLength (frame.drop etherHeader)) = f := by
  obtain ⟨he, -, h, rfl⟩ := classify_eq_ok.mp hc
  obtain ⟨inner, hin, hat⟩ := checksumOffset?_eq h.portful
  have hm : minHeader ≤ (frame.drop etherHeader).length :=
    Nat.le_trans h.header (Nat.le_of_add_right_le h.ports)
  simp only [readdress_eq_ok, protocol_tupleOf h, hin, Option.some.injEq, exists_eq_left', hat,
    readdressHeader_eq h, he, hm, true_and]

/-! ### Before the header is sealed -/

theorem length_summed (ip : Frame) (u : FiveTuple) : (summed ip u).length = ip.length := by
  rw [summed]
  split
  · exact length_moved _ _ _ _
  · exact (length_setWord16 _ _ _).trans (length_moved _ _ _ _)

/-- The front of the header is as it was. -/
theorem byte_summed (hi : minHeader ≤ headerLength ip) (u : FiveTuple) {j : Nat} (hj : j < 12) :
    byte (summed ip u) j = byte ip j := by
  have hm : (20 : Nat) ≤ headerLength ip := hi
  have hp := four_le_sumPlace ip
  have hb := byte_moved_of_outside ip (sumPlace ip) (tupleOf ip) u (.inl hj) (.inl (by omega))
  rw [summed]
  split
  · exact hb
  · rw [byte_setWord16_of_ne _ _ (by omega) (by omega), hb]

theorem headerLength_summed (hi : minHeader ≤ headerLength ip) (u : FiveTuple) :
    headerLength (summed ip u) = headerLength ip := by
  rw [headerLength, byte_summed hi u (by decide), headerLength]

/-- A packet without a checksum gets none. -/
theorem word16_summed_of_unsummed (hi : minHeader ≤ headerLength ip) (u : FiveTuple)
    (h : Unsummed ip) : word16 (summed ip u) (sumPlace ip) = 0 := by
  rw [summed, if_pos h, word16_moved_sumPlace hi]
  exact h.2

/-- A packet with a checksum keeps one. -/
theorem word16_summed (hl : sumPlace ip + 2 ≤ ip.length) (u : FiveTuple) (h : ¬ Unsummed ip) :
    word16 (summed ip u) (sumPlace ip) =
      writtenSum (byte ip 9) (moved ip (sumPlace ip) (tupleOf ip) u).sum := by
  rw [summed, if_neg h]
  exact word16_setWord16_self (by rw [length_moved]; omega)

/-- What the checksum is to make verify stays the same modulo `0xFFFF`. -/
theorem transportSum_summed (hi : minHeader ≤ headerLength ip) (hl : sumPlace ip + 2 ≤ ip.length)
    (u : FiveTuple) (h : ¬ Unsummed ip) :
    transportSum (summed ip u) % 65535 = transportSum ip % 65535 := by
  have hn := headerLength_moved hi (sumPlace ip) (tupleOf ip) u
  have hp := four_le_sumPlace ip
  have hb := balance_moved hi (by omega) (sumPlace ip) u
  have hs := transportSum_setWord16 (moved ip (sumPlace ip) (tupleOf ip) u).ip
    (hn ▸ hi) (sumPlace_even ip) (by rw [length_moved]; omega) (.inr (by rw [hn]; omega))
    (writtenSum (byte ip 9) (moved ip (sumPlace ip) (tupleOf ip) u).sum)
  have hw := writtenSum_mod (byte ip 9) (moved ip (sumPlace ip) (tupleOf ip) u).sum
  rw [word16_moved_sumPlace hi] at hs
  rw [summed, if_neg h]
  simp only [Draft.balance] at hb ⊢
  omega

/-- Sealing the header leaves the checksum behind it alone. -/
theorem word16_sealHeader_sumPlace (hi : minHeader ≤ headerLength ip) (bs : Frame) (n : Nat) :
    word16 (sealHeader bs n) (sumPlace ip) = word16 bs (sumPlace ip) := by
  have hi : (20 : Nat) ≤ headerLength ip := hi
  have hp := four_le_sumPlace ip
  exact word16_congr (byte_sealHeader _ _ (by omega) (by omega))
    (byte_sealHeader _ _ (by omega) (by omega))

/-- **Checksums are carried over**: a packet without one gets none, and any other verifies
afterwards exactly if it did before. -/
theorem checksums_carried {frame f : Frame} {s : FiveTuple} (hc : classify frame = .ok s)
    (hr : readdress frame etherHeader s u = .ok f) :
    let ip := frame.drop etherHeader
    let ip' := f.drop etherHeader
    fold (headerSum ip') = 65535 ∧
    (Unsummed ip → word16 ip' (sumPlace ip) = 0) ∧
    (¬ Unsummed ip →
      transportSum ip' % 65535 = transportSum ip % 65535 ∧
      transportSum ip ≠ 0 ∧ transportSum ip' ≠ 0 ∧
      (fold (transportSum ip') = 65535 ↔ fold (transportSum ip) = 65535) ∧
      (byte ip 9 = FiveTuple.udp → word16 ip' (sumPlace ip) ≠ 0)) := by
  obtain ⟨hl, rfl⟩ := (readdress_of_classify hc).mp hr
  obtain ⟨he, -, h, rfl⟩ := classify_eq_ok.mp hc
  rw [List.drop_left' (by rw [List.length_take, Nat.min_eq_left he])]
  generalize frame.drop etherHeader = ip at hl h
  have hn := headerLength_summed h.header u
  have hi : minHeader ≤ headerLength (summed ip u) := hn ▸ h.header
  have hh : headerLength (summed ip u) ≤ (summed ip u).length := by
    rw [hn, length_summed]
    exact Nat.le_of_add_right_le h.ports
  rw [← hn]
  refine ⟨fold_headerSum_sealHeader hi hh, fun hu => ?_, fun hu => ?_⟩
  · rw [word16_sealHeader_sumPlace h.header]
    exact word16_summed_of_unsummed h.header u hu
  · -- sums that are congruent verify alike as long as neither is zero
    have h₉ := h.protocol_ne_zero
    have hm := transportSum_summed h.header hl u hu
    have hz := transportSum_ne_zero h₉
    have hz' : transportSum (summed ip u) ≠ 0 :=
      transportSum_ne_zero (by rwa [byte_summed h.header u (by decide)])
    rw [transportSum_sealHeader hi, word16_sealHeader_sumPlace h.header, word16_summed hl u hu]
    refine ⟨hm, hz, hz', ?_, fun hp => ?_⟩
    · rw [fold_eq_iff, fold_eq_iff, hm]
      exact and_congr_right fun _ => iff_of_true hz' hz
    · rw [hp]
      exact writtenSum_udp_ne _

/-- A question over UDP, with a checksum that verifies. -/
def query : Frame :=
  List.replicate 12 0 ++ [0x08, 0x00] ++ [0x45, 0, 0, 30, 0, 0, 0, 0, 64, 17, 0, 0]
    ++ [10, 0, 0, 1, 10, 0, 0, 2, 0x13, 0x88, 0, 53, 0, 10, 0xD7, 0x18, 1, 2]

theorem checksums_carried_query :
    ∃ f, readdress query etherHeader ⟨FiveTuple.udp, 0x0A000001, 0x0A000002, 5000, 53⟩
      ⟨FiveTuple.udp, 0x05050505, 0x0A000002, 1024, 53⟩ = .ok f ∧
    fold (headerSum (f.drop etherHeader)) = 65535 ∧
    fold (transportSum (f.drop etherHeader)) = 65535 ∧
    word16 (f.drop etherHeader) 26 ≠ 0 := by
  have hc : classify query = .ok ⟨FiveTuple.udp, 0x0A000001, 0x0A000002, 5000, 53⟩ := rfl
  refine ⟨_, rfl, ?_⟩
  obtain ⟨hh, -, hs⟩ := checksums_carried hc rfl
  obtain ⟨-, -, -, hv, hz⟩ := hs (by decide)
  exact ⟨hh, hv.mpr (by decide +kernel), hz rfl⟩

end FlowOffload.Frame
