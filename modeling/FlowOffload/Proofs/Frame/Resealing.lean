import FlowOffload.Proofs.Frame.TransportSum

/-!
# Readdressing — against checksums computed afresh

The update of a checksum half-word by half-word comes to the checksum that is computed from scratch,
byte for byte, if the checksum was right before (`Frame.readdress_eq_resealed`).  The two encodings
of zero are what could tell them apart: an update never turns another checksum into `0xFFFF`
(`Frame.Draft.sum_replaceAll_ne`), and where the checksum already is `0xFFFF`, as UDP writes zero,
it stays there or is computed as zero and written as `0xFFFF` again (`Frame.writtenSum_eq`).
-/

namespace FlowOffload.Frame

open Bytes Checksum

variable {ip : Frame} {u : FiveTuple}

/-! ### From scratch -/

/-- What a transport checksum is computed from: all that it covers, with its own field blank. -/
def blankSum (ip : Frame) : Nat := transportSum (setWord16 ip (sumPlace ip) 0)

/-- The transport checksum, computed from scratch. -/
def transportChecksum (ip : Frame) : UInt16 :=
  writtenSum (byte ip 9) (complement (fold (blankSum ip)))

/-- A packet with both of its checksums computed afresh. -/
def resealed (ip : Frame) : Frame :=
  sealHeader (setWord16 ip (sumPlace ip) (transportChecksum ip)) (headerLength ip)

/-- Writes half-words, one after the other. -/
def overwrite (ip : Frame) (xs : List (Nat × UInt16)) : Frame :=
  xs.foldl (fun ip x => setWord16 ip x.1 x.2) ip

/-- A packet with the addresses and ports of a tuple written into it. -/
def withTuple (ip : Frame) (u : FiveTuple) : Frame :=
  overwrite ip [(12, high u.srcAddr), (14, low u.srcAddr), (16, high u.dstAddr),
    (18, low u.dstAddr), (headerLength ip, u.srcPort), (headerLength ip + 2, u.dstPort)]

/-! ### Overwriting -/

/-- Replacing a half-word writes the new one, although nothing is done when it is the old one. -/
theorem Draft.ip_replace {d : Draft} {o : Nat} {old new : UInt16} (hl : o + 1 < d.ip.length)
    (hw : word16 d.ip o = old) : (d.replace o old new).ip = setWord16 d.ip o new := by
  rw [replace]
  split
  · next he => rw [← he, ← hw, setWord16_word16 hl]
  · rfl

/-- Changes that skip what is there already write the same as changes that do not. -/
theorem Draft.ip_replaceAll {d : Draft} {xs : List (Nat × UInt16 × UInt16)} (h : d.Applies xs) :
    (d.replaceAll xs).ip = overwrite d.ip (xs.map fun x => (x.1, x.2.2)) := by
  induction h with
  | nil => rfl
  | cons hl hw _ ih =>
      refine ih.trans ?_
      rw [ip_replace hl hw]
      rfl

/-- A packet that has been moved is the packet with the new tuple written into it. -/
theorem ip_moved (hi : minHeader ≤ headerLength ip) (hl : headerLength ip + 4 ≤ ip.length)
    (sumAt : Nat) (u : FiveTuple) : (moved ip sumAt (tupleOf ip) u).ip = withTuple ip u :=
  Draft.ip_replaceAll (applies_changes hi hl _ u)

/-! ### The two encodings of zero -/

/-- A checksum that makes a sum verify is written as the one that is computed. -/
theorem writtenSum_eq {p : UInt8} {n : Nat} {c : UInt16} (hn : n ≠ 0)
    (h : (n + c.toNat) % 65535 = 0) (hc : p = FiveTuple.udp ∨ c.toNat ≠ 65535) :
    writtenSum p c = writtenSum p (complement (fold n)) := by
  by_cases hm : c.toNat = 65535
  · -- the sum is a multiple of `0xFFFF`, so the checksum is computed as zero
    have hp := hc.resolve_right (not_not_intro hm)
    have hf : fold n = 65535 := fold_eq_iff.mpr ⟨by omega, hn⟩
    obtain rfl : c = 0xFFFF := UInt16.toNat_inj.mp hm
    rw [hp, hf]
    rfl
  · rw [eq_complement_of_mod hn hm h]

/-- A computed checksum makes the sum verify. -/
theorem transportChecksum_mod (ip : Frame) :
    (blankSum ip + (transportChecksum ip).toNat) % 65535 = 0 := by
  have hw := writtenSum_mod (byte ip 9) (complement (fold (blankSum ip)))
  have hf := complement_fold_mod (blankSum ip)
  rw [transportChecksum]
  omega

/-! ### Before and after -/

/-- Nothing in front of the addresses changes. -/
theorem byte_withTuple (hi : minHeader ≤ headerLength ip) (hl : headerLength ip + 4 ≤ ip.length)
    (u : FiveTuple) {j : Nat} (hj : j < 12) : byte (withTuple ip u) j = byte ip j := by
  have hm : (20 : Nat) ≤ headerLength ip := hi
  rw [← ip_moved hi hl 0 u]
  exact byte_moved_of_outside ip _ _ u (.inl hj) (.inl (by omega))

theorem headerLength_withTuple (hi : minHeader ≤ headerLength ip)
    (hl : headerLength ip + 4 ≤ ip.length) (u : FiveTuple) :
    headerLength (withTuple ip u) = headerLength ip := by
  rw [headerLength, byte_withTuple hi hl u (by decide), headerLength]

theorem minHeader_le_withTuple (h : Readable ip) (u : FiveTuple) :
    minHeader ≤ headerLength (withTuple ip u) := by
  rw [headerLength_withTuple h.header h.ports]
  exact h.header

/-- The checksum stands where it stood. -/
theorem sumPlace_withTuple (hi : minHeader ≤ headerLength ip)
    (hl : headerLength ip + 4 ≤ ip.length) (u : FiveTuple) :
    sumPlace (withTuple ip u) = sumPlace ip := by
  rw [sumPlace, headerLength_withTuple hi hl, byte_withTuple hi hl u (by decide), sumPlace]

/-- Blanking the checksum takes it out of the sum. -/
theorem blankSum_add (hi : minHeader ≤ headerLength ip) (hl : sumPlace ip + 2 ≤ ip.length) :
    blankSum ip + (word16 ip (sumPlace ip)).toNat = transportSum ip := by
  have hp := four_le_sumPlace ip
  exact transportSum_setWord16 ip hi (sumPlace_even ip) (by omega) (.inr (by omega)) 0

/-- Even without the checksum the sum is not zero, since the protocol is not. -/
theorem blankSum_ne_zero (hi : minHeader ≤ headerLength ip) (h : byte ip 9 ≠ 0) :
    blankSum ip ≠ 0 := by
  have hm : (20 : Nat) ≤ headerLength ip := hi
  have hp := four_le_sumPlace ip
  refine transportSum_ne_zero ?_
  rwa [byte_setWord16_of_ne _ _ (by omega) (by omega)]

/-- A checksum over TCP is never computed as `0xFFFF`. -/
theorem transportChecksum_ne (h : Readable ip) (hp : byte ip 9 ≠ FiveTuple.udp) :
    (transportChecksum ip).toNat ≠ 65535 := by
  rw [transportChecksum, writtenSum, if_neg fun hu => hp hu.1]
  exact complement_fold_ne (blankSum_ne_zero h.header h.protocol_ne_zero)

/-- Writing the tuple leaves the checksum as it was, so the sum is that of the rest and the old
checksum. -/
theorem blankSum_withTuple (h : Readable ip) (hl : sumPlace ip + 2 ≤ ip.length) (u : FiveTuple) :
    blankSum (withTuple ip u) + (word16 ip (sumPlace ip)).toNat =
      transportSum (withTuple ip u) := by
  have hp := sumPlace_withTuple h.header h.ports u
  have hm := ip_moved h.header h.ports (sumPlace ip) u
  rw [← word16_moved_sumPlace h.header (tupleOf ip) u, hm, ← hp]
  refine blankSum_add (minHeader_le_withTuple h u) ?_
  rwa [hp, ← hm, length_moved]

/-- **The updates come to the checksum that is computed afresh.** -/
theorem writtenSum_moved (h : Readable ip) (hl : sumPlace ip + 2 ≤ ip.length) (u : FiveTuple)
    (hs : word16 ip (sumPlace ip) = transportChecksum ip) :
    writtenSum (byte ip 9) (moved ip (sumPlace ip) (tupleOf ip) u).sum =
      transportChecksum (withTuple ip u) := by
  have h₉ := byte_withTuple h.header h.ports u (show 9 < 12 by decide)
  have hn : blankSum (withTuple ip u) ≠ 0 :=
    blankSum_ne_zero (minHeader_le_withTuple h u) (by rw [h₉]; exact h.protocol_ne_zero)
  rw [transportChecksum, h₉]
  refine writtenSum_eq hn ?_ ?_
  · -- the sum verified before, and the updates have kept up with it
    have hv := transportChecksum_mod ip
    have h₀ := blankSum_add h.header hl
    have h₁ := blankSum_withTuple h hl u
    have hb := balance_moved h.header h.ports (sumPlace ip) u
    rw [Draft.balance, ip_moved h.header h.ports] at hb
    rw [← hs] at hv
    omega
  · refine Decidable.or_iff_not_imp_left.mpr fun hp => Draft.sum_replaceAll_ne ?_ _
    simp only [hs]
    exact transportChecksum_ne h hp

/-- A checksum that is right is carried on to the one that is right for the new tuple. -/
theorem summed_eq (h : Readable ip) (hl : sumPlace ip + 2 ≤ ip.length) (u : FiveTuple)
    (hs : word16 ip (sumPlace ip) = transportChecksum ip) :
    summed ip u =
      setWord16 (withTuple ip u) (sumPlace ip) (transportChecksum (withTuple ip u)) := by
  have hu : ¬ Unsummed ip := by
    rintro ⟨hp, hz⟩
    rw [hs, transportChecksum, hp] at hz
    exact writtenSum_udp_ne _ hz
  rw [summed, if_neg hu, writtenSum_moved h hl u hs, ip_moved h.header h.ports]

/-- **Readdressing agrees with recomputation**: a packet whose checksum was right comes out as it
would with the target written into it and both checksums computed afresh. -/
theorem readdress_eq_resealed {frame : Frame} {s : FiveTuple} (hc : classify frame = .ok s)
    (hl : sumPlace (frame.drop etherHeader) + 2 ≤ (frame.drop etherHeader).length)
    (hs : word16 (frame.drop etherHeader) (sumPlace (frame.drop etherHeader)) =
      transportChecksum (frame.drop etherHeader)) (u : FiveTuple) :
    readdress frame etherHeader s u = .ok
      (frame.take etherHeader ++ resealed (withTuple (frame.drop etherHeader) u)) := by
  obtain ⟨-, -, h, -⟩ := classify_eq_ok.mp hc
  refine (readdress_of_classify hc).mpr ⟨hl, ?_⟩
  rw [summed_eq h hl u hs, resealed, headerLength_withTuple h.header h.ports,
    sumPlace_withTuple h.header h.ports]

theorem readdress_query_eq_resealed :
    readdress query etherHeader ⟨FiveTuple.udp, 0x0A000001, 0x0A000002, 5000, 53⟩
      ⟨FiveTuple.udp, 0x05050505, 0x0A000002, 1024, 53⟩ = .ok (query.take etherHeader ++
        resealed (withTuple (query.drop etherHeader)
          ⟨FiveTuple.udp, 0x05050505, 0x0A000002, 1024, 53⟩)) :=
  readdress_eq_resealed rfl (by decide) (by decide +kernel) _

end FlowOffload.Frame
