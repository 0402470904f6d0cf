import FlowOffload.Proofs.Frame.Fields

/-!
# Parsing — classification field by field

A frame is classified through one masked window of its header.  Reading each field where it stands
comes to the same on every byte string (`Frame.classify_eq_parse`), so only the bytes of these
fields decide (`Frame.parse_congr`).

Reading is total in this library: beyond the end of a frame there are zero bytes.  Classification
never gets there.  If every read fails that reaches beyond the end, none of them does
(`Frame.classifyChecked_eq`).
-/

namespace FlowOffload.Frame

open Bytes

variable {f g : Frame}

/-! ### Field by field -/

/-- Where the ports of an Ethernet frame stand: behind the IPv4 header, whose length is the low half
of its first byte, in units of four bytes. -/
def portsPlace (f : Frame) : Nat := 14 + 4 * ((byte f 14).toNat % 16)

/-- The tuple of an Ethernet frame, each field read where it stands. -/
def parse (f : Frame) : Except ClassifyError FiveTuple :=
  if f.length < 14 then .error (.truncated 14 f.length)
  else if word16 f 12 ≠ 0x0800 then .error (.unsupported .notIpv4)
  else if f.length < 34 then .error (.truncated 34 f.length)
  else if (byte f 14).toNat / 16 ≠ 4 then .error (.unsupported .notIpv4)
  else if (byte f 14).toNat % 16 < 5 then .error (.unsupported .badHeaderLength)
  else if (word16 f 20).toNat % 8192 ≠ 0 then .error (.unsupported .fragment)
  else if byte f 23 ≠ 6 ∧ byte f 23 ≠ 17 then .error (.unsupported .notTcpUdp)
  else if f.length < portsPlace f + 4 then .error (.truncated (portsPlace f + 4) f.length)
  else .ok ⟨byte f 23, word32 f 26, word32 f 30, word16 f (portsPlace f), word16 f (portsPlace f + 2)⟩

/-- Checks that refuse alike are followed by what follows when they do not refuse. -/
theorem refuse_congr {α : Type} {c c' : Prop} [Decidable c] [Decidable c'] {e e' : ClassifyError}
    {x x' : Except ClassifyError α} (hc : c ↔ c') (he : e = e') (hx : ¬ c → x = x') :
    (if c then .error e else x) = if c' then .error e' else x' := by
  subst he
  by_cases h : c
  · rw [if_pos h, if_pos (hc.mp h)]
  · rw [if_neg h, if_neg (mt hc.mpr h), hx h]

/-- The header's length is read from the same byte. -/
theorem headerLength_drop (f : Frame) : headerLength (f.drop etherHeader) + 14 = portsPlace f := by
  rw [headerLength, byte_drop, portsPlace, etherHeader, Nat.mul_comm, Nat.add_comm]

theorem not_portful_iff {p : UInt8} : ¬ FiveTuple.Portful p ↔ p ≠ 6 ∧ p ≠ 17 := not_or

/-- **The masked window and the fields are read alike**, and refused for the same reasons. -/
theorem classify_eq_parse (f : Frame) : classify f = parse f := by
  have hp := headerLength_drop f
  rw [classify, parse]
  refine refuse_congr Iff.rfl rfl fun h₁ => refuse_congr Iff.rfl rfl fun _ => ?_
  rw [extract]
  simp only [byte_drop, word16_drop]
  refine refuse_congr Iff.rfl rfl fun h₂ => refuse_congr Iff.rfl rfl fun _ => ?_
  refine refuse_congr ?_ rfl fun hm => ?_
  · rw [portsPlace] at hp
    simp only [minHeader]
    omega
  refine refuse_congr Iff.rfl rfl fun _ => refuse_congr not_portful_iff rfl fun _ => ?_
  have he : etherHeader + headerLength (f.drop etherHeader) = portsPlace f := by
    rw [← hp, Nat.add_comm, etherHeader]
  rw [he]
  refine refuse_congr Iff.rfl rfl fun hl => ?_
  -- behind all checks the window is complete, so masking it leaves the fields
  rw [tupleOf_eq (Nat.le_of_not_lt hm)]
  · simp only [byte_drop, word16_drop, word32, ← Nat.add_assoc, he]
    rfl
  · rw [List.length_drop]
    simp only [etherHeader] at h₁ he ⊢
    omega

/-! ### The bytes that decide -/

/-- The bytes of an Ethernet frame that its tuple depends on: the EtherType, the version and length
of the header, the fragment offset, the protocol, both addresses, and both ports if the header is
not too short to have them behind it. -/
def Decides (f : Frame) (j : Nat) : Prop :=
  j = 12 ∨ j = 13 ∨ j = 14 ∨ j = 20 ∨ j = 21 ∨ j = 23 ∨ (26 ≤ j ∧ j < 34) ∨
    (34 ≤ portsPlace f ∧ portsPlace f ≤ j ∧ j < portsPlace f + 4)

/-- The bytes of the type of service, the identification, the time to live, the header checksum, the
options, and of whatever comes behind the ports. -/
def Overlooked (f : Frame) (j : Nat) : Prop :=
  j = 15 ∨ j = 18 ∨ j = 19 ∨ j = 22 ∨ j = 24 ∨ j = 25 ∨ (34 ≤ j ∧ j < portsPlace f) ∨
    (34 ≤ portsPlace f ∧ portsPlace f + 4 ≤ j)

/-- No byte both decides and is overlooked. -/
theorem Overlooked.not_decides {j : Nat} (h : Overlooked f j) : ¬ Decides f j := by
  simp only [Overlooked, Decides] at *
  omega

/-- Four bytes that agree make the same two half-words. -/
theorem halves_congr {bs cs : List UInt8} {i : Nat}
    (h : ∀ k < 4, byte bs (i + k) = byte cs (i + k)) :
    word16 bs i = word16 cs i ∧ word16 bs (i + 2) = word16 cs (i + 2) :=
  ⟨word16_congr (h 0 (by decide)) (h 1 (by decide)),
    word16_congr (h 2 (by decide)) (h 3 (by decide))⟩

theorem word32_congr {bs cs : List UInt8} {i : Nat}
    (h : ∀ k < 4, byte bs (i + k) = byte cs (i + k)) : word32 bs i = word32 cs i := by
  obtain ⟨hh, hl⟩ := halves_congr h
  rw [word32, word32, hh, hl]

/-- **What does not decide has no influence**: frames of one length that agree in the other bytes
are parsed alike. -/
theorem parse_congr (hl : g.length = f.length) (h : ∀ j, Decides f j → byte g j = byte f j) :
    parse g = parse f := by
  have h₁₄ : byte g 14 = byte f 14 := h 14 (by simp [Decides])
  have h₂₃ : byte g 23 = byte f 23 := h 23 (by simp [Decides])
  have hp : portsPlace g = portsPlace f := by rw [portsPlace, portsPlace, h₁₄]
  have h₁₂ : word16 g 12 = word16 f 12 :=
    word16_congr (h 12 (by simp [Decides])) (h 13 (by simp [Decides]))
  have h₂₀ : word16 g 20 = word16 f 20 :=
    word16_congr (h 20 (by simp [Decides])) (h 21 (by simp [Decides]))
  have h₂₆ : word32 g 26 = word32 f 26 := word32_congr fun k hk =>
    h _ (by rw [Decides]; omega)
  have h₃₀ : word32 g 30 = word32 f 30 := word32_congr fun k hk =>
    h _ (by rw [Decides]; omega)
  rw [parse, parse, hl, h₁₂, h₁₄, h₂₀, h₂₃, hp]
  refine refuse_congr Iff.rfl rfl fun _ => refuse_congr Iff.rfl rfl fun _ => ?_
  refine refuse_congr Iff.rfl rfl fun _ => refuse_congr Iff.rfl rfl fun _ => ?_
  refine refuse_congr Iff.rfl rfl fun hm => refuse_congr Iff.rfl rfl fun _ => ?_
  refine refuse_congr Iff.rfl rfl fun _ => refuse_congr Iff.rfl rfl fun _ => ?_
  have hports : ∀ k < 4, byte g (portsPlace f + k) = byte f (portsPlace f + k) := fun k hk =>
    h _ (by rw [Decides, portsPlace]; omega)
  obtain ⟨hsrc, hdst⟩ := halves_congr hports
  rw [h₂₆, h₃₀, hsrc, hdst]

/-! ### Within the frame -/

/-- The number in `n` bytes at an offset, if the string reaches that far. -/
def number? (bs : List UInt8) (i n : Nat) : Option Nat :=
  if i + n ≤ bs.length then some (bigEndian ((bs.drop i).take n)) else none

/-- The tuple of a complete header of `ihl` bytes, if no read fails. -/
def tupleChecked (ip : Frame) (ihl : Nat) : Option FiveTuple := do
  let word := (← number? ip 8 16) &&& windowMask
  let ports ← if ihl = minHeader then some word else number? ip ihl 4
  return {
    protocol := UInt8.ofNat (word >>> 112)
    srcAddr := UInt32.ofNat (word >>> 64)
    dstAddr := UInt32.ofNat (word >>> 32)
    srcPort := UInt16.ofNat (ports >>> 16)
    dstPort := UInt16.ofNat ports }

/-- The tuple of the packet whose IPv4 header starts at `offset`, if no read fails. -/
def extractChecked (frame : Frame) (offset : Nat) : Option (Except ClassifyError FiveTuple) :=
  let ip := frame.drop offset
  if frame.length < offset + minHeader then
    some (.error (.truncated (offset + minHeader) frame.length))
  else do
    let first ← number? ip 0 1
    let ihl := first % 16 * 4
    if first / 16 ≠ 4 then
      return .error (.unsupported .notIpv4)
    if ihl < minHeader then
      return .error (.unsupported .badHeaderLength)
    if (← number? ip 6 2) % 0x2000 ≠ 0 then
      return .error (.unsupported .fragment)
    if ¬ FiveTuple.Portful (.ofNat (← number? ip 9 1)) then
      return .error (.unsupported .notTcpUdp)
    if frame.length < offset + ihl + 4 then
      return .error (.truncated (offset + ihl + 4) frame.length)
    return .ok (← tupleChecked ip ihl)

/-- The tuple of an Ethernet frame, if no read fails. -/
def classifyChecked (frame : Frame) : Option (Except ClassifyError FiveTuple) :=
  if frame.length < etherHeader then
    some (.error (.truncated etherHeader frame.length))
  else do
    let kind ← number? frame 12 2
    if UInt16.ofNat kind ≠ etherTypeIpv4 then
      return .error (.unsupported .notIpv4)
    extractChecked frame etherHeader

/-- A number is read if its bytes are there. -/
theorem number?_eq {bs : List UInt8} {i n : Nat} (h : i + n ≤ bs.length) :
    number? bs i n = some (bigEndian ((bs.drop i).take n)) := if_pos h

theorem number?_one {bs : List UInt8} {i : Nat} (h : i < bs.length) :
    number? bs i 1 = some (byte bs i).toNat := by
  rw [number?_eq h, take_drop_eq bs i 1 h]
  simp [bigEndian]

theorem number?_two {bs : List UInt8} {i : Nat} (h : i + 2 ≤ bs.length) :
    number? bs i 2 = some (word16 bs i).toNat := by
  rw [number?_eq h, take_drop_eq bs i 2 h, toNat_word16]
  simp [bigEndian, List.range, List.range.loop]

/-- In a complete header no read fails. -/
theorem tupleChecked_eq {ip : Frame} (h : minHeader ≤ headerLength ip)
    (hl : headerLength ip + 4 ≤ ip.length) :
    tupleChecked ip (headerLength ip) = some (tupleOf ip) := by
  have hw : number? ip 8 16 = some (window ip) :=
    number?_eq (Nat.le_trans (Nat.add_le_add_right h 4) hl)
  rw [tupleChecked, tupleOf, hw, number?_eq hl]
  by_cases hn : headerLength ip = minHeader
  · simp only [if_pos hn]
    rfl
  · simp only [if_neg hn]
    rfl

/-- What follows a check that does not refuse does not fail, so neither does the whole. -/
theorem some_of_refuse {α : Type} {c : Prop} [Decidable c] {x y : α} {r : Option α}
    (h : ¬ c → r = some y) : (if c then pure x else r) = some (if c then x else y) := by
  by_cases hc : c
  · rw [if_pos hc, if_pos hc]
    rfl
  · rw [if_neg hc, if_neg hc, h hc]

/-- Behind the checks no read fails. -/
theorem extractChecked_eq (frame : Frame) (offset : Nat) :
    extractChecked frame offset = some (extract frame offset) := by
  rw [extractChecked, extract]
  refine some_of_refuse fun h₁ => ?_
  have hd : (frame.drop offset).length = frame.length - offset := List.length_drop
  simp only [minHeader] at h₁
  rw [number?_one (by omega), number?_two (by omega), number?_one (by omega)]
  simp only [Option.bind_eq_bind, Option.bind_some, UInt8.ofNat_toNat]
  refine some_of_refuse fun _ => some_of_refuse fun hi => some_of_refuse fun _ => ?_
  refine some_of_refuse fun _ => some_of_refuse fun hl => ?_
  have hi := Nat.le_of_not_lt hi
  have ht : tupleChecked (frame.drop offset) (headerLength (frame.drop offset)) = _ :=
    tupleChecked_eq hi (by rw [headerLength]; omega)
  rw [headerLength] at ht
  rw [ht]
  rfl

/-- **No read fails**, in whatever frame. -/
theorem classifyChecked_eq (frame : Frame) : classifyChecked frame = some (classify frame) := by
  rw [classifyChecked, classify]
  refine some_of_refuse fun h => ?_
  rw [number?_two (Nat.le_of_not_lt h)]
  simp only [Option.bind_eq_bind, Option.bind_some, UInt16.ofNat_toNat]
  exact some_of_refuse fun _ => extractChecked_eq frame etherHeader

/-- **Classification is parsing.**  For every byte string, the masked window yields what the fields
say, read one by one: the tuple of the protocol byte and the big-endian addresses and ports, or the
first reason why there is none.  No read goes beyond the end of the frame.  Frames of one length are
classified alike if they agree in the bytes that decide, whatever their type of service,
identification, time to live, checksum, options and payload. -/
theorem classify_parses (f : Frame) :
    classify f = parse f ∧ classifyChecked f = some (classify f) ∧
    (∀ g : Frame, g.length = f.length → (∀ j, Decides f j → byte g j = byte f j) →
      classify g = classify f) ∧
    (∀ j, Overlooked f j → ¬ Decides f j) ∧
    [Unsupported.notIpv4, .badHeaderLength, .fragment, .notTcpUdp].map Unsupported.message =
      ["not IPv4", "bad IPv4 header length", "IPv4 fragment", "not TCP/UDP"] := by
  refine ⟨classify_eq_parse f, classifyChecked_eq f, fun g hl h => ?_,
    fun _ h => h.not_decides, rfl⟩
  rw [classify_eq_parse, classify_eq_parse]
  exact parse_congr hl h

end FlowOffload.Frame
