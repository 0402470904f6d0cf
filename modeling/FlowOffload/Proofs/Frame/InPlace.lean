import FlowOffload.Proofs.Frame.TransportSum

/-!
# Readdressing in place — what is written into a buffer

A packet is readdressed in the buffer that it lies in.  Everything is checked before the first byte
is written, so readdressing in place is readdressing a copy that is kept only on success
(`Frame.readdressInPlace_eq`).  On success the packet has moved to its target, and only the
addresses, the ports and the two checksums have been written (`Frame.readdress_confined`).
-/

namespace FlowOffload.Frame

open Bytes

variable {ip : Frame} {s u : FiveTuple}

/-! ### In place -/

/-- Work on a buffer.  What has been written stays when the work is given up. -/
abbrev Edit (α : Type) := ExceptT ClassifyError (StateM Frame) α

namespace Edit

/-- The result of some work on a buffer, and the buffer then. -/
def on {α : Type} (x : Edit α) (buffer : Frame) : Except ClassifyError α × Frame :=
  StateT.run (ExceptT.run x) buffer

/-- Overwrites a half-word. -/
def write (offset : Nat) (w : UInt16) : Edit Unit := modify fun b => setWord16 b offset w

/-- Makes changes one after the other, each only if the half-word's value changes, and keeps the
transport checksum up to date. -/
def replaceAll (offset : Nat) (sum : UInt16) : List (Nat × UInt16 × UInt16) → Edit UInt16
  | [] => pure sum
  | (o, old, new) :: xs => do
    if old = new then
      replaceAll offset sum xs
    else
      write (offset + o) new
      replaceAll offset (Checksum.update sum old new) xs

/-- Checks that the buffer holds a packet that is long enough for the transport checksum of a tuple;
the answer is where that stands in the packet. -/
def checkLength (offset : Nat) (source : FiveTuple) : Edit Nat := do
  let frame ← get
  let ip := frame.drop offset
  if frame.length < offset then
    throw (.truncated offset frame.length)
  else if ip.length < minHeader then
    throw (.truncated (offset + minHeader) frame.length)
  else
    match checksumOffset? source.protocol with
    | none => throw (.unsupported .notTcpUdp)
    | some inner =>
      let sumAt := headerLength ip + inner
      if ip.length < sumAt + 2 then
        throw (.truncated (offset + sumAt + 2) frame.length)
      else
        return sumAt

/-- Puts the checksum of a header of `ihl` bytes into it. -/
def sealHeader (offset ihl : Nat) : Edit Unit := do
  write (offset + 10) 0
  let ip := (← get).drop offset
  write (offset + 10) (Checksum.ofBytes (ip.take ihl))

end Edit

/-- Readdresses the packet whose IPv4 header starts at `offset`, in the buffer that it lies in. -/
def readdressInPlace (offset : Nat) (source target : FiveTuple) : Edit Unit := do
  let sumAt ← Edit.checkLength offset source
  let ip := (← get).drop offset
  let ihl := headerLength ip
  let sum := word16 ip sumAt
  let updated ← Edit.replaceAll offset sum (Draft.changes ihl source target)
  if source.protocol = FiveTuple.udp ∧ sum = 0 then
    Edit.sealHeader offset ihl
  else
    Edit.write (offset + sumAt) (writtenSum source.protocol updated)
    Edit.sealHeader offset ihl

/-- A packet that was readdressed, as the buffer holds it then; a refused one stays as it was. -/
def outcome (frame : Frame) : Except ClassifyError Frame → Except ClassifyError Unit × Frame
  | .ok f => (.ok (), f)
  | .error e => (.error e, frame)

namespace Edit

variable {α β : Type} {x : Edit α} {a : α} {e : ClassifyError} {front b b' : Frame}

/-- After a success, work goes on with the buffer that it left. -/
theorem on_bind_ok {f : α → Edit β} (h : x.on b = (.ok a, b')) : (x >>= f).on b = (f a).on b' := by
  simp only [on] at h
  simp only [on, ExceptT.run_bind, StateT.run_bind]
  rw [h]
  rfl

/-- After a failure, nothing more is done. -/
theorem on_bind_error {f : α → Edit β} (h : x.on b = (.error e, b')) :
    (x >>= f).on b = (.error e, b') := by
  simp only [on] at h
  simp only [on, ExceptT.run_bind, StateT.run_bind]
  rw [h]
  rfl

theorem on_get_bind (f : Frame → Edit β) (b : Frame) : (get >>= f).on b = (f b).on b := rfl

theorem on_write (front ip : Frame) (o : Nat) (w : UInt16) :
    (write (front.length + o) w).on (front ++ ip) = (.ok (), front ++ setWord16 ip o w) := by
  rw [← setWord16_append]
  rfl

/-- Changes in place come to the same as changes of a draft. -/
theorem on_replaceAll (front ip : Frame) (sum : UInt16) (xs : List (Nat × UInt16 × UInt16)) :
    (replaceAll front.length sum xs).on (front ++ ip) =
      (.ok (Draft.replaceAll ⟨ip, sum⟩ xs).sum, front ++ (Draft.replaceAll ⟨ip, sum⟩ xs).ip) := by
  induction xs generalizing ip sum with
  | nil => rfl
  | cons x xs ih =>
      obtain ⟨o, old, new⟩ := x
      rw [replaceAll, Draft.replaceAll, List.foldl_cons, Draft.replace]
      by_cases h : old = new
      · rw [if_pos h, if_pos h]
        exact ih ip sum
      · rw [if_neg h, if_neg h, on_bind_ok (on_write front ip o new)]
        exact ih _ _

theorem on_sealHeader (front ip : Frame) (ihl : Nat) :
    (sealHeader front.length ihl).on (front ++ ip) =
      (.ok (), front ++ Frame.sealHeader ip ihl) := by
  rw [sealHeader, on_bind_ok (on_write front ip 10 0), on_get_bind, List.drop_left]
  exact on_write front _ 10 _

/-- The checks write nothing, and refuse what is refused. -/
theorem checkLength_cases (offset : Nat) (s u : FiveTuple) (frame : Frame) :
    (∃ e, (checkLength offset s).on frame = (.error e, frame) ∧
      readdress frame offset s u = .error e) ∨
    ∃ sumAt, (checkLength offset s).on frame = (.ok sumAt, frame) ∧ offset ≤ frame.length ∧
      readdress frame offset s u =
        .ok (frame.take offset ++ readdressHeader (frame.drop offset) sumAt s u) := by
  rw [checkLength, on_get_bind, readdress]
  by_cases h₁ : frame.length < offset
  · simp only [if_pos h₁]
    exact .inl ⟨_, rfl, rfl⟩
  simp only [if_neg h₁]
  by_cases h₂ : (frame.drop offset).length < minHeader
  · simp only [if_pos h₂]
    exact .inl ⟨_, rfl, rfl⟩
  simp only [if_neg h₂]
  cases checksumOffset? s.protocol with
  | none => exact .inl ⟨_, rfl, rfl⟩
  | some inner =>
      simp only
      split
      · exact .inl ⟨_, rfl, rfl⟩
      · exact .inr ⟨_, rfl, Nat.le_of_not_lt h₁, rfl⟩

end Edit

/-- **In place or on a copy**: every check is made before the first write, so a refused packet is
left as it was. -/
theorem readdressInPlace_eq (frame : Frame) (offset : Nat) (s u : FiveTuple) :
    (readdressInPlace offset s u).on frame = outcome frame (readdress frame offset s u) := by
  rw [readdressInPlace]
  rcases Edit.checkLength_cases offset s u frame with ⟨e, hc, hr⟩ | ⟨sumAt, hc, ho, hr⟩
  · rw [Edit.on_bind_error hc, hr]
    rfl
  · rw [Edit.on_bind_ok hc, Edit.on_get_bind, hr, outcome, readdressHeader]
    simp only [Draft.readdress_eq]
    -- with the frame cut at the header, places in the buffer are places in the packet
    have hf : frame.take offset ++ frame.drop offset = frame := List.take_append_drop _ _
    have hl : (frame.take offset).length = offset := by rw [List.length_take, Nat.min_eq_left ho]
    generalize frame.take offset = front at hf hl ⊢
    generalize frame.drop offset = ip at hf ⊢
    subst hf hl
    rw [Edit.on_bind_ok (Edit.on_replaceAll front ip _ _)]
    split
    · exact Edit.on_sealHeader front _ _
    · rw [Edit.on_bind_ok (Edit.on_write front _ sumAt _)]
      exact Edit.on_sealHeader front _ _

/-! ### What is written -/

/-- The bytes of an Ethernet frame that readdressing may write: the checksum and the addresses of
the IPv4 header, both ports, and the transport checksum. -/
def Rewritable (f : Frame) (j : Nat) : Prop :=
  let header := etherHeader + headerLength (f.drop etherHeader)
  let sumAt := etherHeader + sumPlace (f.drop etherHeader)
  (etherHeader + 10 ≤ j ∧ j < etherHeader + 20) ∨ (header ≤ j ∧ j < header + 4) ∨
    (sumAt ≤ j ∧ j < sumAt + 2)

/-- What readdressing makes of a frame that classifies: the front of the frame and a readdressed
packet. -/
theorem readdress_eq_ok_of_classify {f g : Frame} (hc : classify f = .ok s) :
    readdress f etherHeader s u = .ok g ↔
      etherHeader + sumPlace (f.drop etherHeader) + 2 ≤ f.length ∧
      f.take etherHeader ++ readdressHeader (f.drop etherHeader) (sumPlace (f.drop etherHeader)) s u
        = g := by
  obtain ⟨he, -, h, rfl⟩ := classify_eq_ok.mp hc
  rw [readdress_of_classify hc, readdressHeader_eq h, List.length_drop]
  refine and_congr_left fun _ => ?_
  rw [etherHeader] at he ⊢
  omega

/-- Readdressing leaves the bytes alone that it may not write. -/
theorem byte_of_readdress {f g : Frame} {j : Nat} (hc : classify f = .ok s)
    (hr : readdress f etherHeader s u = .ok g) (hj : ¬ Rewritable f j) : byte g j = byte f j := by
  obtain ⟨-, rfl⟩ := (readdress_eq_ok_of_classify hc).mp hr
  obtain ⟨he, -⟩ := classify_eq_ok.mp hc
  by_cases h : j < etherHeader
  · exact byte_take_append f _ he h
  · obtain ⟨k, rfl⟩ := Nat.exists_eq_add_of_le (Nat.le_of_not_lt h)
    have ht : (f.take etherHeader).length = etherHeader := by
      rw [List.length_take, Nat.min_eq_left he]
    rw [← byte_drop, ← byte_drop, List.drop_left' ht]
    simp only [Rewritable] at hj
    exact byte_readdressHeader_of_outside _ s u (by omega) (by omega) (by omega)

/-- A frame that classifies is readdressed exactly if it holds its transport checksum. -/
theorem exists_readdress_iff {f : Frame} (hc : classify f = .ok s) :
    (∃ g, readdress f etherHeader s u = .ok g) ↔
      etherHeader + headerLength (f.drop etherHeader)
        + (if s.protocol = FiveTuple.tcp then 18 else 8) ≤ f.length := by
  obtain ⟨-, -, h, rfl⟩ := classify_eq_ok.mp hc
  simp only [readdress_eq_ok_of_classify hc, exists_and_left, exists_eq', and_true, sumPlace,
    protocol_tupleOf h]
  split <;> omega

/-- **Readdressing is confined.**  A frame that classifies is readdressed, to any target of its own
protocol, exactly if it holds its transport checksum: 18 bytes behind the IPv4 header for TCP, and 8
for UDP.  The buffer then holds a frame of the same length that classifies to the target, and
differs from the old one in the header checksum, the addresses, the ports and the transport checksum
at most.  Otherwise the buffer is as it was. -/
theorem readdress_confined {frame : Frame} (hc : classify frame = .ok s)
    (hp : u.protocol = s.protocol) :
    ((∃ f, readdress frame etherHeader s u = .ok f) ↔
      etherHeader + headerLength (frame.drop etherHeader)
        + (if s.protocol = FiveTuple.tcp then 18 else 8) ≤ frame.length) ∧
    (∀ f, readdress frame etherHeader s u = .ok f →
      (readdressInPlace etherHeader s u).on frame = (.ok (), f) ∧ f.length = frame.length ∧
      classify f = .ok u ∧ ∀ j, byte f j ≠ byte frame j → Rewritable frame j) ∧
    (∀ e, readdress frame etherHeader s u = .error e →
      (readdressInPlace etherHeader s u).on frame = (.error e, frame)) := by
  refine ⟨exists_readdress_iff hc, fun f hr => ⟨?_, length_of_readdress hr,
    classify_readdress hc hr hp, fun j hj => ?_⟩, fun e hr => ?_⟩
  · rw [readdressInPlace_eq, hr, outcome]
  · exact Classical.byContradiction fun hn => hj (byte_of_readdress hc hr hn)
  · rw [readdressInPlace_eq, hr, outcome]

/-- A query fits, and is refused without the last byte of its checksum. -/
theorem readdress_confined_query :
    (∃ f, readdress query etherHeader ⟨FiveTuple.udp, 0x0A000001, 0x0A000002, 5000, 53⟩
      ⟨FiveTuple.udp, 0x05050505, 0x0A000002, 1024, 53⟩ = .ok f) ∧
    (readdressInPlace etherHeader ⟨FiveTuple.udp, 0x0A000001, 0x0A000002, 5000, 53⟩
      ⟨FiveTuple.udp, 0x05050505, 0x0A000002, 1024, 53⟩).on (query.take 41) =
        (.error (.truncated 42 41), query.take 41) := by
  have hc : classify query = .ok ⟨FiveTuple.udp, 0x0A000001, 0x0A000002, 5000, 53⟩ := rfl
  have hc' : classify (query.take 41) = .ok ⟨FiveTuple.udp, 0x0A000001, 0x0A000002, 5000, 53⟩ := rfl
  obtain ⟨hfits, -⟩ := readdress_confined hc
    (u := ⟨FiveTuple.udp, 0x05050505, 0x0A000002, 1024, 53⟩) rfl
  obtain ⟨-, -, hrefused⟩ := readdress_confined hc'
    (u := ⟨FiveTuple.udp, 0x05050505, 0x0A000002, 1024, 53⟩) rfl
  exact ⟨hfits.mpr (by decide), hrefused _ rfl⟩

end FlowOffload.Frame
