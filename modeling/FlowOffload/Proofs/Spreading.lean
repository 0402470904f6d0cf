import FlowOffload.Bytes
import FlowOffload.Rule

/-!
# Spreading — both directions of a flow on one queue

A NIC spreads packets by their Toeplitz hash: for every set bit of the packet's endpoints, the
window of 32 key bits that starts at the place of that bit, and of all these windows the exclusive
or (`toeplitz`).

If the key repeats every two bytes, a window does not change when it is moved by 16 bits, so the
hash is the exclusive or of what each half-word contributes by itself, in whatever order the
half-words stand (`toeplitz_congr_perm`).  The endpoints of the opposite direction are the same
half-words in another order, so both directions have one hash, and go to one entry of the list of
queues (`Rule.spread_symmetric`).
-/

namespace FlowOffload

/-- The bit at a place, counted from the most significant bit of the first byte. -/
def Bytes.bit (bs : List UInt8) (i : Nat) : Bool := (byte bs (i / 8)).toNat.testBit (7 - i % 8)

/-- The word that bits stand for, the most significant first. -/
def wordOfBits (bits : List Bool) : UInt32 := bits.foldl (fun w b => 2 * w + b.toUInt32) 0

/-- The 32 bits of a key from a place on. -/
def window (key : List UInt8) (i : Nat) : UInt32 :=
  wordOfBits ((List.range 32).map fun j => Bytes.bit key (i + j))

/-- The exclusive or of words. -/
def exclusiveOr (ws : List UInt32) : UInt32 := ws.foldr (· ^^^ ·) 0

/-- The Toeplitz hash of bytes under a key. -/
def toeplitz (key bytes : List UInt8) : UInt32 :=
  exclusiveOr (((List.range (8 * bytes.length)).filter (Bytes.bit bytes)).map (window key))

/-- What bytes contribute to a hash if `k` bits stand in front of them. -/
def toeplitzFrom (key : List UInt8) (k : Nat) (bytes : List UInt8) : UInt32 :=
  exclusiveOr (((List.range (8 * bytes.length)).filter (Bytes.bit bytes)).map
    fun i => window key (k + i))

/-- The addresses of the packets of a tuple, as they are hashed. -/
def FiveTuple.addressBytes (t : FiveTuple) : List UInt8 :=
  Bytes.ofWord32 t.srcAddr ++ Bytes.ofWord32 t.dstAddr

/-- The addresses and ports of the packets of a tuple, as they are hashed. -/
def FiveTuple.endpointBytes (t : FiveTuple) : List UInt8 :=
  t.addressBytes ++ Bytes.ofWord16 t.srcPort ++ Bytes.ofWord16 t.dstPort

/-- The queue that an action spreads a packet to, if it spreads packets, by the place that the NIC
has for the packet's hash. -/
def Action.queueFor? (place : UInt32 → Nat) (bytes : List UInt8) : Action → Option QueueId
  | .spread queues key => queues[place (toeplitz key bytes) % queues.length]?
  | _ => none

/-- The queue that a rule spreads a packet to. -/
def Rule.queueFor? (r : Rule) (place : UInt32 → Nat) (bytes : List UInt8) : Option QueueId :=
  r.actions.findSome? (Action.queueFor? place bytes)

/-- Every byte of the key is the same as the one two places on. -/
def Repeats (key : List UInt8) : Prop :=
  ∀ i, i + 2 < key.length → Bytes.byte key (i + 2) = Bytes.byte key i

variable {key bs cs : List UInt8} {ws vs : List UInt32} {i k : Nat}

/-! ### Exclusive or -/

/-- Two lists of windows are combined list by list. -/
theorem exclusiveOr_append (ws vs : List UInt32) :
    exclusiveOr (ws ++ vs) = exclusiveOr ws ^^^ exclusiveOr vs := by
  induction ws with
  | nil => exact (UInt32.zero_xor).symm
  | cons w ws ih =>
      rw [List.cons_append, exclusiveOr, List.foldr_cons, ← exclusiveOr, ih, ← UInt32.xor_assoc]
      rfl

/-- The order of the windows makes no difference. -/
theorem exclusiveOr_perm (h : ws.Perm vs) : exclusiveOr ws = exclusiveOr vs := by
  induction h with
  | nil => rfl
  | cons w _ ih => exact congrArg (w ^^^ ·) ih
  | swap v w ws =>
      show w ^^^ (v ^^^ exclusiveOr ws) = v ^^^ (w ^^^ exclusiveOr ws)
      rw [← UInt32.xor_assoc, ← UInt32.xor_assoc, UInt32.xor_comm w v]
  | trans _ _ ih₁ ih₂ => exact ih₁.trans ih₂

/-! ### The hash of two pieces -/

theorem bit_append_left (bs cs : List UInt8) (h : i < 8 * bs.length) :
    Bytes.bit (bs ++ cs) i = Bytes.bit bs i := by
  have hi : i / 8 < bs.length := by omega
  rw [Bytes.bit, Bytes.bit, Bytes.byte, Bytes.byte, List.getD_eq_getElem?_getD,
    List.getD_eq_getElem?_getD, List.getElem?_append_left hi]

theorem bit_append_right (bs cs : List UInt8) (i : Nat) :
    Bytes.bit (bs ++ cs) (8 * bs.length + i) = Bytes.bit cs i := by
  have hd : (8 * bs.length + i) / 8 = bs.length + i / 8 := by omega
  have hm : (8 * bs.length + i) % 8 = i % 8 := by omega
  rw [Bytes.bit, Bytes.bit, hd, hm, Bytes.byte, Bytes.byte, List.getD_eq_getElem?_getD,
    List.getD_eq_getElem?_getD, List.getElem?_append_right (Nat.le_add_right _ _),
    Nat.add_sub_cancel_left]

/-- The hash of two pieces: the second is hashed with the key from where it starts. -/
theorem toeplitz_append (key bs cs : List UInt8) :
    toeplitz key (bs ++ cs) = toeplitz key bs ^^^ toeplitzFrom key (8 * bs.length) cs := by
  have hl : (List.range (8 * bs.length)).filter (Bytes.bit (bs ++ cs)) =
      (List.range (8 * bs.length)).filter (Bytes.bit bs) :=
    List.filter_congr fun i hi => bit_append_left bs cs (List.mem_range.mp hi)
  have hr : Bytes.bit (bs ++ cs) ∘ (8 * bs.length + ·) = Bytes.bit cs :=
    funext (bit_append_right bs cs)
  rw [toeplitz, List.length_append, Nat.mul_add, List.range_add, List.filter_append, hl,
    List.filter_map, hr, List.map_append, List.map_map, exclusiveOr_append, toeplitz, toeplitzFrom]
  simp only [Function.comp_def]

/-! ### Keys that repeat -/

/-- A key that repeats itself has the same bit two bytes further on. -/
theorem bit_add_sixteen (h : Repeats key) (hi : i + 16 < 8 * key.length) :
    Bytes.bit key (i + 16) = Bytes.bit key i := by
  have hd : (i + 16) / 8 = i / 8 + 2 := by omega
  have hm : (i + 16) % 8 = i % 8 := by omega
  rw [Bytes.bit, Bytes.bit, hd, hm, h (i / 8) (by omega)]

/-- A window that is moved by 16 bits shows the same. -/
theorem window_add_sixteen (h : Repeats key) (hi : i + 16 + 31 < 8 * key.length) :
    window key (i + 16) = window key i := by
  rw [window, window]
  refine congrArg wordOfBits (List.map_congr_left fun j hj => ?_)
  have hj := List.mem_range.mp hj
  rw [Nat.add_right_comm]
  exact bit_add_sixteen h (by omega)

/-- With a key that repeats itself, it makes no difference that a piece starts two bytes further on.
-/
theorem toeplitzFrom_sixteen (h : Repeats key)
    (hl : 8 * bs.length + 16 + 31 ≤ 8 * key.length) :
    toeplitzFrom key 16 bs = toeplitz key bs := by
  refine congrArg exclusiveOr (List.map_congr_left fun i hi => ?_)
  have hi := List.mem_range.mp (List.mem_filter.mp hi).1
  rw [Nat.add_comm]
  exact window_add_sixteen h (by omega)

theorem length_flatMap_ofWord16 (hs : List UInt16) :
    (hs.flatMap Bytes.ofWord16).length = 2 * hs.length := by
  induction hs with
  | nil => rfl
  | cons w hs ih =>
      rw [List.flatMap_cons, List.length_append, ih, List.length_cons, Nat.mul_succ, Nat.add_comm]
      rfl

/-- Under a key that repeats, every half-word contributes by itself. -/
theorem toeplitz_halves (h : Repeats key) {hs : List UInt16}
    (hl : 16 * hs.length + 31 ≤ 8 * key.length) :
    toeplitz key (hs.flatMap Bytes.ofWord16) =
      exclusiveOr (hs.map fun w => toeplitz key (Bytes.ofWord16 w)) := by
  induction hs with
  | nil => rfl
  | cons w hs ih =>
      have hlen := length_flatMap_ofWord16 hs
      rw [List.length_cons] at hl
      rw [List.flatMap_cons, toeplitz_append, show 8 * (Bytes.ofWord16 w).length = 16 from rfl,
        toeplitzFrom_sixteen h (by omega), ih (by omega), List.map_cons, exclusiveOr, exclusiveOr,
        List.foldr_cons]

/-- **The order of the half-words does not matter** under a key that repeats. -/
theorem toeplitz_congr_perm (h : Repeats key) {hs gs : List UInt16} (hp : hs.Perm gs)
    (hl : 16 * hs.length + 31 ≤ 8 * key.length) :
    toeplitz key (hs.flatMap Bytes.ofWord16) = toeplitz key (gs.flatMap Bytes.ofWord16) := by
  rw [toeplitz_halves h hl, toeplitz_halves h (hp.length_eq ▸ hl)]
  exact exclusiveOr_perm (hp.map _)

/-! ### The key of the rules -/

theorem length_symmetricKey : Rule.symmetricKey.length = 40 := rfl

/-- The key of the rules repeats its first two bytes throughout. -/
theorem repeats_symmetricKey : Repeats Rule.symmetricKey := by
  have hall : (List.range 38).all fun i =>
      Bytes.byte Rule.symmetricKey (i + 2) == Bytes.byte Rule.symmetricKey i := rfl
  intro i hi
  rw [length_symmetricKey] at hi
  exact beq_iff_eq.mp (List.all_eq_true.mp hall i (List.mem_range.mpr (by omega)))

/-! ### The two directions of a flow -/

/-- The half-words of a word, the high one first. -/
def Bytes.halves (w : UInt32) : List UInt16 := [high w, low w]

namespace FiveTuple

variable (t : FiveTuple)

/-- The half-words of the addresses of a tuple. -/
def addressHalves : List UInt16 := Bytes.halves t.srcAddr ++ Bytes.halves t.dstAddr

theorem addressBytes_eq : t.addressBytes = t.addressHalves.flatMap Bytes.ofWord16 := rfl

theorem endpointBytes_eq : t.endpointBytes =
    (t.addressHalves ++ [t.srcPort, t.dstPort]).flatMap Bytes.ofWord16 := rfl

theorem length_addressHalves : t.addressHalves.length = 4 := rfl

/-- The opposite direction has the same half-words, in another order. -/
theorem addressHalves_reverse : t.reverse.addressHalves.Perm t.addressHalves :=
  List.perm_append_comm

/-- Addresses that change places have the same hash. -/
theorem toeplitz_addressBytes_reverse :
    toeplitz Rule.symmetricKey t.reverse.addressBytes =
      toeplitz Rule.symmetricKey t.addressBytes := by
  rw [addressBytes_eq, addressBytes_eq]
  refine toeplitz_congr_perm repeats_symmetricKey t.addressHalves_reverse ?_
  rw [length_addressHalves, length_symmetricKey]
  decide

/-- So do addresses and ports. -/
theorem toeplitz_endpointBytes_reverse :
    toeplitz Rule.symmetricKey t.reverse.endpointBytes =
      toeplitz Rule.symmetricKey t.endpointBytes := by
  rw [endpointBytes_eq, endpointBytes_eq]
  refine toeplitz_congr_perm repeats_symmetricKey
    (t.addressHalves_reverse.append (List.Perm.swap _ _ _)) ?_
  rw [List.length_append, length_addressHalves, length_symmetricKey, List.length_cons,
    List.length_singleton]
  decide

end FiveTuple

/-! ### The queue -/

namespace Rule

/-- The queues that packets are spread over. -/
theorem queueFor?_spread (queues : UInt16) (place : UInt32 → Nat) (bytes : List UInt8) :
    (spread queues).queueFor? place bytes =
      ((List.range queues.toNat).map UInt16.ofNat)[place (toeplitz symmetricKey bytes) %
        queues.toNat]? := by
  rw [queueFor?, spread, List.findSome?_singleton, Action.queueFor?, List.length_map,
    List.length_range]

/-- Every packet is spread to one of the queues, if there is one. -/
theorem exists_queueFor?_spread {queues : UInt16} (h : 0 < queues) (place : UInt32 → Nat)
    (bytes : List UInt8) :
    ∃ q < queues, (spread queues).queueFor? place bytes = some q := by
  have hq := queues.toNat_lt
  have hm := Nat.mod_lt (place (toeplitz symmetricKey bytes)) (UInt16.lt_iff_toNat_lt.mp h)
  refine ⟨UInt16.ofNat (place (toeplitz symmetricKey bytes) % queues.toNat), ?_, ?_⟩
  · rw [UInt16.lt_iff_toNat_lt, UInt16.toNat_ofNat_of_lt' (Nat.lt_trans hm hq)]
    exact hm
  · rw [queueFor?_spread, List.getElem?_map, List.getElem?_range hm, Option.map_some]

/-- **Both directions of a flow go to one queue.**  Under the key of the rule that spreads packets
the opposite directions of a flow have the same hash, over addresses and ports as well as over the
addresses alone.  Whatever place the NIC has for a hash, both go to the same entry of the list of
queues; there is such an entry if there are queues at all. -/
theorem spread_symmetric (queues : UInt16) (t : FiveTuple) :
    ∃ list key, (spread queues).actions = [.spread list key] ∧
      toeplitz key t.reverse.endpointBytes = toeplitz key t.endpointBytes ∧
      toeplitz key t.reverse.addressBytes = toeplitz key t.addressBytes ∧
      ∀ place : UInt32 → Nat,
        (spread queues).queueFor? place t.reverse.endpointBytes =
          (spread queues).queueFor? place t.endpointBytes ∧
        (spread queues).queueFor? place t.reverse.addressBytes =
          (spread queues).queueFor? place t.addressBytes ∧
        (0 < queues → ∀ bytes, ∃ q < queues, (spread queues).queueFor? place bytes = some q) := by
  have he := t.toeplitz_endpointBytes_reverse
  have ha := t.toeplitz_addressBytes_reverse
  refine ⟨_, symmetricKey, rfl, he, ha, fun place => ⟨?_, ?_, fun h bytes => ?_⟩⟩
  · rw [queueFor?_spread, queueFor?_spread, he]
  · rw [queueFor?_spread, queueFor?_spread, ha]
  · exact exists_queueFor?_spread h place bytes

/-- With four queues and a NIC that takes the hash itself for the place, a flow has one queue. -/
theorem spread_symmetric_four :
    let t : FiveTuple := ⟨FiveTuple.tcp, 0x0A000001, 0x0A000002, 1000, 80⟩
    ∃ q < (4 : UInt16), (spread 4).queueFor? UInt32.toNat t.endpointBytes = some q ∧
      (spread 4).queueFor? UInt32.toNat t.reverse.endpointBytes = some q := by
  intro t
  obtain ⟨_, _, _, _, _, h⟩ := spread_symmetric 4 t
  obtain ⟨he, _, hq⟩ := h UInt32.toNat
  obtain ⟨q, hlt, hq⟩ := hq (by decide) t.endpointBytes
  exact ⟨q, hlt, hq, he.trans hq⟩

/-- A key that does not repeat tells the directions apart. -/
example :
    let t : FiveTuple := ⟨FiveTuple.tcp, 0x0A000001, 0x0A000002, 1000, 80⟩
    let key := (List.range 40).map UInt8.ofNat
    toeplitz key t.reverse.endpointBytes ≠ toeplitz key t.endpointBytes := by
  decide +kernel

end Rule

end FlowOffload
