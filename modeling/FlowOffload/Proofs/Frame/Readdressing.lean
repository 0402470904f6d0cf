import FlowOffload.Frame.Readdress
import FlowOffload.Proofs.Frame.Fields

/-!
# Readdressing — where the packet is then

The half-words that differ are overwritten one by one, and each reads as its new value in the end
because they do not overlap (`Frame.Draft.word16_replaceAll`).  The checksums stand apart from the
addresses and ports, so the packet classifies to the tuple that it was moved to
(`Frame.classify_readdress`).
-/

namespace FlowOffload.Frame

open Bytes

/-! ### Half-word by half-word -/

namespace Draft

/-- The half-words that change when a packet behind a header of `ihl` bytes is readdressed: where
they stand, what they are and what they become. -/
def changes (ihl : Nat) (source target : FiveTuple) : List (Nat × UInt16 × UInt16) :=
  [(12, high source.srcAddr, high target.srcAddr), (14, low source.srcAddr, low target.srcAddr),
    (16, high source.dstAddr, high target.dstAddr), (18, low source.dstAddr, low target.dstAddr),
    (ihl, source.srcPort, target.srcPort), (ihl + 2, source.dstPort, target.dstPort)]

/-- Makes changes one after the other. -/
def replaceAll (d : Draft) (xs : List (Nat × UInt16 × UInt16)) : Draft :=
  xs.foldl (fun d x => d.replace x.1 x.2.1 x.2.2) d

theorem readdress_eq (d : Draft) (ihl : Nat) (source target : FiveTuple) :
    d.readdress ihl source target = d.replaceAll (changes ihl source target) := rfl

variable {d : Draft} {o j : Nat} {old new : UInt16}

@[simp] theorem length_replace (d : Draft) (o : Nat) (old new : UInt16) :
    (d.replace o old new).ip.length = d.ip.length := by
  rw [replace]
  split
  · rfl
  · exact length_setWord16 _ _ _

/-- Replacing a half-word leaves the other bytes alone. -/
theorem byte_replace_of_ne (d : Draft) (old new : UInt16) (h : j ≠ o) (h' : j ≠ o + 1) :
    byte (d.replace o old new).ip j = byte d.ip j := by
  rw [replace]
  split
  · rfl
  · exact byte_setWord16_of_ne _ _ h h'

/-- A half-word that was replaced reads as the new one. -/
theorem word16_replace_self (h : o + 1 < d.ip.length) (hw : word16 d.ip o = old) :
    word16 (d.replace o old new).ip o = new := by
  rw [replace]
  split
  · next he => rw [hw, he]
  · exact word16_setWord16_self h

theorem word16_replace_of_apart (d : Draft) (old new : UInt16) (h : o + 1 < j ∨ j + 1 < o) :
    word16 (d.replace o old new).ip j = word16 d.ip j :=
  word16_congr (byte_replace_of_ne d old new (by omega) (by omega))
    (byte_replace_of_ne d old new (by omega) (by omega))

variable {xs : List (Nat × UInt16 × UInt16)}

theorem length_replaceAll (d : Draft) (xs : List (Nat × UInt16 × UInt16)) :
    (d.replaceAll xs).ip.length = d.ip.length := by
  induction xs generalizing d with
  | nil => rfl
  | cons x xs ih => exact (ih _).trans (length_replace _ _ _ _)

/-- So does replacing several, of the bytes that belong to none of them. -/
theorem byte_replaceAll_of_ne (d : Draft) (h : ∀ x ∈ xs, j ≠ x.1 ∧ j ≠ x.1 + 1) :
    byte (d.replaceAll xs).ip j = byte d.ip j := by
  induction xs generalizing d with
  | nil => rfl
  | cons x xs ih =>
      obtain ⟨hx, hxs⟩ := List.forall_mem_cons.mp h
      exact (ih _ hxs).trans (byte_replace_of_ne d _ _ hx.1 hx.2)

/-- Changes that do not overlap all take place. -/
theorem word16_replaceAll (hd : xs.Pairwise fun x y => x.1 + 1 < y.1 ∨ y.1 + 1 < x.1)
    (h : ∀ x ∈ xs, x.1 + 1 < d.ip.length ∧ word16 d.ip x.1 = x.2.1) :
    ∀ x ∈ xs, word16 (d.replaceAll xs).ip x.1 = x.2.2 := by
  induction xs generalizing d with
  | nil => nofun
  | cons y ys ih =>
      obtain ⟨hy, hys⟩ := List.pairwise_cons.mp hd
      obtain ⟨⟨hl, hw⟩, hr⟩ := List.forall_mem_cons.mp h
      refine List.forall_mem_cons.mpr ⟨?_, ih hys fun x hx => ⟨?_, ?_⟩⟩
      · -- the later changes leave the first one alone
        have hk : ∀ j, j = y.1 ∨ j = y.1 + 1 → ∀ x ∈ ys, j ≠ x.1 ∧ j ≠ x.1 + 1 := by
          intro j hj x hx
          have := hy x hx
          omega
        have hs := byte_replaceAll_of_ne (d.replace y.1 y.2.1 y.2.2) (hk _ (.inl rfl))
        have hs' := byte_replaceAll_of_ne (d.replace y.1 y.2.1 y.2.2) (hk _ (.inr rfl))
        exact (word16_congr hs hs').trans (word16_replace_self hl hw)
      · rw [length_replace]
        exact (hr x hx).1
      · rw [word16_replace_of_apart _ _ _ (hy x hx)]
        exact (hr x hx).2

/-- Every change finds what it is to change when its turn comes. -/
inductive Applies : Draft → List (Nat × UInt16 × UInt16) → Prop where
  | nil {d : Draft} : Applies d []
  | cons {d : Draft} {x : Nat × UInt16 × UInt16} {xs : List (Nat × UInt16 × UInt16)} :
      x.1 + 1 < d.ip.length → word16 d.ip x.1 = x.2.1 → Applies (d.replace x.1 x.2.1 x.2.2) xs →
        Applies d (x :: xs)

/-- Changes that do not overlap leave one another alone. -/
theorem applies_of_pairwise (hd : xs.Pairwise fun x y => x.1 + 1 < y.1 ∨ y.1 + 1 < x.1)
    (h : ∀ x ∈ xs, x.1 + 1 < d.ip.length ∧ word16 d.ip x.1 = x.2.1) : d.Applies xs := by
  induction xs generalizing d with
  | nil => exact .nil
  | cons y ys ih =>
      obtain ⟨hy, hys⟩ := List.pairwise_cons.mp hd
      obtain ⟨⟨hl, hw⟩, hr⟩ := List.forall_mem_cons.mp h
      refine .cons hl hw (ih hys fun x hx => ?_)
      rw [length_replace, word16_replace_of_apart _ _ _ (hy x hx)]
      exact hr x hx

end Draft

/-! ### A whole header -/

variable {ip : Frame} {sumAt j : Nat} {s u : FiveTuple}

@[simp] theorem length_sealHeader (ip : Frame) (ihl : Nat) :
    (sealHeader ip ihl).length = ip.length := by
  simp only [sealHeader, length_setWord16]

/-- Sealing the header changes its checksum only. -/
theorem byte_sealHeader (ip : Frame) (ihl : Nat) (h : j ≠ 10) (h' : j ≠ 11) :
    byte (sealHeader ip ihl) j = byte ip j := by
  rw [sealHeader, byte_setWord16_of_ne _ _ h h', byte_setWord16_of_ne _ _ h h']

/-- The packet with its addresses and ports overwritten, and its checksums as they were. -/
def moved (ip : Frame) (sumAt : Nat) (s u : FiveTuple) : Draft :=
  Draft.replaceAll ⟨ip, word16 ip sumAt⟩ (Draft.changes (headerLength ip) s u)

theorem length_moved (ip : Frame) (sumAt : Nat) (s u : FiveTuple) :
    (moved ip sumAt s u).ip.length = ip.length :=
  Draft.length_replaceAll _ _

@[simp] theorem length_readdressHeader (ip : Frame) (sumAt : Nat) (s u : FiveTuple) :
    (readdressHeader ip sumAt s u).length = ip.length := by
  rw [readdressHeader, length_sealHeader]
  split
  · exact length_moved ip sumAt s u
  · rw [length_setWord16]
    exact length_moved ip sumAt s u

/-- The checksums stand apart from the addresses and ports. -/
theorem byte_readdressHeader (ip : Frame) (s u : FiveTuple) (h : j ≠ 10 ∧ j ≠ 11)
    (h' : j ≠ sumAt ∧ j ≠ sumAt + 1) :
    byte (readdressHeader ip sumAt s u) j = byte (moved ip sumAt s u).ip j := by
  simp only [readdressHeader, Draft.readdress_eq]
  rw [byte_sealHeader _ _ h.1 h.2]
  split
  · rfl
  · exact byte_setWord16_of_ne _ _ h'.1 h'.2

/-- Bytes outside the addresses and the ports are not overwritten. -/
theorem byte_moved_of_outside (ip : Frame) (sumAt : Nat) (s u : FiveTuple) (ha : j < 12 ∨ 20 ≤ j)
    (hp : j < headerLength ip ∨ headerLength ip + 4 ≤ j) :
    byte (moved ip sumAt s u).ip j = byte ip j := by
  refine Draft.byte_replaceAll_of_ne _ fun x hx => ?_
  simp only [Draft.changes, List.mem_cons, List.not_mem_nil, or_false] at hx
  rcases hx with rfl | rfl | rfl | rfl | rfl | rfl <;> simp only <;> omega

/-- Moving a packet leaves the length of its header alone. -/
theorem headerLength_moved (hi : minHeader ≤ headerLength ip) (sumAt : Nat) (s u : FiveTuple) :
    headerLength (moved ip sumAt s u).ip = headerLength ip := by
  have hm : (20 : Nat) ≤ headerLength ip := hi
  rw [headerLength, byte_moved_of_outside ip sumAt s u (.inl (by decide)) (.inl (by omega)),
    headerLength]

/-- Bytes outside the addresses, the ports and the checksums stay. -/
theorem byte_readdressHeader_of_outside (ip : Frame) (s u : FiveTuple) (ha : j < 10 ∨ 20 ≤ j)
    (hp : j < headerLength ip ∨ headerLength ip + 4 ≤ j) (hs : j < sumAt ∨ sumAt + 2 ≤ j) :
    byte (readdressHeader ip sumAt s u) j = byte ip j := by
  rw [byte_readdressHeader ip s u (by omega) (by omega)]
  exact byte_moved_of_outside ip sumAt s u (by omega) hp

theorem headerLength_readdressHeader (s u : FiveTuple) (hi : minHeader ≤ headerLength ip)
    (hs : headerLength ip + 4 ≤ sumAt) :
    headerLength (readdressHeader ip sumAt s u) = headerLength ip := by
  have hm : (20 : Nat) ≤ headerLength ip := hi
  rw [headerLength, byte_readdressHeader_of_outside ip s u (by omega) (by omega) (by omega),
    ← headerLength]

/-- The changes do not overlap. -/
theorem pairwise_changes {ihl : Nat} (hi : minHeader ≤ ihl) (s u : FiveTuple) :
    (Draft.changes ihl s u).Pairwise fun x y => x.1 + 1 < y.1 ∨ y.1 + 1 < x.1 := by
  have hm : (20 : Nat) ≤ ihl := hi
  simp only [Draft.changes, List.pairwise_cons, List.mem_cons, List.not_mem_nil, or_false,
    forall_eq_or_imp, forall_eq, List.Pairwise.nil, and_true, false_imp_iff, implies_true]
  omega

/-- What they change is there. -/
theorem word16_of_mem_changes (hi : minHeader ≤ headerLength ip)
    (hl : headerLength ip + 4 ≤ ip.length) :
    ∀ x ∈ Draft.changes (headerLength ip) (tupleOf ip) u,
      x.1 + 1 < ip.length ∧ word16 ip x.1 = x.2.1 := by
  have hm : (20 : Nat) ≤ headerLength ip := hi
  intro x hx
  have ht := tupleOf_eq hi hl
  simp only [Draft.changes, List.mem_cons, List.not_mem_nil, or_false] at hx
  rcases hx with rfl | rfl | rfl | rfl | rfl | rfl <;>
    simp only [ht, high_word32, low_word32, and_true] <;> omega

/-- The changes can be made one after the other. -/
theorem applies_changes (hi : minHeader ≤ headerLength ip) (hl : headerLength ip + 4 ≤ ip.length)
    (sum : UInt16) (u : FiveTuple) :
    Draft.Applies ⟨ip, sum⟩ (Draft.changes (headerLength ip) (tupleOf ip) u) :=
  Draft.applies_of_pairwise (pairwise_changes hi _ _) (word16_of_mem_changes hi hl)

/-- The changes take place. -/
theorem word16_moved (hi : minHeader ≤ headerLength ip) (hl : headerLength ip + 4 ≤ ip.length) :
    ∀ x ∈ Draft.changes (headerLength ip) (tupleOf ip) u,
      word16 (moved ip sumAt (tupleOf ip) u).ip x.1 = x.2.2 :=
  Draft.word16_replaceAll (pairwise_changes hi _ _) (word16_of_mem_changes hi hl)

/-- The half-words that readdressing overwrites are those of the target then. -/
theorem word16_readdressHeader (hi : minHeader ≤ headerLength ip) (hs : headerLength ip + 4 ≤ sumAt)
    (hl : sumAt ≤ ip.length) :
    ∀ x ∈ Draft.changes (headerLength ip) (tupleOf ip) u,
      word16 (readdressHeader ip sumAt (tupleOf ip) u) x.1 = x.2.2 := by
  intro x hx
  have hm : (20 : Nat) ≤ headerLength ip := hi
  rw [← word16_moved hi (Nat.le_trans hs hl) x hx]
  simp only [Draft.changes, List.mem_cons, List.not_mem_nil, or_false] at hx
  apply word16_congr <;> rcases hx with rfl | rfl | rfl | rfl | rfl | rfl <;>
    exact byte_readdressHeader _ _ _ (by simp only; omega) (by simp only; omega)

/-- **Readdressing moves a packet to the target.** -/
theorem tupleOf_readdressHeader (hi : minHeader ≤ headerLength ip)
    (hs : headerLength ip + 4 ≤ sumAt) (hl : sumAt ≤ ip.length)
    (hp : u.protocol = (tupleOf ip).protocol) :
    tupleOf (readdressHeader ip sumAt (tupleOf ip) u) = u := by
  have hm : (20 : Nat) ≤ headerLength ip := hi
  have hh := headerLength_readdressHeader (tupleOf ip) u hi hs
  have h₉ : byte (readdressHeader ip sumAt (tupleOf ip) u) 9 = u.protocol := by
    rw [byte_readdressHeader_of_outside _ _ _ (by omega) (by omega) (by omega), hp,
      tupleOf_eq hi (by omega)]
  have hw := word16_readdressHeader (u := u) hi hs hl
  simp only [Draft.changes, List.forall_mem_cons] at hw
  obtain ⟨h₁₂, h₁₄, h₁₆, h₁₈, hsrc, hdst, -⟩ := hw
  rw [tupleOf_eq (by rw [hh]; exact hi) (by rw [hh, length_readdressHeader]; omega), hh, h₉,
    word32_of_halves h₁₂ h₁₄, word32_of_halves h₁₆ h₁₈, hsrc, hdst]

/-! ### A whole frame -/

/-- **When a packet is readdressed**: it must be long enough to hold its transport checksum. -/
theorem readdress_eq_ok {frame f : Frame} {offset : Nat} {s u : FiveTuple} :
    readdress frame offset s u = .ok f ↔
      offset ≤ frame.length ∧ minHeader ≤ (frame.drop offset).length ∧
      ∃ inner, checksumOffset? s.protocol = some inner ∧
        headerLength (frame.drop offset) + inner + 2 ≤ (frame.drop offset).length ∧
        frame.take offset ++ readdressHeader (frame.drop offset)
          (headerLength (frame.drop offset) + inner) s u = f := by
  simp only [readdress, refuse_eq_ok, Nat.not_lt]
  refine and_congr_right fun _ => and_congr_right fun _ => ?_
  cases checksumOffset? s.protocol with
  | none => simp
  | some inner =>
      simp only [refuse_eq_ok, Nat.not_lt, Except.ok.injEq, Option.some.injEq, exists_eq_left']

/-- Readdressing changes no length. -/
theorem length_of_readdress {frame f : Frame} {offset : Nat} {s u : FiveTuple}
    (h : readdress frame offset s u = .ok f) : f.length = frame.length := by
  obtain ⟨-, -, inner, -, -, rfl⟩ := readdress_eq_ok.mp h
  rw [List.length_append, length_readdressHeader, ← List.length_append, List.take_append_drop]

/-- Checksums stand behind the ports. -/
theorem four_le_checksumOffset {p : UInt8} {inner : Nat} (h : checksumOffset? p = some inner) :
    4 ≤ inner := by
  rw [checksumOffset?] at h
  split at h
  · cases h
    decide
  · split at h <;> cases h
    decide

/-- What can be classified still can be then. -/
theorem readable_readdressHeader (s u : FiveTuple) (h : Readable ip)
    (hs : headerLength ip + 4 ≤ sumAt) : Readable (readdressHeader ip sumAt s u) := by
  have hm : (20 : Nat) ≤ headerLength ip := h.header
  have hk : ∀ j < 10, byte (readdressHeader ip sumAt s u) j = byte ip j := fun j hj =>
    byte_readdressHeader_of_outside ip s u (.inl hj) (.inl (by omega)) (.inl (by omega))
  have hh := headerLength_readdressHeader s u h.header hs
  refine ⟨?_, ?_, ?_, ?_, ?_⟩
  · rw [hk 0 (by decide)]
    exact h.version
  · rw [hh]
    exact h.header
  · rw [word16_congr (hk 6 (by decide)) (hk 7 (by decide))]
    exact h.unfragmented
  · rw [hk 9 (by decide)]
    exact h.portful
  · rw [hh, length_readdressHeader]
    exact h.ports

/-- **A readdressed frame classifies to its target** when it was readdressed from the tuple that it
had. -/
theorem classify_readdress {frame f : Frame} (hc : classify frame = .ok s)
    (hr : readdress frame etherHeader s u = .ok f) (hp : u.protocol = s.protocol) :
    classify f = .ok u := by
  obtain ⟨he, hi, hd, rfl⟩ := classify_eq_ok.mp hc
  obtain ⟨-, -, inner, hin, hl, rfl⟩ := readdress_eq_ok.mp hr
  have hin := four_le_checksumOffset hin
  have ht : (frame.take etherHeader).length = etherHeader := by
    rw [List.length_take, Nat.min_eq_left he]
  refine classify_eq_ok.mpr ⟨?_, ?_, ?_, ?_⟩
  · rw [List.length_append, ht]
    omega
  · rw [← hi]
    have hb := fun j => byte_take_append (j := j) frame (readdressHeader (frame.drop etherHeader)
      (headerLength (frame.drop etherHeader) + inner) (tupleOf (frame.drop etherHeader)) u) he
    exact word16_congr (hb 12 (by decide)) (hb 13 (by decide))
  · rw [List.drop_left' ht]
    exact readable_readdressHeader _ _ hd (by omega)
  · rw [List.drop_left' ht]
    exact tupleOf_readdressHeader hd.header (by omega) (by omega) hp

end FlowOffload.Frame
