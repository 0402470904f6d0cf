import FlowOffload.NatPool

/-!
# NAT ports — what goes out and what comes back

Handing out takes the first free port away; a return that the pool accepts adds its port at the end.
A pool accepts returns as long as they are of its range and there are no more of them than ports are
missing (`NatPool.releaseAll_of_room`).
-/

namespace FlowOffload.NatPool

/-- `pool'` is a pool of the same range whose free ports are `free`. -/
structure Has (pool pool' : NatPool) (free : List UInt16) : Prop where
  base : pool'.base = pool.base
  size : pool'.size = pool.size
  free : pool'.free.toList = free

/-- A pool that has no port to give stays as it is. -/
theorem acquire_eq_none {pool pool' : NatPool} (h : pool.acquire = (none, pool')) :
    pool' = pool := by
  rw [acquire] at h
  split at h
  · cases h
  · cases h
    rfl

/-- What is handed out has been free the longest. -/
theorem acquire_eq_some {pool pool' : NatPool} {port : UInt16}
    (h : pool.acquire = (some port, pool')) :
    pool'.Has pool (port :: pool'.free.toList) := by
  rw [acquire] at h
  split at h
  · next hp =>
      cases h
      exact ⟨rfl, rfl, Fifo.toList_of_pop? hp⟩
  · cases h

/-- A port of the range comes back while one is missing. -/
theorem release_of_room {pool : NatPool} {port : UInt16} (hc : pool.Covers port)
    (hr : pool.free.toList.length < pool.size) :
    pool.Has (pool.release port).2 (pool.free.toList ++ [port]) := by
  rw [Fifo.length_toList] at hr
  rw [release, if_pos ⟨hc, hr⟩]
  exact ⟨rfl, rfl, Fifo.toList_push _ _⟩

/-- **Ports come back** in order while enough are missing. -/
theorem releaseAll_of_room {pool : NatPool} {ports : List UInt16} (hc : ∀ p ∈ ports, pool.Covers p)
    (hr : pool.free.toList.length + ports.length ≤ pool.size) :
    pool.Has (pool.releaseAll ports) (pool.free.toList ++ ports) := by
  induction ports generalizing pool with
  | nil => exact ⟨rfl, rfl, (List.append_nil _).symm⟩
  | cons port ports ih =>
      -- the first port fills one of the gaps, and there are enough left
      rw [List.length_cons] at hr
      have h₁ := release_of_room (hc port List.mem_cons_self)
        (Nat.lt_of_lt_of_le (Nat.lt_add_of_pos_right (Nat.succ_pos _)) hr)
      have hc' : ∀ p ∈ ports, (pool.release port).2.Covers p := fun p hp => by
        rw [Covers, h₁.base, h₁.size]
        exact hc p (List.mem_cons_of_mem _ hp)
      have h₂ := ih hc' (by
        rw [h₁.free, h₁.size, List.length_append, List.length_singleton, Nat.add_assoc,
          Nat.add_comm 1]
        exact hr)
      refine ⟨h₂.base.trans h₁.base, h₂.size.trans h₁.size, ?_⟩
      rw [releaseAll, List.foldl_cons, ← releaseAll, h₂.free, h₁.free, List.append_assoc,
        List.singleton_append]

/-! ### The range -/

theorem length_range (base size : Nat) : (range base size).length = size := by
  rw [range, List.length_map, List.length_range]

/-- The ports of a range that fits are consecutive numbers. -/
theorem map_toNat_range {base size : Nat} (h : base + size ≤ 65536) :
    (range base size).map UInt16.toNat = List.range' base size := by
  rw [range, List.map_map, List.range'_eq_map_range]
  refine List.map_congr_left fun i hi => ?_
  have hi := List.mem_range.mp hi
  exact UInt16.toNat_ofNat_of_lt' (Nat.lt_of_lt_of_le (Nat.add_lt_add_left hi base) h)

theorem mem_range {base size : Nat} (h : base + size ≤ 65536) {port : UInt16}
    (hp : port ∈ range base size) : base ≤ port.toNat ∧ port.toNat < base + size := by
  have hm := List.mem_map_of_mem (f := UInt16.toNat) hp
  rw [map_toNat_range h] at hm
  exact List.mem_range'_1.mp hm

/-- Ports that the range has besides the free ones can all come back. -/
theorem releaseAll_of_perm {pool : NatPool} {ports rest : List UInt16}
    (hf : pool.base + pool.size ≤ 65536)
    (h : (pool.free.toList ++ (ports ++ rest)).Perm (range pool.base pool.size)) :
    pool.Has (pool.releaseAll ports) (pool.free.toList ++ ports) := by
  refine releaseAll_of_room (fun p hp => mem_range hf (h.mem_iff.mp ?_)) ?_
  · exact List.mem_append_right _ (List.mem_append_left _ hp)
  · have hl := h.length_eq
    rw [length_range, List.length_append, List.length_append, ← Nat.add_assoc] at hl
    exact Nat.le_of_add_right_le (Nat.le_of_eq hl)

/-- A range that fits is not cut off, and all of it is free. -/
theorem ofRange_of_fits {base : UInt16} {size : Nat} (h : base.toNat + size ≤ 65536) :
    (ofRange base size).base = base.toNat ∧ (ofRange base size).size = size ∧
      (ofRange base size).free.toList = range base.toNat size := by
  have hs : min (base.toNat + size) (lastPort + 1) - base.toNat = size := by
    rw [Nat.min_eq_left (show _ ≤ lastPort + 1 from h), Nat.add_sub_cancel_left]
  refine ⟨rfl, hs, ?_⟩
  rw [ofRange, hs, Fifo.toList_ofList]

end FlowOffload.NatPool
