import FlowOffload.Proofs.NatPool
import Mathlib.Data.List.Nodup
import Mathlib.Data.List.Perm.Subperm

/-!
# NAT ports — who holds a port

A pool does not know which ports are out.  It refuses a port that comes back if the port is not of
its range or if no port is missing, so a port that comes back twice is accepted again whenever
another port is out, and then it is free twice.

That is the only way in which a port can be lent to two holders (`NatPool.lent_once`): a port that
is never taken back while it is free is free at most once, and between two times that it is lent it
has been taken back.
-/

namespace FlowOffload.NatPool

/-- What a pool is asked for. -/
inductive Call where
  /-- A port is to be handed out. -/
  | acquire
  /-- A port is to be taken back. -/
  | release (port : UInt16)
deriving DecidableEq

/-- The pool after a call. -/
def step (pool : NatPool) : Call → NatPool
  | .acquire => pool.acquire.2
  | .release port => (pool.release port).2

/-- The pool after calls, one after the other. -/
def after (pool : NatPool) (calls : List Call) : NatPool := calls.foldl step pool

/-- The pool hands out `port` next. -/
def Lends (pool : NatPool) (port : UInt16) : Prop := pool.acquire.1 = some port

/-- The pool takes `port` back. -/
def Accepts (pool : NatPool) (port : UInt16) : Prop := (pool.release port).1 = true

instance (pool : NatPool) (port : UInt16) : Decidable (pool.Lends port) :=
  inferInstanceAs (Decidable (_ = _))

instance (pool : NatPool) (port : UInt16) : Decidable (pool.Accepts port) :=
  inferInstanceAs (Decidable (_ = _))

/-- Somewhere in the calls, `port` is taken back although it is free. -/
def TakesTwice (pool : NatPool) (calls : List Call) (port : UInt16) : Prop :=
  ∃ before rest, calls = before ++ .release port :: rest ∧
    port ∈ (pool.after before).free.toList ∧ (pool.after before).Accepts port

/-- `port` is lent to one holder at a time: after the calls it is free at most once, and between two
calls that hand it out there is one that takes it back. -/
structure OneHolder (pool : NatPool) (calls : List Call) (port : UInt16) : Prop where
  free : (pool.after calls).free.toList.count port ≤ 1
  returned : ∀ before between rest,
    calls = before ++ .acquire :: between ++ .acquire :: rest → (pool.after before).Lends port →
      (pool.after (before ++ .acquire :: between)).Lends port →
      ∃ pre post, between = pre ++ .release port :: post ∧
        (pool.after (before ++ .acquire :: pre)).Accepts port

variable {pool : NatPool} {calls : List Call} {port : UInt16}

theorem after_append (pool : NatPool) (as bs : List Call) :
    pool.after (as ++ bs) = (pool.after as).after bs :=
  List.foldl_append

theorem after_cons (pool : NatPool) (call : Call) (calls : List Call) :
    pool.after (call :: calls) = (pool.step call).after calls :=
  rfl

/-! ### One call -/

/-- The port that is handed out next is the first free one. -/
theorem lends_iff : pool.Lends port ↔ pool.free.toList.head? = some port := by
  rw [Lends, acquire]
  split
  · next p free hp => rw [Fifo.toList_of_pop? hp, List.head?_cons]
  · next hp => rw [Fifo.pop?_eq_none_iff.mp hp, List.head?_nil]

/-- A port is taken back if it is of the range and the pool is not full. -/
theorem accepts_iff :
    pool.Accepts port ↔ pool.Covers port ∧ pool.free.toList.length < pool.size := by
  rw [Accepts, release, Fifo.length_toList]
  split
  · next h => exact iff_of_true rfl h
  · next h => exact iff_of_false Bool.false_ne_true h

/-- Handing a port out takes it from the front. -/
theorem has_acquire (pool : NatPool) : pool.Has (pool.step .acquire) pool.free.toList.tail := by
  rw [step, acquire]
  split
  · next p free hp => exact ⟨rfl, rfl, by rw [Fifo.toList_of_pop? hp, List.tail_cons]⟩
  · next hp => exact ⟨rfl, rfl, by rw [Fifo.pop?_eq_none_iff.mp hp, List.tail_nil]⟩

/-- A port that is taken back goes to the end. -/
theorem has_release (h : pool.Accepts port) :
    pool.Has (pool.step (.release port)) (pool.free.toList ++ [port]) :=
  release_of_room (accepts_iff.mp h).1 (accepts_iff.mp h).2

/-- A port that is not taken back changes nothing. -/
theorem release_of_refused (h : ¬ pool.Accepts port) : pool.step (.release port) = pool := by
  rw [step, release]
  split
  · next hr => exact absurd (accepts_iff.mpr (by rwa [Fifo.length_toList])) h
  · rfl

/-- **A call** takes the first free port away, adds one that it accepts at the end, or changes
nothing. -/
theorem step_cases (pool : NatPool) (call : Call) :
    (call = .acquire ∧ pool.Has (pool.step call) pool.free.toList.tail) ∨
    (∃ port, call = .release port ∧ pool.Accepts port ∧
      pool.Has (pool.step call) (pool.free.toList ++ [port])) ∨
    pool.step call = pool := by
  cases call with
  | acquire => exact .inl ⟨rfl, pool.has_acquire⟩
  | release port =>
      by_cases h : pool.Accepts port
      · exact .inr (.inl ⟨port, rfl, h, has_release h⟩)
      · exact .inr (.inr (release_of_refused h))

/-! ### Any calls -/

/-- The pool has the range `base, base + 1, …` of `size` ports, and only such ports are free. -/
structure Within (base size : Nat) (pool : NatPool) : Prop where
  base : pool.base = base
  size : pool.size = size
  covers : ∀ port ∈ pool.free.toList, pool.Covers port

/-- A call hands out and takes back ports of the range only. -/
theorem Within.step {base size : Nat} (h : Within base size pool) (call : Call) :
    Within base size (pool.step call) := by
  rcases pool.step_cases call with ⟨-, hs⟩ | ⟨port, -, ha, hs⟩ | hs
  · refine ⟨hs.base.trans h.base, hs.size.trans h.size, fun p hp => ?_⟩
    rw [Covers, hs.base, hs.size]
    exact h.covers p (List.mem_of_mem_tail (hs.free ▸ hp))
  · refine ⟨hs.base.trans h.base, hs.size.trans h.size, fun p hp => ?_⟩
    rw [Covers, hs.base, hs.size]
    rcases List.mem_append.mp (hs.free ▸ hp) with hp | hp
    · exact h.covers p hp
    · rw [List.mem_singleton.mp hp]
      exact (accepts_iff.mp ha).1
  · rw [hs]
    exact h

theorem Within.after {base size : Nat} (h : Within base size pool) (calls : List Call) :
    Within base size (pool.after calls) := by
  induction calls generalizing pool with
  | nil => exact h
  | cons call calls ih => exact ih (h.step call)

theorem not_takesTwice_of_append {as bs : List Call} (h : ¬ pool.TakesTwice (as ++ bs) port) :
    ¬ pool.TakesTwice as port := by
  rintro ⟨before, rest, rfl, hf⟩
  exact h ⟨before, rest ++ bs, by rw [List.append_assoc, List.cons_append], hf⟩

/-- A port that is free once at most stays so, unless it is taken back while it is free. -/
theorem count_step_le (h : pool.free.toList.count port ≤ 1) {call : Call}
    (hn : call = .release port → port ∈ pool.free.toList → ¬ pool.Accepts port) :
    (pool.step call).free.toList.count port ≤ 1 := by
  rcases pool.step_cases call with ⟨-, hs⟩ | ⟨p, rfl, ha, hs⟩ | hs
  · rw [hs.free]
    exact Nat.le_trans ((List.tail_sublist _).count_le port) h
  · rw [hs.free, List.count_append, List.count_singleton]
    split
    · next hp =>
        obtain rfl := eq_of_beq hp
        have hz := List.count_eq_zero.mpr fun hm => hn rfl hm ha
        exact Nat.le_of_eq (by rw [hz])
    · exact h
  · rw [hs]
    exact h

/-- A port that is free once at most stays so, if it is never taken back while it is free. -/
theorem count_after_le (h : pool.free.toList.count port ≤ 1)
    (hn : ¬ pool.TakesTwice calls port) : (pool.after calls).free.toList.count port ≤ 1 := by
  induction calls generalizing pool with
  | nil => exact h
  | cons call calls ih =>
      refine ih (count_step_le h ?_) ?_
      · rintro rfl hm ha
        exact hn ⟨[], calls, rfl, hm, ha⟩
      · rintro ⟨before, rest, rfl, hf⟩
        exact hn ⟨call :: before, rest, rfl, hf⟩

/-- A port that is not free only becomes free by being taken back. -/
theorem exists_release (h : port ∉ pool.free.toList)
    (hm : port ∈ (pool.after calls).free.toList) :
    ∃ pre post, calls = pre ++ .release port :: post ∧ (pool.after pre).Accepts port := by
  induction calls generalizing pool with
  | nil => exact absurd hm h
  | cons call calls ih =>
      by_cases hs : port ∈ (pool.step call).free.toList
      · -- this call has made it free
        rcases pool.step_cases call with ⟨-, hc⟩ | ⟨p, rfl, ha, hc⟩ | hc
        · exact absurd (List.mem_of_mem_tail (hc.free ▸ hs)) h
        · rcases List.mem_append.mp (hc.free ▸ hs) with hp | hp
          · exact absurd hp h
          · obtain rfl := List.mem_singleton.mp hp
            exact ⟨[], calls, rfl, ha⟩
        · exact absurd (hc ▸ hs) h
      · obtain ⟨pre, post, rfl, ha⟩ := ih hs hm
        exact ⟨call :: pre, post, rfl, ha⟩

/-- **One holder at a time**, if the port is never taken back while it is free. -/
theorem oneHolder_of_not_takesTwice (h : pool.free.toList.count port ≤ 1)
    (hn : ¬ pool.TakesTwice calls port) : pool.OneHolder calls port := by
  refine ⟨count_after_le h hn, ?_⟩
  rintro before between rest rfl hl hl'
  rw [List.append_assoc] at hn
  have hc := count_after_le h (not_takesTwice_of_append hn)
  -- lent once, the port is not free any more
  have hout : port ∉ ((pool.after before).step .acquire).free.toList := by
    obtain ⟨ports, hp⟩ := List.head?_eq_some_iff.mp (lends_iff.mp hl)
    rw [hp, List.count_cons_self] at hc
    rw [(has_acquire _).free, hp, List.tail_cons]
    exact List.count_eq_zero.mp (Nat.le_zero.mp (Nat.le_of_succ_le_succ hc))
  have hin : port ∈ (((pool.after before).step .acquire).after between).free.toList := by
    rw [after_append, after_cons] at hl'
    exact List.mem_of_head? (lends_iff.mp hl')
  obtain ⟨pre, post, rfl, ha⟩ := exists_release hout hin
  refine ⟨pre, post, rfl, ?_⟩
  rw [after_append, after_cons]
  exact ha

/-! ### From a full pool on -/

theorem ofRange_fits (base : UInt16) (size : Nat) :
    (ofRange base size).base + (ofRange base size).size ≤ 65536 := by
  have hb := base.toNat_lt
  simp only [ofRange, lastPort]
  omega

/-- A full pool has its whole range free, in ascending order. -/
theorem free_ofRange (base : UInt16) (size : Nat) :
    (ofRange base size).free.toList =
      range (ofRange base size).base (ofRange base size).size :=
  Fifo.toList_ofList _

theorem nodup_range {base size : Nat} (h : base + size ≤ 65536) : (range base size).Nodup :=
  List.Nodup.of_map UInt16.toNat (map_toNat_range h ▸ List.nodup_range')

/-- A full pool has no other port free. -/
theorem within_ofRange (base : UInt16) (size : Nat) :
    Within (ofRange base size).base (ofRange base size).size (ofRange base size) :=
  ⟨rfl, rfl, fun _ hp => mem_range (ofRange_fits base size) (free_ofRange base size ▸ hp)⟩

/-- A pool that accepts a port misses one of its range. -/
theorem exists_missing {base size : Nat} (h : Within base size pool) (hf : base + size ≤ 65536)
    (ha : pool.Accepts port) : ∃ other, pool.Covers other ∧ other ∉ pool.free.toList := by
  by_contra hall
  have hsub : range base size ⊆ pool.free.toList := fun p hp => by
    by_contra hp'
    refine hall ⟨p, ?_, hp'⟩
    rw [Covers, h.base, h.size]
    exact mem_range hf hp
  have hl := ((nodup_range hf).subperm hsub).length_le
  rw [length_range, ← h.size] at hl
  exact absurd (accepts_iff.mp ha).2 (Nat.not_lt.mpr hl)

/-- **A port is lent to one holder at a time** unless it is taken back while it is free.  Whatever a
pool is asked for, its free ports are of its range; it accepts a port only while one of the range is
out, be it that port or another; and every port that it has never accepted while it was free has one
holder at a time.  So the free ports are distinct at every point exactly if no port has been taken
back while it was free. -/
theorem lent_once (base : UInt16) (size : Nat) (calls : List Call) :
    let pool := ofRange base size
    (∀ port ∈ (pool.after calls).free.toList, pool.Covers port) ∧
    (∀ port, (pool.after calls).Accepts port →
      ∃ other, pool.Covers other ∧ other ∉ (pool.after calls).free.toList) ∧
    (∀ port, ¬ pool.TakesTwice calls port → pool.OneHolder calls port) ∧
    ((∀ before, before <+: calls → (pool.after before).free.toList.Nodup) ↔
      ∀ port, ¬ pool.TakesTwice calls port) := by
  intro pool
  have hw : Within pool.base pool.size (pool.after calls) := (within_ofRange base size).after calls
  have hcovers : ∀ port, (pool.after calls).Covers port ↔ pool.Covers port := fun port => by
    rw [Covers, hw.base, hw.size, Covers]
  have hone : ∀ port, pool.free.toList.count port ≤ 1 := fun port =>
    List.nodup_iff_count_le_one.mp
      (free_ofRange base size ▸ nodup_range (ofRange_fits base size)) port
  refine ⟨fun port hp => (hcovers port).mp (hw.covers port hp), fun port ha => ?_,
    fun port hn => oneHolder_of_not_takesTwice (hone port) hn, ?_, ?_⟩
  · obtain ⟨other, hc, hm⟩ := exists_missing hw (ofRange_fits base size) ha
    exact ⟨other, (hcovers other).mp hc, hm⟩
  · -- a port that comes back while it is free is there twice right afterwards
    rintro hd port ⟨before, rest, rfl, hm, ha⟩
    have h := hd (before ++ [.release port]) ⟨rest, by rw [List.append_assoc]; rfl⟩
    rw [after_append] at h
    have hn : List.Nodup ((pool.after before).free.toList ++ [port]) := (has_release ha).free ▸ h
    exact (List.nodup_append.mp hn).2.2 port hm port (List.mem_singleton_self port) rfl
  · rintro hn before ⟨rest, rfl⟩
    exact List.nodup_iff_count_le_one.mpr fun port =>
      count_after_le (hone port) (not_takesTwice_of_append (hn port))

/-- Both ports of a small range are handed out, and the first one comes back twice. -/
def comesBackTwice : List Call := [.acquire, .acquire, .release 2000, .release 2000]

/-- The other port of that range is only lent once, so it has one holder, although the first port is
taken back while it is free. -/
theorem lent_once_other :
    ¬ (ofRange 2000 2).TakesTwice comesBackTwice 2001 ∧
      (ofRange 2000 2).OneHolder comesBackTwice 2001 := by
  have hn : ¬ (ofRange 2000 2).TakesTwice comesBackTwice 2001 := by
    rintro ⟨before, rest, hs, -⟩
    have hm : Call.release 2001 ∈ comesBackTwice := hs ▸ List.mem_append_right _ List.mem_cons_self
    exact absurd hm (by decide)
  exact ⟨hn, (lent_once 2000 2 comesBackTwice).2.2.1 2001 hn⟩

/-- **A port that comes back twice is lent to two holders**, if another port is out: it is free
twice, and then handed out twice in a row. -/
theorem lent_twice :
    (2000 : UInt16).toNat + 2 < UInt64.size ∧
      ¬ ((ofRange 2000 2).after comesBackTwice).free.toList.Nodup ∧
      ¬ (ofRange 2000 2).OneHolder (comesBackTwice ++ [.acquire, .acquire]) 2000 := by
  refine ⟨by decide, by decide, fun h => ?_⟩
  obtain ⟨pre, post, hb, -⟩ := h.returned comesBackTwice [] [] rfl (by decide) (by decide)
  exact absurd (congrArg List.length hb) (by simp)

end FlowOffload.NatPool
