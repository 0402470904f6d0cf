import FlowOffload.Dataplane.Basic
import FlowOffload.Proofs.NatPool.Lending
import FlowOffload.Proofs.Settings

/-!
# Settings — the verdict of the check

Settings can be run with exactly if they have no zero where one is forbidden, a range of NAT ports
that ends at the last port at the latest, and a number left for the hairpin queue
(`Settings.Runnable`).  Settings that cannot are refused for a reason that is the case
(`Settings.Accuses`), with one exception: if the end of the range does not fit in 64 bits, the check
is given up (`Settings.check_decides`, `Settings.hugeRange_undecided`).
-/

namespace FlowOffload.Settings

/-- Nothing that must not be zero is. -/
structure Nonzero (s : Settings) : Prop where
  rxQueues : s.rxQueues ≠ 0
  engineThreads : s.engineThreads ≠ 0
  burstSize : s.burstSize ≠ 0
  engineBatchSize : s.engineBatchSize ≠ 0
  offloadThreshold : s.offloadThreshold ≠ 0
  flowTableCapacity : s.flowTableCapacity ≠ 0
  handoffQueueCapacity : s.handoffQueueCapacity ≠ 0
  portPoolSize : s.portPoolSize ≠ 0
  agedBatchSize : s.agedBatchSize ≠ 0

/-- The number behind the last NAT port. -/
def rangeEnd (s : Settings) : Nat := s.portPoolBase.toNat + s.portPoolSize.toNat

/-- A data plane can be run with the settings. -/
structure Runnable (s : Settings) : Prop extends Nonzero s where
  range : s.rangeEnd ≤ 65536
  hairpinQueue : s.rxQueues < 65535

/-- What a fault says is the case. -/
def Accuses (s : Settings) : Fault → Prop
  | .zero f => f ∈ nonzeroFields ∧ s.value f = .number 0
  | .overflow => UInt64.size ≤ s.rangeEnd
  | .portRange base size =>
    base = s.portPoolBase ∧ size = s.portPoolSize ∧ 65536 < base.toNat + size.toNat
  | .noHairpinQueue => s.rxQueues = 65535

variable {s : Settings} {f : Fault}

theorem nonzero_iff : s.Nonzero ↔ ∀ f ∈ nonzeroFields, s.value f ≠ .number 0 := by
  have h16 : ∀ n : UInt16, n = 0 ↔ n.toNat = 0 := fun n => UInt16.toNat_inj.symm
  have h64 : ∀ n : UInt64, n = 0 ↔ n.toNat = 0 := fun n => UInt64.toNat_inj.symm
  simp only [nonzeroFields, List.forall_mem_cons, List.not_mem_nil, false_imp_iff, implies_true,
    and_true, value, ne_eq, Value.number.injEq, ← h16, ← h64]
  exact ⟨fun ⟨h₁, h₂, h₃, h₄, h₅, h₆, h₇, h₈, h₉⟩ => ⟨h₁, h₂, h₃, h₄, h₅, h₆, h₇, h₈, h₉⟩,
    fun ⟨h₁, h₂, h₃, h₄, h₅, h₆, h₇, h₈, h₉⟩ => ⟨h₁, h₂, h₃, h₄, h₅, h₆, h₇, h₈, h₉⟩⟩

/-! ### The first fault -/

/-- **The fault that is found** is the case, and the four kinds of faults are looked for in their
order. -/
theorem fault?_cases (s : Settings) :
    (∃ f, s.fault? = some (.zero f) ∧ s.Accuses (.zero f)) ∨
    (s.fault? = some .overflow ∧ s.Nonzero ∧ UInt64.size ≤ s.rangeEnd) ∨
    (s.fault? = some (.portRange s.portPoolBase s.portPoolSize) ∧ s.rangeEnd < UInt64.size ∧
      65536 < s.rangeEnd) ∨
    (s.fault? = some .noHairpinQueue ∧ s.rangeEnd < UInt64.size ∧ s.rxQueues = 65535) ∨
    (s.fault? = none ∧ s.Runnable) := by
  rw [fault?]
  split
  · next f hf =>
      have hz := List.find?_some hf
      exact .inl ⟨f, rfl, List.mem_of_find?_eq_some hf, of_decide_eq_true hz⟩
  · next hf =>
      have hz : s.Nonzero := nonzero_iff.mpr fun f hm hv =>
        List.find?_eq_none.mp hf f hm (decide_eq_true hv)
      refine .inr ?_
      split
      · next ho => exact .inl ⟨rfl, hz, ho⟩
      · next ho =>
          have hlt := Nat.lt_of_not_le ho
          refine .inr ?_
          split
          · next hr => exact .inl ⟨rfl, hlt, hr⟩
          · next hr =>
              refine .inr ?_
              split
              · next hq => exact .inl ⟨rfl, hlt, hq⟩
              · next hq =>
                  -- the only 16-bit number that is not below 65535 is 65535
                  have hq' : s.rxQueues.toNat ≠ 65535 := fun h => hq (UInt16.toNat_inj.mp h)
                  have hw := s.rxQueues.toNat_lt
                  refine .inr ⟨rfl, hz, Nat.le_of_not_lt hr, UInt16.lt_iff_toNat_lt.mpr ?_⟩
                  show s.rxQueues.toNat < 65535
                  omega

/-- Of settings that can be run with, no refusal is true. -/
theorem Runnable.not_accuses (h : s.Runnable) (f : Fault) : ¬ s.Accuses f := by
  cases f with
  | zero f => exact fun ⟨hf, hv⟩ => nonzero_iff.mp h.toNonzero f hf hv
  | overflow =>
      intro ho
      have := h.range
      simp only [Accuses, UInt64.size] at ho
      omega
  | portRange base size =>
      rintro ⟨rfl, rfl, hr⟩
      exact absurd h.range (Nat.not_le.mpr hr)
  | noHairpinQueue =>
      intro hq
      exact absurd h.hairpinQueue (hq ▸ UInt16.lt_irrefl _)

/-- Settings that can be run with have no fault. -/
theorem fault?_eq_none_iff : s.fault? = none ↔ s.Runnable := by
  rcases s.fault?_cases with ⟨f, hf, ha⟩ | ⟨hf, -, ho⟩ | ⟨hf, -, hr⟩ | ⟨hf, -, hq⟩ | ⟨hf, hr⟩
  · exact iff_of_false (hf ▸ nofun) fun h => h.not_accuses _ ha
  · exact iff_of_false (hf ▸ nofun) fun h => h.not_accuses .overflow ho
  · exact iff_of_false (hf ▸ nofun) fun h => h.not_accuses (.portRange _ _) ⟨rfl, rfl, hr⟩
  · exact iff_of_false (hf ▸ nofun) fun h => h.not_accuses .noHairpinQueue hq
  · exact iff_of_true hf hr

/-- The check is only given up over the end of the range, when nothing is zero. -/
theorem fault?_eq_overflow_iff :
    s.fault? = some .overflow ↔ s.Nonzero ∧ UInt64.size ≤ s.rangeEnd := by
  rcases s.fault?_cases with ⟨f, hf, ha⟩ | ⟨hf, ho⟩ | ⟨hf, hl, -⟩ | ⟨hf, hl, -⟩ | ⟨hf, hr⟩
  · exact iff_of_false (hf ▸ nofun) fun h => nonzero_iff.mp h.1 f ha.1 ha.2
  · exact iff_of_true hf ho
  · exact iff_of_false (hf ▸ nofun) fun h => Nat.not_lt.mpr h.2 hl
  · exact iff_of_false (hf ▸ nofun) fun h => Nat.not_lt.mpr h.2 hl
  · exact iff_of_false (hf ▸ nofun) fun h => hr.not_accuses .overflow h.2

/-- The fault that is found is the case. -/
theorem accuses_of_fault? (h : s.fault? = some f) : s.Accuses f := by
  rcases s.fault?_cases with ⟨_, hf, ha⟩ | ⟨hf, -, ho⟩ | ⟨hf, -, hr⟩ | ⟨hf, -, hq⟩ | ⟨hf, -⟩ <;>
    cases hf.symm.trans h
  · exact ha
  · exact ho
  · exact ⟨rfl, rfl, hr⟩
  · exact hq

/-! ### The verdict -/

theorem check_of_fault? (h : s.fault? = some f) : s.check = .error (.ofFault f) := by
  rw [check, h]

/-- The check passes exactly the settings that can be run with. -/
theorem check_eq_ok_iff : s.check = .ok () ↔ s.Runnable := by
  rw [← fault?_eq_none_iff]
  refine ⟨fault?_of_check, fun h => ?_⟩
  rw [check, h]

theorem ofFault_eq_overflow_iff : SetupError.ofFault f = .overflow ↔ f = .overflow := by
  cases f <;> simp [SetupError.ofFault]

theorem check_eq_overflow_iff :
    s.check = .error .overflow ↔ s.Nonzero ∧ UInt64.size ≤ s.rangeEnd := by
  rw [← fault?_eq_overflow_iff]
  cases h : s.fault? with
  | none =>
      rw [check, h]
      simp only [reduceCtorEq]
  | some f => rw [check_of_fault? h, Except.error.injEq, ofFault_eq_overflow_iff, Option.some.injEq]

/-- **The verdict of the check.**  Settings are accepted exactly if they can be run with.  All
others are refused for a reason that is the case, unless the end of the range of NAT ports does not
fit in 64 bits and nothing else is wrong before it: then there is no verdict.  With accepted
settings a data plane is created, whose NAT ports are as many as the settings say, from the lowest
one on, all different and all free. -/
theorem check_decides (s : Settings) :
    (s.check = .ok () ↔ s.Runnable) ∧
    (s.check = .error .overflow ↔ s.Nonzero ∧ UInt64.size ≤ s.rangeEnd) ∧
    (¬ s.Runnable → s.check ≠ .error .overflow →
      ∃ f, s.Accuses f ∧ s.check = .error (.invalidConfig f.message)) ∧
    (s.check = .ok () → ∀ nic device, ∃ d, Dataplane.create s nic device = .ok d ∧
      d.pool.size = s.portPoolSize.toNat ∧ d.pool.available = s.portPoolSize.toNat ∧
      d.pool.free.toList.Nodup ∧ d.pool.free.toList.map UInt16.toNat =
        List.range' s.portPoolBase.toNat s.portPoolSize.toNat) := by
  refine ⟨check_eq_ok_iff, check_eq_overflow_iff, fun hr ho => ?_, fun hc nic device => ?_⟩
  · cases hf : s.fault? with
    | none => exact absurd (fault?_eq_none_iff.mp hf) hr
    | some f =>
        refine ⟨f, accuses_of_fault? hf, ?_⟩
        have hne : f ≠ .overflow := fun h => ho (check_of_fault? (hf.trans (congrArg some h)))
        rw [check_of_fault? hf]
        cases f with
        | overflow => exact absurd rfl hne
        | zero _ | portRange _ _ | noHairpinQueue => rfl
  · obtain ⟨-, hs, hfree⟩ := NatPool.ofRange_of_fits (range_fits hc)
    refine ⟨_, by rw [Dataplane.create, hc]; rfl, hs, ?_, ?_, ?_⟩
    · rw [NatPool.available, ← Fifo.length_toList, hfree, NatPool.length_range]
    · rw [hfree]
      exact NatPool.nodup_range (range_fits hc)
    · rw [hfree, NatPool.map_toNat_range (range_fits hc)]

/-- Settings with as many queues as there can be, and only the last port. -/
def utmost : Settings := { rxQueues := 65534, portPoolBase := 65535, portPoolSize := 1 }

/-- Settings at their limits are accepted, and nothing of the range is cut off. -/
theorem check_decides_utmost :
    utmost.check = .ok () ∧ ∃ d, Dataplane.create utmost (.withQueues 0 1) { port := 0 } = .ok d ∧
      d.pool.available = 1 ∧ d.pool.free.toList.map UInt16.toNat = [65535] := by
  have hc : utmost.check = .ok () := rfl
  obtain ⟨d, hd, -, ha, -, hp⟩ := (check_decides utmost).2.2.2 hc (.withQueues 0 1) { port := 0 }
  exact ⟨hc, d, hd, ha, hp⟩

/-- Settings whose range of NAT ports ends beyond 64 bits. -/
def hugeRange : Settings := { portPoolSize := 0xFFFFFFFFFFFFFFFF }

/-- **Such settings are not refused**, although they cannot be run with: the check is given up. -/
theorem hugeRange_undecided :
    ¬ hugeRange.Runnable ∧ hugeRange.check = .error .overflow ∧
      ∀ text, hugeRange.check ≠ .error (.invalidConfig text) := by
  have hc : hugeRange.check = .error .overflow := rfl
  refine ⟨fun h => absurd h.range (by decide), hc, fun text ht => ?_⟩
  cases hc.symm.trans ht

end FlowOffload.Settings
