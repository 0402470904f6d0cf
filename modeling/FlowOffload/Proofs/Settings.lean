import FlowOffload.Settings.Setup

/-!
# Settings — what the check promises

Settings that can be run with have no zero where one is forbidden (`Settings.value_ne_zero`), and a
range of NAT ports that fits (`Settings.range_fits`).
-/

namespace FlowOffload.Settings

variable {s : Settings}

/-- Settings that pass the check have no fault. -/
theorem fault?_of_check (h : s.check = .ok ()) : s.fault? = none := by
  rw [check] at h
  split at h
  · cases h
  · next hn => exact hn

/-- A field in which zero is forbidden is not zero. -/
theorem value_ne_zero (h : s.check = .ok ()) {f : Field} (hf : f ∈ nonzeroFields) :
    s.value f ≠ .number 0 := by
  have hn := fault?_of_check h
  rw [fault?] at hn
  split at hn
  · cases hn
  · next hx =>
      have hz := List.find?_eq_none.mp hx f hf
      exact fun hv => hz (decide_eq_true hv)

/-- A number that must not be zero is positive. -/
theorem pos_of_value (h : s.check = .ok ()) {f : Field} (hf : f ∈ nonzeroFields) {n : Nat}
    (hv : s.value f = .number n) : 0 < n := by
  refine Nat.pos_of_ne_zero fun hz => value_ne_zero h hf ?_
  rw [hv, hz]

theorem agedBatchSize_pos (h : s.check = .ok ()) : 0 < s.agedBatchSize.toNat :=
  pos_of_value h (f := .agedBatchSize) (by decide) rfl

theorem offloadThreshold_pos (h : s.check = .ok ()) : 0 < s.offloadThreshold.toNat :=
  pos_of_value h (f := .offloadThreshold) (by decide) rfl

theorem handoffQueueCapacity_pos (h : s.check = .ok ()) : 0 < s.handoffQueueCapacity.toNat :=
  pos_of_value h (f := .handoffQueueCapacity) (by decide) rfl

/-- The range of NAT ports ends within the port numbers. -/
theorem range_fits (h : s.check = .ok ()) :
    s.portPoolBase.toNat + s.portPoolSize.toNat ≤ 65536 := by
  have hn := fault?_of_check h
  rw [fault?] at hn
  split at hn
  · cases hn
  · split at hn
    · cases hn
    · split at hn
      · cases hn
      · next hle => exact Nat.le_of_not_lt hle

end FlowOffload.Settings
