import FlowOffload.Latency

/-!
# Installation times — percentiles by nearest rank

The `p`-th percentile of samples is one of them that at least `p` percent of the samples are at
most, and that fewer than `p` percent are below (`LatencySummary.NearestRank`).  A summary gives the
percentiles in order between the true extremes, and does not depend on the order of the samples; a
log gives the summary of the samples that came first (`LatencyLog.summary_nearestRank`).
-/

namespace FlowOffload

namespace LatencySummary

/-- `v` is the `p`-th percentile of the samples by nearest rank. -/
structure NearestRank (samples : List UInt64) (p : Nat) (v : UInt64) : Prop where
  mem : v ∈ samples
  atMost : p * samples.length ≤ 100 * samples.countP (· ≤ v)
  below : 100 * samples.countP (· < v) < p * samples.length

/-- `v` is one of the samples, and none is smaller. -/
def Smallest (samples : List UInt64) (v : UInt64) : Prop := v ∈ samples ∧ ∀ x ∈ samples, v ≤ x

/-- `v` is one of the samples, and none is larger. -/
def Largest (samples : List UInt64) (v : UInt64) : Prop := v ∈ samples ∧ ∀ x ∈ samples, x ≤ v

variable {samples other : List UInt64} {n p q i j : Nat} {x : UInt64}

/-! ### Ranks -/

/-- A rank is a place among the samples. -/
theorem rank_lt (hn : 0 < n) (hp : p ≤ 100) : rank n p < n := by
  have := Nat.mul_le_mul_left n hp
  rw [rank]
  omega

/-- A higher percentile has a higher rank. -/
theorem rank_mono (n : Nat) (h : p ≤ q) : rank n p ≤ rank n q := by
  have := Nat.mul_le_mul_left n h
  rw [rank, rank]
  omega

/-- The samples up to a rank are the least number of samples that make up `p` percent. -/
theorem rank_bounds (hn : 0 < n) (hp : 0 < p) :
    100 * rank n p < p * n ∧ p * n ≤ 100 * (rank n p + 1) := by
  have := Nat.mul_pos hn hp
  rw [rank, Nat.mul_comm p n]
  omega

/-- The rank in 64-bit words: the quotient rounded up, less one unless it is zero. -/
def wordRank (n p : UInt64) : UInt64 :=
  let up := if n * p % 100 = 0 then n * p / 100 else n * p / 100 + 1
  if up = 0 then 0 else up - 1

/-- A rank counts from one, a place in the list from zero. -/
theorem toNat_pred (k : UInt64) : (if k = 0 then 0 else k - 1).toNat = k.toNat - 1 := by
  split
  · next hk => rw [hk, UInt64.toNat_zero]
  · next hk =>
      have hpos : 0 < k.toNat := UInt64.lt_iff_toNat_lt.mp (UInt64.pos_iff_ne_zero.mpr hk)
      have hle : 1 ≤ k := UInt64.le_iff_toNat_le.mpr hpos
      rw [UInt64.toNat_sub_of_le _ _ hle, UInt64.toNat_one]

/-- **Words suffice for ranks** if they can hold the product. -/
theorem toNat_wordRank {n p : UInt64} (h : n.toNat * p.toNat < UInt64.size) :
    (wordRank n p).toNat = rank n.toNat p.toNat := by
  have hm : (n * p).toNat = n.toNat * p.toNat := by
    rw [UInt64.toNat_mul]
    exact Nat.mod_eq_of_lt h
  have hlt := (n * p).toNat_lt
  have hd : (n * p / 100).toNat = (n * p).toNat / 100 := UInt64.toNat_div _ _
  have hr : n * p % 100 = 0 ↔ (n * p).toNat % 100 = 0 := by
    rw [← UInt64.toNat_inj, UInt64.toNat_mod]
    rfl
  -- the quotient is so much smaller than a word that rounding it up does not wrap
  have hup : (n * p / 100 + 1).toNat = (n * p).toNat / 100 + 1 := by
    rw [UInt64.toNat_add, hd, UInt64.toNat_one]
    omega
  rw [wordRank, toNat_pred, rank, ← hm]
  split
  · next h => rw [hr] at h; omega
  · next h => rw [hr] at h; omega

/-! ### Samples in order -/

/-- Sorting loses no sample. -/
theorem perm_sort (samples : List UInt64) : (sort samples).Perm samples :=
  List.mergeSort_perm _ _

theorem length_sort (samples : List UInt64) : (sort samples).length = samples.length :=
  (perm_sort samples).length_eq

theorem pairwise_sort (samples : List UInt64) : (sort samples).Pairwise (· ≤ ·) := by
  have h := @List.pairwise_mergeSort UInt64 (fun a b => a ≤ b)
    (fun a b c hab hbc => decide_eq_true
      (UInt64.le_trans (of_decide_eq_true hab) (of_decide_eq_true hbc)))
    (fun a b => by
      rcases UInt64.le_total a b with h | h <;> simp [h]) samples
  exact h.imp of_decide_eq_true

/-- The order in which samples came makes no difference. -/
theorem sort_congr (h : samples.Perm other) : sort samples = sort other :=
  List.Perm.eq_of_pairwise (fun _ _ _ _ => UInt64.le_antisymm) (pairwise_sort samples)
    (pairwise_sort other) ((perm_sort samples).trans (h.trans (perm_sort other).symm))

theorem nth_of_lt (h : i < samples.length) : nth samples i = samples[i] := by
  rw [nth, List.getD_eq_getElem?_getD, List.getElem?_eq_getElem h]
  rfl

/-- Samples ascend from place to place. -/
theorem nth_mono (hij : i ≤ j) (hj : j < samples.length) :
    nth (sort samples) i ≤ nth (sort samples) j := by
  rw [← length_sort] at hj
  rw [nth_of_lt (Nat.lt_of_le_of_lt hij hj), nth_of_lt hj]
  rcases Nat.lt_or_eq_of_le hij with h | rfl
  · exact List.pairwise_iff_getElem.mp (pairwise_sort samples) i j _ _ h
  · exact UInt64.le_refl _

/-- The samples are those that are `nth` in order. -/
theorem mem_iff_nth : x ∈ samples ↔ ∃ i < samples.length, nth (sort samples) i = x := by
  rw [← (perm_sort samples).mem_iff, List.mem_iff_getElem, ← length_sort samples]
  constructor
  · rintro ⟨i, hi, rfl⟩
    exact ⟨i, hi, nth_of_lt hi⟩
  · rintro ⟨i, hi, rfl⟩
    exact ⟨i, hi, (nth_of_lt hi).symm⟩

theorem nth_mem (h : i < samples.length) : nth (sort samples) i ∈ samples :=
  mem_iff_nth.mpr ⟨i, h, rfl⟩

/-- Up to a place, the samples in order are at most the one at the place. -/
theorem le_nth_of_mem_take (h : i < samples.length) (hx : x ∈ (sort samples).take (i + 1)) :
    x ≤ nth (sort samples) i := by
  obtain ⟨j, hj, rfl⟩ := List.mem_take_iff_getElem.mp hx
  have hji := Nat.le_of_lt_succ (Nat.lt_of_lt_of_le hj (Nat.min_le_left _ _))
  rw [← nth_of_lt]
  exact nth_mono hji h

/-- From a place on, the samples in order are at least the one at the place. -/
theorem nth_le_of_mem_drop (hx : x ∈ (sort samples).drop i) : nth (sort samples) i ≤ x := by
  obtain ⟨j, hj, rfl⟩ := List.mem_drop_iff_getElem.mp hx
  rw [← nth_of_lt]
  exact nth_mono (Nat.le_add_right i j) (by rwa [length_sort, Nat.add_comm] at hj)

/-- More samples than come before a place are no greater than the sample there. -/
theorem lt_countP_le_nth (h : i < samples.length) :
    i < samples.countP (· ≤ nth (sort samples) i) := by
  have htake : ((sort samples).take (i + 1)).countP (· ≤ nth (sort samples) i) = i + 1 := by
    rw [List.countP_eq_length.mpr fun x hx => decide_eq_true (le_nth_of_mem_take h hx),
      List.length_take, length_sort, Nat.min_eq_left h]
  rw [← (perm_sort samples).countP_eq, Nat.lt_iff_add_one_le, ← htake]
  exact (List.take_sublist _ _).countP_le

/-- No more samples than come before a place are smaller than the sample there. -/
theorem countP_lt_nth_le (i : Nat) : samples.countP (· < nth (sort samples) i) ≤ i := by
  have hdrop : ((sort samples).drop i).countP (· < nth (sort samples) i) = 0 :=
    List.countP_eq_zero.mpr fun x hx hlt =>
      UInt64.not_lt.mpr (nth_le_of_mem_drop hx) (of_decide_eq_true hlt)
  rw [← (perm_sort samples).countP_eq, ← List.take_append_drop i (sort samples),
    List.countP_append, List.take_append_drop, hdrop, Nat.add_zero]
  exact Nat.le_trans List.countP_le_length (List.length_take_le _ _)

/-! ### Percentiles -/

/-- **The sample at a rank** is the percentile by nearest rank. -/
theorem nearestRank_nth (hne : 0 < samples.length) (hp : 0 < p) (hp' : p ≤ 100) :
    NearestRank samples p (nth (sort samples) (rank samples.length p)) := by
  have hr : rank samples.length p < samples.length := rank_lt hne hp'
  obtain ⟨hlo, hhi⟩ := rank_bounds hne hp
  refine ⟨nth_mem hr, ?_, ?_⟩
  · exact Nat.le_trans hhi (Nat.mul_le_mul_left 100 (lt_countP_le_nth hr))
  · exact Nat.lt_of_le_of_lt (Nat.mul_le_mul_left 100 (countP_lt_nth_le _)) hlo

/-- Of two values of the same nearest rank neither is the greater one. -/
theorem NearestRank.le {v w : UInt64} (hv : NearestRank samples p v)
    (hw : NearestRank samples p w) : w ≤ v := by
  refine UInt64.not_lt.mp fun h => ?_
  have hc : samples.countP (· ≤ v) ≤ samples.countP (· < w) :=
    List.countP_mono_left fun x _ hx =>
      decide_eq_true (UInt64.lt_of_le_of_lt (of_decide_eq_true hx) h)
  exact absurd hw.below (Nat.not_lt.mpr (Nat.le_trans hv.atMost (Nat.mul_le_mul_left 100 hc)))

/-- There is one percentile by nearest rank only. -/
theorem NearestRank.unique {v w : UInt64} (hv : NearestRank samples p v)
    (hw : NearestRank samples p w) : v = w :=
  UInt64.le_antisymm (hw.le hv) (hv.le hw)

theorem smallest_nth (hne : 0 < samples.length) : Smallest samples (nth (sort samples) 0) :=
  ⟨nth_mem hne, fun _ hx => nth_le_of_mem_drop ((perm_sort samples).mem_iff.mpr hx)⟩

theorem largest_nth (hne : 0 < samples.length) :
    Largest samples (nth (sort samples) (samples.length - 1)) := by
  have hl : samples.length - 1 < samples.length := Nat.sub_lt hne Nat.one_pos
  refine ⟨nth_mem hl, fun x hx => le_nth_of_mem_take hl ?_⟩
  rw [Nat.sub_add_cancel hne, ← length_sort, List.take_length]
  exact (perm_sort samples).mem_iff.mpr hx

/-- What a summary says of samples: how many there are, their extremes, and three percentiles in
order between them. -/
structure Summarizes (s : LatencySummary) (samples : List UInt64) : Prop where
  count : s.count = samples.length
  p50 : NearestRank samples 50 s.p50
  p90 : NearestRank samples 90 s.p90
  p99 : NearestRank samples 99 s.p99
  min_le_p50 : s.min ≤ s.p50
  p50_le_p90 : s.p50 ≤ s.p90
  p90_le_p99 : s.p90 ≤ s.p99
  p99_le_max : s.p99 ≤ s.max
  min : Smallest samples s.min
  max : Largest samples s.max

/-- Unless there are no samples, they have a summary. -/
theorem exists_summary (h : samples ≠ []) :
    ∃ s, ofSamples samples = some s ∧ s.Summarizes samples := by
  have hne := List.length_pos_iff.mpr h
  have hr : ∀ {p}, p ≤ 100 → rank samples.length p < samples.length := rank_lt hne
  rw [ofSamples, if_neg h]
  refine ⟨_, rfl, ?_⟩
  simp only [length_sort]
  exact {
    count := rfl
    p50 := nearestRank_nth hne (by decide) (by decide)
    p90 := nearestRank_nth hne (by decide) (by decide)
    p99 := nearestRank_nth hne (by decide) (by decide)
    min_le_p50 := nth_mono (Nat.zero_le _) (hr (by decide))
    p50_le_p90 := nth_mono (rank_mono _ (by decide)) (hr (by decide))
    p90_le_p99 := nth_mono (rank_mono _ (by decide)) (hr (by decide))
    p99_le_max := nth_mono (Nat.le_sub_one_of_lt (hr (by decide))) (Nat.sub_lt hne Nat.one_pos)
    min := smallest_nth hne
    max := largest_nth hne }

/-- A summary does not depend on the order of the samples. -/
theorem ofSamples_congr (h : samples.Perm other) : ofSamples samples = ofSamples other := by
  have hsum : samples.foldl (fun n x => n + x.toNat) 0 = other.foldl (fun n x => n + x.toNat) 0 :=
    h.foldl_eq' (fun _ _ _ _ _ => Nat.add_right_comm _ _ _) 0
  have hnil : samples = [] ↔ other = [] := by
    rw [← List.length_eq_zero_iff, h.length_eq, List.length_eq_zero_iff]
  simp only [ofSamples, hnil, sort_congr h, meanOf, hsum, h.length_eq]

end LatencySummary

namespace LatencyLog

theorem limit_record (l : LatencyLog) (micros : UInt64) : (l.record micros).limit = l.limit := by
  rw [record]
  split <;> rfl

/-- A sample is recorded if there is room for it. -/
theorem toList_record (l : LatencyLog) (micros : UInt64) :
    (l.record micros).samples.toList =
      l.samples.toList ++ [micros].take (l.limit - l.samples.toList.length) := by
  rw [record, Fifo.length_toList]
  split
  · next h =>
      obtain ⟨k, hk⟩ := Nat.exists_eq_add_of_lt h
      rw [show l.limit - l.samples.size = k + 1 by omega, List.take_succ_cons, List.take_nil]
      exact Fifo.toList_push _ _
  · next h => rw [Nat.sub_eq_zero_of_le (Nat.le_of_not_lt h), List.take_zero, List.append_nil]

/-- Every sample counts, up to the limit. -/
theorem size_record {l : LatencyLog} {n : Nat} (h : l.size = min l.limit n) (micros : UInt64) :
    (l.record micros).size = min l.limit (n + 1) := by
  rw [size] at h
  rw [size, ← Fifo.length_toList, toList_record, List.length_append, List.length_take,
    List.length_singleton, Fifo.length_toList, h]
  omega

/-- **A log keeps the samples that come first**, as many as there is room for. -/
theorem toList_recordAll (l : LatencyLog) (samples : List UInt64) :
    (samples.foldl record l).samples.toList =
      l.samples.toList ++ samples.take (l.limit - l.samples.toList.length) := by
  induction samples generalizing l with
  | nil => rw [List.foldl_nil, List.take_nil, List.append_nil]
  | cons x xs ih =>
      rw [List.foldl_cons, ih, toList_record, limit_record, List.append_assoc, List.length_append,
        Nat.sub_add_eq]
      -- what is left of the room decides about the first sample
      generalize l.limit - l.samples.toList.length = room
      cases room with
      | zero => simp only [List.take_zero, Nat.zero_sub]; rfl
      | succ room => simp only [List.take_succ_cons, List.take_nil]; rfl

/-- What is summarized are the samples that there was room for. -/
theorem summary_recordAll (limit : Nat) (samples : List UInt64) :
    (samples.foldl record { limit }).summary = LatencySummary.ofSamples (samples.take limit) := by
  rw [summary, toList_recordAll]
  rfl

open LatencySummary in
/-- **Percentiles are those by nearest rank.**  Any samples, if there are some, have a summary, in
which every percentile is the one by nearest rank, and the percentiles stand in order between the
true extremes.  Every rank is a place among the samples, also if it is computed in words that can
hold 99 times their number.  The order of the samples makes no difference.  A log that is given
samples has the summary of those that came first, as many as its limit allows. -/
theorem summary_nearestRank (samples : List UInt64) :
    (samples ≠ [] → (∃ s, ofSamples samples = some s ∧ s.Summarizes samples) ∧
      ∀ p ∈ [50, 90, 99], rank samples.length p < samples.length ∧
        (samples.length * 99 < UInt64.size →
          (wordRank (.ofNat samples.length) (.ofNat p)).toNat = rank samples.length p)) ∧
    (∀ other, samples.Perm other → ofSamples other = ofSamples samples) ∧
    (∀ limit, (samples.foldl record { limit }).summary =
      ofSamples (samples.take (min limit samples.length))) := by
  refine ⟨fun h => ⟨exists_summary h, fun p hp => ?_⟩, fun _ h => (ofSamples_congr h).symm,
    fun limit => ?_⟩
  · have hp : p ≤ 99 := by
      simp only [List.mem_cons, List.not_mem_nil, or_false] at hp
      omega
    refine ⟨rank_lt (List.length_pos_iff.mpr h) (Nat.le_succ_of_le hp), fun hw => ?_⟩
    have hn : (UInt64.ofNat samples.length).toNat = samples.length :=
      UInt64.toNat_ofNat_of_lt' (Nat.lt_of_le_of_lt (Nat.le_mul_of_pos_right _ (by decide)) hw)
    have hp' : (UInt64.ofNat p).toNat = p :=
      UInt64.toNat_ofNat_of_lt' (Nat.lt_of_le_of_lt hp (by decide))
    have hm := Nat.mul_le_mul_left samples.length hp
    rw [toNat_wordRank (by rw [hn, hp']; exact Nat.lt_of_le_of_lt hm hw), hn, hp']
  · rw [summary_recordAll, ← List.take_eq_take_min]

/-- Among four samples, the second smallest is the median and the largest the 90th percentile. -/
theorem summary_nearestRank_four : [9, 3, 7, 3] ≠ ([] : List UInt64) ∧
    ∃ s, LatencySummary.ofSamples [9, 3, 7, 3] = some s ∧ s.p50 = 3 ∧ s.p90 = 9 := by
  have hne : [9, 3, 7, 3] ≠ ([] : List UInt64) := nofun
  obtain ⟨⟨s, hs, h⟩, -⟩ := (summary_nearestRank [9, 3, 7, 3]).1 hne
  have h50 : LatencySummary.NearestRank [9, 3, 7, 3] 50 3 := ⟨by simp, by decide, by decide⟩
  have h90 : LatencySummary.NearestRank [9, 3, 7, 3] 90 9 := ⟨by simp, by decide, by decide⟩
  exact ⟨hne, s, hs, h.p50.unique h50, h.p90.unique h90⟩

end LatencyLog

end FlowOffload
