import FlowOffload.Proofs.FlowDevice

/-!
# The flow device under any calls — handles and reports

What is asked of a device is a `FlowDevice.Call`, and the `FlowDevice.Log` of a run says what came
of it: which rules were installed and under which handles, which of them reported their contexts,
and which contexts have left the queue.

One relation, `FlowDevice.Logs`, says all that a run does to a device.  It holds of each call
(`FlowDevice.Consistent.logs_call`) and can be put end to end (`FlowDevice.Logs.trans`), so it holds
of every run.  Handles are given out in ascending order, each rule reports once at most, and what
was reported has left the queue or is in it (`FlowDevice.calls_accounted`).
-/

namespace FlowOffload.FlowDevice

/-! ### Calls -/

/-- What can be asked of a device. -/
inductive Call where
  /-- A rule is to be installed. -/
  | install (port : PortId) (rule : Rule)
  /-- A rule is to be destroyed. -/
  | destroy (port : PortId) (handle : Handle)
  /-- What has a rule counted? -/
  | query (port : PortId) (handle : Handle)
  /-- Which rules have aged? -/
  | takeAged (port : PortId) (max : Nat)
  /-- All rules are to be destroyed. -/
  | flush (port : PortId)
  /-- A callback is to be registered. -/
  | register (port : PortId)
  /-- The callback is to be removed. -/
  | unregister
  /-- Rules age or count, or operations begin to fail or to succeed. -/
  | tweak (x : Tweak)

/-- What a device answers. -/
inductive Answer where
  /-- The call was refused. -/
  | refused (error : DeviceError)
  /-- A rule was installed. -/
  | handle (h : Handle)
  /-- A rule has counted this. -/
  | counters (c : RuleCounters)
  /-- These rules have aged. -/
  | contexts (ts : List FiveTuple)
  /-- It was done. -/
  | done

/-- What comes of an operation; if it is refused, the device stays as it was. -/
def answer {α : Type} (v : FlowDevice) (f : α → Answer × FlowDevice) :
    Except DeviceError α → Answer × FlowDevice
  | .ok a => f a
  | .error e => (.refused e, v)

/-- The answer to a call, and the device behind it. -/
def call (v : FlowDevice) : Call → Answer × FlowDevice
  | .install port rule =>
    match v.install port rule with
    | (.ok h, w) => (.handle h, w)
    | (.error e, w) => (.refused e, w)
  | .destroy port h => v.answer (fun w => (.done, w)) (v.destroy port h)
  | .query port h => v.answer (fun c => (.counters c, v)) (v.query port h)
  | .takeAged port max => v.answer (fun p => (.contexts p.1, p.2)) (v.takeAged port max)
  | .flush port => v.answer (fun w => (.done, w)) (v.flush port)
  | .register port => v.answer (fun w => (.done, w)) (v.register port)
  | .unregister => (.done, v.unregister)
  | .tweak x => (.done, v.tweak x)

/-- The device after calls, one after the other. -/
def callAll (v : FlowDevice) (cs : List Call) : FlowDevice := cs.foldl (fun v c => (v.call c).2) v

/-! ### Logs -/

/-- What came of calls. -/
structure Log where
  /-- The rules that were installed, under the handles that were returned. -/
  installed : List (Handle × Rule) := []
  /-- The contexts that were queued, under the handles of the rules that reported them. -/
  reported : List (Handle × FiveTuple) := []
  /-- The contexts that left the queue. -/
  left : List FiveTuple := []

namespace Log

/-- One log behind the other. -/
def append (l m : Log) : Log where
  installed := l.installed ++ m.installed
  reported := l.reported ++ m.reported
  left := l.left ++ m.left

instance : Append Log := ⟨append⟩

end Log

/-- What a rule reports when it ages, unless it has aged already. -/
def report? (p : Handle × InstalledRule) : Option (Handle × FiveTuple) :=
  if p.2.aged then none else p.2.rule.ageContext.map (p.1, ·)

/-- What the rules that can still age report, in the order of tuples. -/
def reports (v : FlowDevice) : List (Handle × FiveTuple) :=
  (v.rules.pairs.filterMap report?).mergeSort fun a b => a.2 ≤ b.2

/-- What the answer to a call tells, with what the call makes rules report. -/
def told (v : FlowDevice) : Call → Answer → Log
  | .install _ rule, .handle h => { installed := [(h, rule)] }
  | .takeAged _ _, .contexts ts => { left := ts }
  | .flush _, .done => { left := v.aged }
  | .tweak (.age t), _ => { reported := ((v.ruleOf? t).bind report?).toList }
  | .tweak .ageAll, _ => { reported := v.reports }
  | _, _ => {}

/-- What comes of a call. -/
def log (v : FlowDevice) (c : Call) : Log := v.told c (v.call c).1

/-- What comes of calls, one after the other. -/
def logAll (v : FlowDevice) : List Call → Log
  | [] => {}
  | c :: cs => v.log c ++ (v.call c).2.logAll cs

/-! ### What a run does -/

/-- Calls have made `w` out of `v`, and `l` says what came of them. -/
structure Logs (v w : FlowDevice) (l : Log) : Prop where
  /-- Handles only grow. -/
  lastHandle : v.lastHandle ≤ w.lastHandle
  /-- Installations are counted. -/
  installs : w.installs = v.installs + l.installed.length
  /-- Later handles are larger. -/
  ascending : l.installed.Pairwise fun a b => a.1 < b.1
  /-- New handles are larger than old ones. -/
  fresh : ∀ p ∈ l.installed, v.lastHandle < p.1 ∧ p.1 ≤ w.lastHandle
  /-- A rule was there, and is aged if it was, or has been installed. -/
  rules : ∀ {k r}, w.rules.get? k = some r →
    (∃ r₀, v.rules.get? k = some r₀ ∧ r₀.rule = r.rule ∧ (r₀.aged → r.aged)) ∨
      (k, r.rule) ∈ l.installed
  /-- Contexts are queued behind one another, and leave at the front. -/
  queue : l.left ++ w.aged = v.aged ++ l.reported.map Prod.snd
  /-- No rule reports twice. -/
  once : (l.reported.map Prod.fst).Nodup
  /-- A rule reports its own context, and had not aged when it did. -/
  origin : ∀ p ∈ l.reported,
    (∃ r, v.rules.get? p.1 = some r ∧ r.aged = false ∧ r.rule.ageContext = some p.2) ∨
      ∃ rule, (p.1, rule) ∈ l.installed ∧ rule.ageContext = some p.2
  /-- A rule that has reported has aged, and its handle is not given out again. -/
  marked : ∀ p ∈ l.reported, p.1 ≤ w.lastHandle ∧
    ∀ {r}, w.rules.get? p.1 = some r → r.aged

namespace Logs

variable {u v w : FlowDevice} {l m : Log}

/-- Rules go, stay or are marked as aged, and none is installed. -/
theorem of_kept {reported : List (Handle × FiveTuple)} {left : List FiveTuple}
    (hl : w.lastHandle = v.lastHandle) (hi : w.installs = v.installs)
    (hr : ∀ {k r}, w.rules.get? k = some r →
      ∃ r₀, v.rules.get? k = some r₀ ∧ r₀.rule = r.rule ∧ (r₀.aged → r.aged))
    (hq : left ++ w.aged = v.aged ++ reported.map Prod.snd)
    (hn : (reported.map Prod.fst).Nodup)
    (hx : ∀ p ∈ reported, ∃ r, v.rules.get? p.1 = some r ∧ r.aged = false ∧
      r.rule.ageContext = some p.2)
    (hm : ∀ p ∈ reported, p.1 ≤ v.lastHandle ∧ ∀ {r}, w.rules.get? p.1 = some r → r.aged) :
    v.Logs w { reported, left } where
  lastHandle := Nat.le_of_eq hl.symm
  installs := hi
  ascending := .nil
  fresh := fun _ h => absurd h List.not_mem_nil
  rules := fun h => .inl (hr h)
  queue := hq
  once := hn
  origin := fun p hp => .inl (hx p hp)
  marked := hl.symm ▸ hm

/-- Rules go or stay as they are, and contexts leave the queue. -/
theorem of_fewer (left : List FiveTuple) (hl : w.lastHandle = v.lastHandle)
    (hi : w.installs = v.installs)
    (hr : ∀ {k r}, w.rules.get? k = some r →
      ∃ r₀, v.rules.get? k = some r₀ ∧ r₀.rule = r.rule ∧ (r₀.aged → r.aged))
    (hq : left ++ w.aged = v.aged) : v.Logs w { left } :=
  of_kept hl hi hr (hq.trans (List.append_nil _).symm) .nil (fun _ h => absurd h List.not_mem_nil)
    fun _ h => absurd h List.not_mem_nil

/-- Nothing changes that a log speaks of. -/
theorem of_same (hl : w.lastHandle = v.lastHandle) (hi : w.installs = v.installs)
    (hr : w.rules = v.rules) (hq : w.aged = v.aged) : v.Logs w {} :=
  of_fewer [] hl hi (fun h => ⟨_, hr ▸ h, rfl, id⟩) hq

theorem refl (v : FlowDevice) : v.Logs v {} := of_same rfl rfl rfl rfl

/-- Rules that reported before are not among those that report later. -/
theorem apart (h : u.Logs v l) (h' : v.Logs w m) {p q : Handle × FiveTuple} (hp : p ∈ l.reported)
    (hq : q ∈ m.reported) : p.1 ≠ q.1 := by
  intro hpq
  obtain ⟨hle, hag⟩ := h.marked p hp
  rcases h'.origin q hq with ⟨r, hr, ha, -⟩ | ⟨rule, hr, -⟩
  · have := hag (hpq ▸ hr)
    rw [ha] at this
    cases this
  · exact Nat.not_lt_of_le hle (hpq ▸ (h'.fresh _ hr).1)

/-- What comes of calls, and then of others. -/
theorem trans (h : u.Logs v l) (h' : v.Logs w m) : u.Logs w (l ++ m) where
  lastHandle := Nat.le_trans h.lastHandle h'.lastHandle
  installs := by
    rw [h'.installs, h.installs, Nat.add_assoc, ← List.length_append]
    rfl
  ascending := by
    refine List.pairwise_append.mpr ⟨h.ascending, h'.ascending, fun p hp q hq => ?_⟩
    exact Nat.lt_of_le_of_lt (h.fresh p hp).2 (h'.fresh q hq).1
  fresh := by
    intro p hp
    rcases List.mem_append.mp hp with hp | hp
    · exact ⟨(h.fresh p hp).1, Nat.le_trans (h.fresh p hp).2 h'.lastHandle⟩
    · exact ⟨Nat.lt_of_le_of_lt h.lastHandle (h'.fresh p hp).1, (h'.fresh p hp).2⟩
  rules := by
    intro k r hk
    rcases h'.rules hk with ⟨r₁, hk₁, hr₁, ha₁⟩ | hk
    · rcases h.rules hk₁ with ⟨r₀, hk₀, hr₀, ha₀⟩ | hk₀
      · exact .inl ⟨r₀, hk₀, hr₀.trans hr₁, ha₁ ∘ ha₀⟩
      · exact .inr (List.mem_append_left _ (hr₁ ▸ hk₀))
    · exact .inr (List.mem_append_right _ hk)
  queue := by
    calc (l.left ++ m.left) ++ w.aged = l.left ++ (v.aged ++ m.reported.map Prod.snd) := by
          rw [List.append_assoc, h'.queue]
      _ = u.aged ++ (l.reported ++ m.reported).map Prod.snd := by
          rw [← List.append_assoc, h.queue, List.append_assoc, ← List.map_append]
  once := by
    -- what has reported is marked, so it does not report again
    refine (List.map_append ▸ List.nodup_append.mpr ⟨h.once, h'.once, ?_⟩ :
      ((l.reported ++ m.reported).map Prod.fst).Nodup)
    intro a ha b hb
    obtain ⟨p, hp, rfl⟩ := List.mem_map.mp ha
    obtain ⟨q, hq, rfl⟩ := List.mem_map.mp hb
    exact h.apart h' hp hq
  origin := by
    intro p hp
    rcases List.mem_append.mp hp with hp | hp
    · refine (h.origin p hp).imp_right ?_
      rintro ⟨rule, hr, hx⟩
      exact ⟨rule, List.mem_append_left _ hr, hx⟩
    · rcases h'.origin p hp with ⟨r, hr, ha, hx⟩ | ⟨rule, hr, hx⟩
      · -- the rule that reports has been there before or was installed, in either case not aged yet
        rcases h.rules hr with ⟨r₀, hk₀, hr₀, ha₀⟩ | hr
        · refine .inl ⟨r₀, hk₀, ?_, hr₀ ▸ hx⟩
          exact Bool.eq_false_iff.mpr fun ht => Bool.eq_false_iff.mp ha (ha₀ ht)
        · exact .inr ⟨r.rule, List.mem_append_left _ hr, hx⟩
      · exact .inr ⟨rule, List.mem_append_right _ hr, hx⟩
  marked := by
    intro p hp
    rcases List.mem_append.mp hp with hp | hp
    · obtain ⟨hle, hag⟩ := h.marked p hp
      refine ⟨Nat.le_trans hle h'.lastHandle, fun hr => ?_⟩
      rcases h'.rules hr with ⟨r₀, hk₀, -, ha₀⟩ | hr
      · exact ha₀ (hag hk₀)
      · exact absurd (h'.fresh _ hr).1 (Nat.not_lt_of_le hle)
    · exact h'.marked p hp

end Logs

/-! ### What a call does -/

variable {v w : FlowDevice}

/-- An installation is refused and changes nothing, or it is answered with the next handle. -/
theorem call_install (v : FlowDevice) (port : PortId) (rule : Rule) :
    (∃ e, v.call (.install port rule) = (.refused e, v)) ∨
      v.refusal? rule.pattern = none ∧
        v.call (.install port rule) = (.handle (v.lastHandle + 1), v.add rule) := by
  rcases v.install_eq port rule with ⟨e, h⟩ | ⟨-, hr, h⟩
  · exact .inl ⟨e, by rw [call, h]⟩
  · exact .inr ⟨hr, by rw [call, h]⟩

/-- What comes of an operation is refused, or it is what the operation yields. -/
theorem answer_cases {α : Type} (v : FlowDevice) (f : α → Answer × FlowDevice)
    (x : Except DeviceError α) :
    (∃ e, v.answer f x = (.refused e, v)) ∨ ∃ a, x = .ok a ∧ v.answer f x = f a := by
  cases x with
  | error e => exact .inl ⟨e, rfl⟩
  | ok a => exact .inr ⟨a, rfl, rfl⟩

/-- **A call that is refused changes nothing.** -/
theorem call_of_refused {c : Call} {e : DeviceError} (h : (v.call c).1 = .refused e) :
    (v.call c).2 = v := by
  have ha {α : Type} {f : α → Answer × FlowDevice} (hf : ∀ a, (f a).1 ≠ .refused e)
      {x : Except DeviceError α} (hx : (v.answer f x).1 = .refused e) : (v.answer f x).2 = v := by
    rcases v.answer_cases f x with ⟨e', he⟩ | ⟨a, -, he⟩
    · rw [he]
    · exact absurd (he ▸ hx) (hf a)
  cases c with
  | install port rule =>
      rcases v.call_install port rule with ⟨e', he⟩ | ⟨-, he⟩
      · rw [he]
      · rw [he] at h
        cases h
  | destroy | query | takeAged | flush | register =>
      refine ha (fun _ hf => ?_) h
      cases hf
  | unregister | tweak => cases h

/-- A rule that is installed is logged under its handle. -/
theorem logs_add (v : FlowDevice) (rule : Rule) :
    v.Logs (v.add rule) { installed := [(v.lastHandle + 1, rule)] } where
  lastHandle := Nat.le_succ _
  installs := rfl
  ascending := List.pairwise_singleton _ _
  fresh := by
    intro p hp
    obtain rfl := List.mem_singleton.mp hp
    exact ⟨Nat.lt_succ_self _, Nat.le_refl _⟩
  rules := by
    intro k r hk
    simp only [FlowDevice.add, FiniteMap.get?_insert] at hk
    split at hk
    · next he =>
        cases hk
        exact .inr (List.mem_singleton.mpr (he ▸ rfl))
    · exact .inl ⟨r, hk, rfl, id⟩
  queue := (List.append_nil _).symm
  once := .nil
  origin := fun _ h => absurd h List.not_mem_nil
  marked := fun _ h => absurd h List.not_mem_nil

/-- The handles in use have been given out. -/
theorem Consistent.le_lastHandle (hc : v.Consistent) {k : Handle} {r : InstalledRule}
    (hr : v.rules.get? k = some r) : k ≤ v.lastHandle :=
  hc.bounded (by rw [ruleAt, hr]; rfl)

/-- A rule that is marked as aged reports its context, if it has one and had not aged before. -/
theorem Consistent.logs_age (hc : v.Consistent) (t : FiveTuple) :
    v.Logs (v.age t).2 (v.log (.tweak (.age t))) := by
  rw [log, told]
  rcases v.age_cases t with ⟨hv, ha⟩ | ⟨k, r, _, _, hf, ha, hv⟩
  · have hn : (v.ruleOf? t).bind report? = none := by
      refine Option.bind_eq_none_iff.mpr fun p hp => ?_
      rw [report?, if_pos (ha p hp)]
    rw [hv, hn]
    exact .refl v
  · have hr := (ruleOf?_eq_some hf).2
    have hx : (v.ruleOf? t).bind report? = r.rule.ageContext.map (k, ·) := by
      rw [hf, Option.bind_some, report?, if_neg (Bool.eq_false_iff.mp ha)]
    have hp {p : Handle × FiveTuple} (hp : p ∈ (r.rule.ageContext.map (k, ·)).toList) :
        k = p.1 ∧ r.rule.ageContext = some p.2 := by
      obtain ⟨x, hx, rfl⟩ := Option.map_eq_some_iff.mp (Option.mem_toList.mp hp)
      exact ⟨rfl, hx⟩
    rw [hv, hx]
    refine .of_kept rfl rfl (fun {j x} hj => ?_) ?_ ?_
      (fun p h => (hp h).1 ▸ ⟨r, hr, ha, (hp h).2⟩)
      fun p h => (hp h).1 ▸ ⟨hc.le_lastHandle hr, fun {y} hy => ?_⟩
    · -- only the rule under `k` has been marked
      rw [FiniteMap.get?_modify] at hj
      split at hj
      · obtain ⟨x₀, hx₀, rfl⟩ := Option.map_eq_some_iff.mp hj
        exact ⟨x₀, hx₀, rfl, fun _ => rfl⟩
      · exact ⟨x, hj, rfl, id⟩
    · cases r.rule.ageContext <;> rfl
    · cases r.rule.ageContext with
      | none => exact .nil
      | some x => exact List.pairwise_singleton _ _
    · rw [FiniteMap.get?_modify, if_pos rfl] at hy
      obtain ⟨_, -, rfl⟩ := Option.map_eq_some_iff.mp hy
      rfl

/-- A rule reports its own context, and only if it has not aged yet. -/
theorem report?_eq_some {p : Handle × InstalledRule} {q : Handle × FiveTuple} :
    report? p = some q ↔ p.1 = q.1 ∧ p.2.aged = false ∧ p.2.rule.ageContext = some q.2 := by
  obtain ⟨k, x⟩ := q
  rw [report?]
  by_cases ha : p.2.aged
  · simp [ha]
  · rw [if_neg ha, Option.map_eq_some_iff, Bool.eq_false_iff]
    constructor
    · rintro ⟨y, hy, hp⟩
      cases hp
      exact ⟨rfl, ha, hy⟩
    · rintro ⟨rfl, -, hy⟩
      exact ⟨x, hy, rfl⟩

theorem map_snd_reports (v : FlowDevice) : v.reports.map Prod.snd = v.ageable := by
  have hr : (fun p => (report? p).map Prod.snd) =
      fun p => if p.2.aged then none else p.2.rule.ageContext := by
    funext p
    rw [report?]
    split
    · rfl
    · cases p.2.rule.ageContext <;> rfl
  rw [reports,
    List.map_mergeSort (f := Prod.snd) (s := fun t u => decide (t ≤ u)) fun _ _ _ _ => rfl,
    List.map_filterMap, hr, ageable]

/-- What is reported when all rules age. -/
theorem mem_reports {p : Handle × FiveTuple} : p ∈ v.reports ↔
    ∃ r, v.rules.get? p.1 = some r ∧ r.aged = false ∧ r.rule.ageContext = some p.2 := by
  rw [reports, List.mem_mergeSort, List.mem_filterMap]
  constructor
  · rintro ⟨⟨k, r⟩, hm, hp⟩
    obtain ⟨rfl, ha, hx⟩ := report?_eq_some.mp hp
    exact ⟨r, FiniteMap.mem_pairs_iff.mp hm, ha, hx⟩
  · rintro ⟨r, hr, ha, hx⟩
    exact ⟨(p.1, r), FiniteMap.mem_pairs_iff.mpr hr, report?_eq_some.mpr ⟨rfl, ha, hx⟩⟩

/-- No rule is reported twice then. -/
theorem nodup_reports (v : FlowDevice) : (v.reports.map Prod.fst).Nodup := by
  refine ((List.mergeSort_perm _ _).map Prod.fst).nodup_iff.mpr ?_
  refine List.pairwise_map.mpr (List.pairwise_filterMap.mpr ?_)
  refine (List.pairwise_map.mp v.rules.keys_nodup).imp fun hne p hp q hq => ?_
  rw [← (report?_eq_some.mp hp).1, ← (report?_eq_some.mp hq).1]
  exact hne

/-- When all rules age, the log says which. -/
theorem Consistent.logs_ageAll (hc : v.Consistent) :
    v.Logs v.ageAll.2 (v.log (.tweak .ageAll)) := by
  have hm := v.map_snd_reports
  simp only [log, told, ageAll]
  split
  · next hn =>
      rw [List.map_eq_nil_iff.mp (hm.trans hn)]
      exact .refl v
  · obtain ⟨callback, raised, hv⟩ := raise_eq { v with
      rules := v.rules.mapValues fun r => { r with aged := r.aged || r.rule.ageContext.isSome }
      aged := v.aged ++ v.ageable }
    rw [hv]
    refine .of_kept rfl rfl ?_ ?_ v.nodup_reports (fun _ hp => mem_reports.mp hp) ?_
    · intro k r hk
      obtain ⟨r₀, hr₀, rfl⟩ :=
        Option.map_eq_some_iff.mp ((FiniteMap.get?_mapValues ..).symm.trans hk)
      exact ⟨r₀, hr₀, rfl, fun ha => Bool.or_eq_true_iff.mpr (.inl ha)⟩
    · rw [hm]
      rfl
    · intro p hp
      obtain ⟨r, hr, -, hx⟩ := mem_reports.mp hp
      refine ⟨hc.le_lastHandle hr, fun hk => ?_⟩
      obtain ⟨r₀, hr₀, rfl⟩ :=
        Option.map_eq_some_iff.mp ((FiniteMap.get?_mapValues ..).symm.trans hk)
      obtain rfl := Option.some.inj (hr.symm.trans hr₀)
      exact Bool.or_eq_true_iff.mpr (.inr (hx ▸ rfl))

/-- What is noted of a rule is not logged, except that it has aged. -/
theorem logs_modify (v : FlowDevice) (k : Handle) {f : InstalledRule → InstalledRule}
    (hf : ∀ r, (f r).rule = r.rule ∧ (f r).aged = r.aged) :
    v.Logs { v with rules := v.rules.modify k f } {} := by
  refine .of_fewer [] rfl rfl (fun {j x} hj => ?_) rfl
  rw [FiniteMap.get?_modify] at hj
  split at hj
  · obtain ⟨r, hr, rfl⟩ := Option.map_eq_some_iff.mp hj
    exact ⟨r, hr, (hf r).1.symm, fun h => (hf r).2.trans h⟩
  · exact ⟨x, hj, rfl, id⟩

theorem logs_setCounters (v : FlowDevice) (t : FiveTuple) (c : RuleCounters) :
    v.Logs (v.setCounters t c).2 {} := by
  rw [setCounters]
  split
  · exact .refl v
  · exact v.logs_modify _ fun _ => ⟨rfl, rfl⟩

/-- Whatever happens to a device from outside is logged. -/
theorem Consistent.logs_tweak (hc : v.Consistent) (x : Tweak) :
    v.Logs (v.tweak x) (v.log (.tweak x)) := by
  cases x with
  | age t => exact hc.logs_age t
  | ageAll => exact hc.logs_ageAll
  | setCounters t c => exact v.logs_setCounters t c
  | failInstall | clearInstallFailures | failQuery | failDestroy | failDefaultRules
  | failRegister => exact .of_same rfl rfl rfl rfl

/-- A rule that is destroyed leaves no trace in the log. -/
theorem logs_destroy {port : PortId} {k : Handle} (h : v.destroy port k = .ok w) :
    v.Logs w {} := by
  obtain ⟨_, _, -, rfl, -⟩ := destroy_eq_ok h
  refine .of_fewer [] rfl rfl (fun {j x} hj => ?_) rfl
  rw [FiniteMap.get?_erase] at hj
  split at hj
  · cases hj
  · exact ⟨x, hj, rfl, id⟩

/-- Contexts that are taken are logged as having left. -/
theorem logs_takeAged {port : PortId} {max : Nat} {ts : List FiveTuple}
    (h : v.takeAged port max = .ok (ts, w)) : v.Logs w { left := ts } := by
  have hp := (takeAged_eq_ok h).1
  rw [takeAged_of_port hp] at h
  cases h
  exact .of_fewer _ rfl rfl (fun h => ⟨_, h, rfl, id⟩) (List.take_append_drop _ _)

/-- A flush takes the pending contexts along. -/
theorem logs_flush {port : PortId} (h : v.flush port = .ok w) : v.Logs w { left := v.aged } := by
  simp only [flush, bind, Except.bind] at h
  split at h
  · cases h
  · cases h
    exact .of_fewer _ rfl rfl (fun h => absurd h (Option.some_ne_none _).symm) (List.append_nil _)

theorem logs_register {port : PortId} (h : v.register port = .ok w) : v.Logs w {} := by
  simp only [register, bind, Except.bind] at h
  split at h
  · cases h
  · split at h
    · cases h
    · cases h
      exact .of_same rfl rfl rfl rfl

/-- What comes of an operation is nothing, or what the operation yields. -/
theorem logs_answer {α : Type} {f : α → Answer × FlowDevice} {x : Except DeviceError α} {c : Call}
    (hn : ∀ e, v.told c (.refused e) = {})
    (h : ∀ a, x = .ok a → v.Logs (f a).2 (v.told c (f a).1)) :
    v.Logs (v.answer f x).2 (v.told c (v.answer f x).1) := by
  rcases v.answer_cases f x with ⟨e, he⟩ | ⟨a, ha, he⟩
  · rw [he, hn]
    exact .refl v
  · rw [he]
    exact h a ha

/-- **What a call does** is what its log says. -/
theorem Consistent.logs_call (hc : v.Consistent) (c : Call) : v.Logs (v.call c).2 (v.log c) := by
  cases c with
  | install port rule =>
      rcases v.call_install port rule with ⟨e, he⟩ | ⟨-, he⟩
      · rw [log, he]
        exact .refl v
      · rw [log, he]
        exact v.logs_add rule
  | destroy port k => exact logs_answer (fun _ => rfl) fun _ h => logs_destroy h
  | query port k => exact logs_answer (fun _ => rfl) fun _ _ => .refl v
  | takeAged port max => exact logs_answer (fun _ => rfl) fun _ h => logs_takeAged h
  | flush port => exact logs_answer (fun _ => rfl) fun _ h => logs_flush h
  | register port => exact logs_answer (fun _ => rfl) fun _ h => logs_register h
  | unregister => exact .of_same rfl rfl rfl rfl
  | tweak x => exact hc.logs_tweak x

/-! ### What calls do -/

/-- A call leaves the device in a state that operations lead to, if it does so when it is not
refused. -/
theorem Arises.answer {α : Type} (h : v.Arises) {f : α → Answer × FlowDevice}
    {x : Except DeviceError α} (hf : ∀ a, x = .ok a → (f a).2.Arises) :
    (v.answer f x).2.Arises := by
  rcases v.answer_cases f x with ⟨e, he⟩ | ⟨a, ha, he⟩
  · rw [he]
    exact h
  · rw [he]
    exact hf a ha

/-- Every call leads to such a state. -/
theorem Arises.call (h : v.Arises) (c : Call) : (v.call c).2.Arises := by
  cases c with
  | install port rule =>
      have hv : (v.call (.install port rule)).2 = (v.install port rule).2 := by
        rw [FlowDevice.call]
        split <;> next hi => rw [hi]
      rw [hv]
      exact .install port rule h
  | destroy port k => exact h.answer fun _ hw => .destroy h hw
  | query port k => exact h.answer fun _ _ => h
  | takeAged port max => exact h.answer fun _ hw => .takeAged h hw
  | flush port => exact h.answer fun _ hw => .flush h hw
  | register port => exact h.answer fun _ hw => .register h hw
  | unregister => exact .unregister h
  | tweak x => exact .tweak x h

theorem Arises.callAll (h : v.Arises) (cs : List Call) : (v.callAll cs).Arises := by
  induction cs generalizing v with
  | nil => exact h
  | cons c cs ih => exact ih (h.call c)

/-- What calls do is what their log says. -/
theorem Arises.logs_callAll (h : v.Arises) (cs : List Call) :
    v.Logs (v.callAll cs) (v.logAll cs) := by
  induction cs generalizing v with
  | nil => exact .refl v
  | cons c cs ih => exact (h.consistent.logs_call c).trans (ih (h.call c))

/-- A tuple has one rule at most. -/
theorem Consistent.rule_unique (hc : v.Consistent) {t : FiveTuple} {h h' : Handle}
    {rule rule' : Rule} (hr : v.ruleAt h = some rule) (hr' : v.ruleAt h' = some rule')
    (ht : rule.pattern = .exact t) (ht' : rule'.pattern = .exact t) : h = h' :=
  Option.some.inj ((hc.indexed.mpr ⟨rule, hr, ht⟩).symm.trans (hc.indexed.mpr ⟨rule', hr', ht'⟩))

/-- **A device under any calls.**  A tuple leads to a handle exactly if the rule under that handle
is for the tuple, so that a tuple has one rule at most.  Every rule is one that was installed.  The
handles that were returned ascend, whatever was destroyed in between, and there are as many as
installations were counted.  A call that is refused changes nothing.  Of the rules that were ever
installed, each has reported once at most, and then its own context; what was reported is what has
left the queue and what is in it, in this order. -/
theorem calls_accounted (port : PortId) (cs : List Call) :
    let v := callAll { port } cs
    let l := logAll { port } cs
    (∀ t h, v.byTuple.get? t = some h ↔
      ∃ rule, v.ruleAt h = some rule ∧ rule.pattern = .exact t) ∧
    (∀ t h h' rule rule', v.ruleAt h = some rule → v.ruleAt h' = some rule' →
      rule.pattern = .exact t → rule'.pattern = .exact t → h = h') ∧
    (∀ h rule, v.ruleAt h = some rule → (h, rule) ∈ l.installed) ∧
    (l.installed.map Prod.fst).Pairwise (· < ·) ∧ v.installs = l.installed.length ∧
    (∀ c e, (v.call c).1 = .refused e → (v.call c).2 = v) ∧
    (l.reported.map Prod.fst).Nodup ∧
    (∀ h t, (h, t) ∈ l.reported → ∃ rule, (h, rule) ∈ l.installed ∧ rule.ageContext = some t) ∧
    l.left ++ v.aged = l.reported.map Prod.snd := by
  intro v l
  have hn : Arises { port } := .new port
  have hc : v.Consistent := (hn.callAll cs).consistent
  have hl : Logs { port } v l := hn.logs_callAll cs
  refine ⟨fun _ _ => hc.indexed, fun _ _ _ _ _ => hc.rule_unique, ?_,
    List.pairwise_map.mpr hl.ascending, hl.installs.trans (Nat.zero_add _),
    fun _ _ => call_of_refused, hl.once, ?_, hl.queue⟩
  · intro h rule hr
    obtain ⟨r, hk, rfl⟩ := Option.map_eq_some_iff.mp hr
    rcases hl.rules hk with ⟨_, hk₀, -⟩ | hm
    · cases hk₀
    · exact hm
  · intro h t ht
    rcases hl.origin _ ht with ⟨_, hr₀, -⟩ | hm
    · cases hr₀
    · exact hm

/-- Flushing gives no handle back. -/
example : (logAll { port := 0 } [.install 0 .jump, .flush 0, .install 0 .jump]).installed =
    [(1, .jump), (2, .jump)] := rfl

end FlowOffload.FlowDevice
