import FlowOffload.Dataplane.Install
import FlowOffload.Proofs.Dataplane.Interference
import FlowOffload.Proofs.FlowDevice

/-!
# Installing — what an attempt to offload a pair comes to

An attempt on a *whole* pair, which is in the table with both of its directions, comes to one of
three ends (`Dataplane.attempt_offloadPair`).  It is skipped if the entry is not claimed.  It
succeeds if the device accepts both rules and both claims outlast the two installation calls.  In
all other cases it fails, and what it has done is undone.

On the way the two directions waver between claimed and not, whatever other workers do
(`Dataplane.Trying`).  Only after the second rule is in place does the attempt look at the claims,
so the ways to fail differ in what is there to be undone, and not in what is left
(`Dataplane.Failed`).

Of an attempt on any entry, in whatever table, this much can be said: what outlasts each piece of
work outlasts the attempt, but for the count of its result (`Dataplane.Outlasts.offloadPair`).
-/

namespace FlowOffload

namespace Rule

/-- The rule of a direction is for its tuple. -/
theorem pattern_offload {e : Entry} {seconds : UInt32} {q : QueueId} {rule : Rule}
    (h : offload? e seconds q = .ok rule) : rule.pattern = .exact e.tuple := by
  rw [offload?] at h
  split at h
  · cases h; rfl
  · cases h

end Rule

/-! ### Whole pairs -/

namespace FlowTable

variable {t : FlowTable} {i j : EntryId} {e p : Entry}

/-- `e` and `p` are in the table as the two directions of a flow, offloaded together or not at all,
and without rules if they are not. -/
structure Whole (t : FlowTable) (i j : EntryId) (e p : Entry) : Prop where
  stored₁ : t.Stored i e
  stored₂ : t.Stored j p
  tuple : p.tuple = e.peer
  distinct : p.tuple ≠ e.tuple
  together : e.status = .offloaded ↔ p.status = .offloaded
  idle₁ : e.status ≠ .offloaded → e.rule = none
  idle₂ : p.status ≠ .offloaded → p.rule = none

/-- A whole pair has two entries. -/
theorem Whole.ne (h : t.Whole i j e p) : i ≠ j := by
  rintro rfl
  exact h.distinct (congrArg _ (h.stored₂.unique h.stored₁))

/-- A stored entry that is not offloaded is one of a whole pair. -/
theorem Paired.whole {nat : UInt32} (hp : t.Paired nat) (he : t.entry? i = some e)
    (hn : e.status ≠ .offloaded) : ∃ j p, t.Whole i j e p ∧ Entry.Mates nat e p := by
  have hs := hp.strays he hn
  obtain ⟨j, p, hj, hm⟩ := hp.mated hs
  refine ⟨j, p, ⟨hs, hj, hm.tuple, hm.distinct, hm.together, hp.idle he, hp.idle hj.entry⟩, hm⟩

end FlowTable

namespace Entry

variable {e : Entry} {s : Status}

theorem change_claim (h : s ≠ .offloaded) :
    change { e with status := s } .claim = { e with status := .offloading } := by
  rw [change_eq]
  cases s with
  | notOffloaded | offloading => rfl
  | offloaded => exact absurd rfl h

theorem change_revert (h : s ≠ .offloaded) :
    change { e with status := s } .revert = { e with status := .notOffloaded } := by
  rw [change_eq]
  cases s with
  | notOffloaded | offloading => rfl
  | offloaded => exact absurd rfl h

end Entry

namespace Dataplane

/-! ### One rule -/

/-- The rule that handles an entry's direction. -/
def offloadRule? (d : Dataplane) (e : Entry) : Except DeviceError Rule :=
  Rule.offload? e d.settings.flowIdleTimeoutSecs d.settings.hairpinQueue

/-- The device would install an entry's rule. -/
def Accepts (d : Dataplane) (e : Entry) : Prop :=
  ∃ rule h, d.offloadRule? e = .ok rule ∧ (d.device.install d.port rule).1 = .ok h

/-- The device has room for `rule`, which is an entry's rule. -/
structure Grants (d : Dataplane) (e : Entry) (rule : Rule) : Prop where
  offloads : d.offloadRule? e = .ok rule
  port : d.port = d.device.port
  room : d.device.refusal? rule.pattern = none

theorem Grants.pattern {d : Dataplane} {e : Entry} {rule : Rule} (h : d.Grants e rule) :
    rule.pattern = .exact e.tuple :=
  Rule.pattern_offload h.offloads

theorem Grants.byTuple {d : Dataplane} {e : Entry} {rule : Rule} (h : d.Grants e rule) :
    d.device.byTuple.get? e.tuple = none :=
  FlowDevice.byTuple_of_not_refused (h.pattern ▸ h.room)

/-- An entry is accepted when it can be granted a rule. -/
theorem accepts_iff {d : Dataplane} {e : Entry} : d.Accepts e ↔ ∃ rule, d.Grants e rule := by
  constructor
  · rintro ⟨rule, h, hr, hi⟩
    rcases d.device.install_eq d.port rule with ⟨err, hv⟩ | ⟨hp, hn, -⟩
    · rw [hv] at hi
      cases hi
    · exact ⟨rule, hr, hp, hn⟩
  · rintro ⟨rule, hr, hp, hn⟩
    refine ⟨rule, d.device.lastHandle + 1, hr, ?_⟩
    rw [FlowDevice.install, FlowDevice.checkPort, if_pos hp, hn]

/-- A rule for one entry leaves room for one for an entry of another tuple. -/
theorem grants_add {d d' : Dataplane} {e p : Entry} {rule r : Rule} (h : d.Grants e rule)
    (hs : d'.settings = d.settings) (hv : d'.device = d.device.add rule)
    (hne : p.tuple ≠ e.tuple) : d'.Grants p r ↔ d.Grants p r := by
  have ho : d'.offloadRule? p = d.offloadRule? p := by rw [offloadRule?, offloadRule?, hs]
  have hp : d'.port = d.port := congrArg Settings.portId hs
  have hq : d'.device.port = d.device.port := by rw [hv]; rfl
  have hr : r.pattern = .exact p.tuple →
      d'.device.refusal? r.pattern = d.device.refusal? r.pattern := fun hr => by
    rw [hr, hv, FlowDevice.refusal?_add _ h.pattern hne]
  constructor
  · intro hg
    exact ⟨ho.symm.trans hg.offloads, hp.symm.trans (hg.port.trans hq),
      (hr hg.pattern).symm.trans hg.room⟩
  · intro hg
    exact ⟨ho.trans hg.offloads, hp.trans (hg.port.trans hq.symm), (hr hg.pattern).trans hg.room⟩

/-- The ways in which the installation of one rule can end. -/
inductive Installs (d : Dataplane) (e : Entry) : Except DeviceError Handle × Dataplane → Prop where
  | unsupported (err : DeviceError) : ¬ d.Accepts e → Installs d e (.error err, d)
  | refused (err : DeviceError) : ¬ d.Accepts e → Installs d e (.error err, d.disturb)
  | accepted {rule : Rule} : d.Grants e rule →
      Installs d e (.ok (d.device.lastHandle + 1), { d.disturb with device := d.device.add rule })

/-- An installation comes after whatever interferes, which the device does not see. -/
theorem installRule_eq (d : Dataplane) (rule : Rule) :
    d.installRule rule = ((d.device.install d.port rule).1,
      { d.disturb with device := (d.device.install d.port rule).2 }) := by
  simp only [installRule, port, device_disturb, settings_disturb]

/-- An entry gets the rule that it is granted, or is refused one. -/
theorem installs_installEntry (d : Dataplane) (e : Entry) : d.Installs e (d.installEntry e) := by
  rw [installEntry]
  split
  · next err hr =>
      refine .unsupported err ?_
      rintro ⟨rule, h, hr', -⟩
      exact nomatch hr.symm.trans hr'
  · next rule hr =>
      rw [installRule_eq]
      rcases d.device.install_eq d.port rule with ⟨err, h⟩ | ⟨hp, hn, h⟩
      · rw [h, ← device_disturb]
        refine .refused err ?_
        rintro ⟨rule', k, hr', hk⟩
        obtain rfl := Except.ok.inj (hr.symm.trans hr')
        rw [h] at hk
        cases hk
      · rw [h]
        exact .accepted ⟨hr, hp, hn⟩

/-! ### In the middle of an attempt -/

/-- `e` is at `i`, claimed or not. -/
def Unsettled (d : Dataplane) (i : EntryId) (e : Entry) : Prop :=
  ∃ s, s ≠ .offloaded ∧ d.entry? i = some { e with status := s }

/-- Under fair interference an entry stays unsettled: claimed or not, but not offloaded. -/
theorem Unsettled.disturb {d : Dataplane} {i : EntryId} {e : Entry} (h : d.Unsettled i e)
    (hf : d.Fair) : d.disturb.Unsettled i e := by
  obtain ⟨s, hs, he⟩ := h
  refine ⟨s.after (d.changesDue i), ?_, by rw [entry?_disturb, he]; rfl⟩
  exact mt (s.after_eq_offloaded_iff fun _ => tentative_changesDue hf).mp hs

/-- `d'` comes from `d` while an attempt on `e` and `p` is under way: each of the two may be claimed
or not, and nothing else has changed that matters to pairs. -/
structure Trying (d d' : Dataplane) (i j : EntryId) (e p : Entry) : Prop where
  alike : d.table.Alike d'.table
  entry₁ : d'.Unsettled i e
  entry₂ : d'.Unsettled j p
  fair : d'.Fair
  settings : d'.settings = d.settings
  pool : d'.pool = d.pool
  counters : d'.counters = d.counters

/-- `d'` comes from `d` by a failed attempt on `e` and `p`. -/
structure Failed (d d' : Dataplane) (i j : EntryId) (e p : Entry) : Prop where
  alike : d.table.Alike d'.table
  entry₁ : d'.entry? i = some { e with status := .notOffloaded }
  entry₂ : d'.entry? j = some { p with status := .notOffloaded }
  fair : d'.Fair
  settings : d'.settings = d.settings
  pool : d'.pool = d.pool
  counters : d'.counters = { d.counters with offloadFailed := d.counters.offloadFailed + 1 }
  device : d.device.RolledBack e.tuple p.tuple d'.device

variable {d d' : Dataplane} {i j : EntryId} {e p : Entry}

namespace Trying

/-- The device plays no part in it. -/
theorem device (h : Trying d d' i j e p) (v : FlowDevice) :
    Trying d { d' with device := v } i j e p where
  alike := h.alike
  entry₁ := h.entry₁
  entry₂ := h.entry₂
  fair := h.fair
  settings := h.settings
  pool := h.pool
  counters := h.counters

theorem disturb (h : Trying d d' i j e p) : Trying d d'.disturb i j e p where
  alike := h.alike.trans (alike_disturb h.fair)
  entry₁ := h.entry₁.disturb h.fair
  entry₂ := h.entry₂.disturb h.fair
  fair := fair_disturb h.fair
  settings := by rw [settings_disturb, h.settings]
  pool := by rw [disturb_eq]; exact h.pool
  counters := by rw [disturb_eq]; exact h.counters

/-- The two entries as they are, with statuses of their own. -/
theorem updated (h : Trying d d' i j e p) (hij : i ≠ j) : ∃ s s', s ≠ .offloaded ∧
    s' ≠ .offloaded ∧
    d'.table.Updated d'.table i j { e with status := s } { p with status := s' } := by
  obtain ⟨s, hs, he⟩ := h.entry₁
  obtain ⟨s', hs', hp⟩ := h.entry₂
  exact ⟨s, s', hs, hs', .self hij he hp⟩

/-- An attempt fails once both claims are given up. -/
theorem failed {u : FlowTable} {v : FlowDevice} (h : Trying d d' i j e p) (hij : i ≠ j)
    (hu : d'.table.Updated u i j { e with status := .notOffloaded }
      { p with status := .notOffloaded })
    (hv : d.device.RolledBack e.tuple p.tuple v) :
    Failed d (fail { d' with table := u, device := v }) i j e p where
  alike := by
    obtain ⟨s, s', hs, hs', hp⟩ := h.updated hij
    refine h.alike.trans (hu.alike hp.entry₁ ?_ hp.entry₂ ?_)
    · exact Entry.alike_status { e with status := s } (by simp [hs])
    · exact Entry.alike_status { p with status := s' } (by simp [hs'])
  entry₁ := hu.entry₁
  entry₂ := hu.entry₂
  fair := h.fair
  settings := h.settings
  pool := h.pool
  counters := by
    rw [fail, tally, h.counters]
  device := hv

/-- Giving up both claims. -/
theorem revertPair (h : Trying d d' i j e p) (hij : i ≠ j)
    (hv : d.device.RolledBack e.tuple p.tuple d'.device) :
    Failed d (d'.revertPair i j).fail i j e p := by
  obtain ⟨s, s', hs, hs', hp⟩ := h.updated hij
  have hp := (hp.modify₁ (·.change .revert)).modify₂ (·.change .revert)
  rw [Entry.change_revert hs, Entry.change_revert hs'] at hp
  exact h.failed hij hp hv

end Trying

/-! ### Both rules are there -/

theorem hasStatus_iff {s : Status} (h : d.entry? i = some e) : d.HasStatus i s ↔ e.status = s := by
  rw [HasStatus, h, Option.map_some, Option.some.injEq]

theorem transition_eq {c : Transition} {b : Bool} (h : d.entry? i = some e)
    (hb : decide (e.status = c.source) = b) :
    d.transition i c = (b, d.modify i (·.change c)) := by
  rw [transition, ← hb]
  exact congrArg (·, _) (decide_eq_decide.mpr (hasStatus_iff h))

theorem destroyRule_eq (d : Dataplane) (k : Handle) :
    d.destroyRule k = { d with device := d.device.scrap d.port k } := by
  rw [destroyRule, FlowDevice.scrap]
  cases d.device.destroy d.port k <;> rfl

theorem dropRule_eq {k : Handle} (h : d.entry? i = some e) (hr : e.rule = some k) :
    d.dropRule i = { d with
      table := d.table.modify i fun e => { e with rule := none }
      device := d.device.scrap d.port k } := by
  have hk : (d.entry? i).bind Entry.rule = some k := by rw [h]; exact hr
  rw [dropRule, hk]
  exact destroyRule_eq _ k

/-- Both entries give their rules up. -/
theorem dropRules_eq {t : FlowTable} {a b : Entry} {k l : Handle}
    (h : t.Updated d.table i j a b) (ha : a.rule = some k) (hb : b.rule = some l) :
    ∃ u, t.Updated u i j { a with rule := none } { b with rule := none } ∧
      (d.dropRule i).dropRule j =
        { d with table := u, device := (d.device.scrap d.port k).scrap d.port l } := by
  have h₁ := h.modify₁ fun e => { e with rule := none }
  refine ⟨_, h₁.modify₂ fun e => { e with rule := none }, ?_⟩
  rw [dropRule_eq h.entry₁ ha]
  exact dropRule_eq h₁.entry₂ hb

/-- Both claims are there still. -/
theorem finishPair_of_held {t : FlowTable} {f b : Handle}
    (h : t.Updated d.table i j { e with status := .offloading, rule := some f }
      { p with status := .offloading, rule := some b }) :
    ∃ u, t.Updated u i j { e with status := .offloaded, rule := some f }
        { p with status := .offloaded, rule := some b } ∧
      d.finishPair i j e p = (.ok .installed,
        { d with table := u, latency := d.latency.record d.installMicros }.tally fun c =>
          { c with offloadInstalled := c.offloadInstalled + 1 }) := by
  have hj : d.transition j .finish = (true, d.modify j (·.change .finish)) :=
    transition_eq h.entry₂ rfl
  have h₁ : t.Updated (d.modify j (·.change .finish)).table i j
      { e with status := .offloading, rule := some f }
      { p with status := .offloaded, rule := some b } := h.modify₂ (·.change .finish)
  have hi : (d.modify j (·.change .finish)).transition i .finish =
      (true, (d.modify j (·.change .finish)).modify i (·.change .finish)) :=
    transition_eq h₁.entry₁ rfl
  refine ⟨_, h₁.modify₁ (·.change .finish), ?_⟩
  simp only [finishPair, hj, hi]
  rfl

/-- The second claim was lost: it cannot be finished, and the first one is given up. -/
theorem finishPair_of_lost₂ {t : FlowTable} {s : Status} {f b : Handle}
    (h : t.Updated d.table i j { e with status := s, rule := some f }
      { p with status := .notOffloaded, rule := some b }) (hs : s ≠ .offloaded) :
    ∃ u, t.Updated u i j { e with status := .notOffloaded, rule := none }
        { p with status := .notOffloaded, rule := none } ∧
      d.finishPair i j e p = (.error (.claimLost p.tuple),
        fail { d with table := u, device := (d.device.scrap d.port f).scrap d.port b }) := by
  have hj : d.transition j .finish = (false, d.modify j (·.change .finish)) :=
    transition_eq h.entry₂ rfl
  have h₁ : t.Updated (d.modify j (·.change .finish)).table i j
      { e with status := s, rule := some f }
      { p with status := .notOffloaded, rule := some b } := h.modify₂ (·.change .finish)
  obtain ⟨u, hu, hd⟩ := dropRules_eq h₁ rfl rfl
  have hr : Entry.change { e with status := s, rule := none } .revert =
      { e with status := .notOffloaded, rule := none } :=
    Entry.change_revert (e := { e with rule := none }) hs
  refine ⟨_, hr ▸ hu.modify₁ (·.change .revert), ?_⟩
  simp only [finishPair, hj, hd]
  rfl

/-- Only the first claim was lost: the second direction is finished before this turns out, and is
withdrawn. -/
theorem finishPair_of_lost₁ {t : FlowTable} {f b : Handle}
    (h : t.Updated d.table i j { e with status := .notOffloaded, rule := some f }
      { p with status := .offloading, rule := some b }) :
    ∃ u, t.Updated u i j { e with status := .notOffloaded, rule := none }
        { p with status := .notOffloaded, rule := none } ∧
      d.finishPair i j e p = (.error (.claimLost e.tuple),
        fail { d with table := u, device := (d.device.scrap d.port f).scrap d.port b }) := by
  have hj : d.transition j .finish = (true, d.modify j (·.change .finish)) :=
    transition_eq h.entry₂ rfl
  have h₁ : t.Updated (d.modify j (·.change .finish)).table i j
      { e with status := .notOffloaded, rule := some f }
      { p with status := .offloaded, rule := some b } := h.modify₂ (·.change .finish)
  have hi : (d.modify j (·.change .finish)).transition i .finish =
      (false, (d.modify j (·.change .finish)).modify i (·.change .finish)) :=
    transition_eq h₁.entry₁ rfl
  have h₂ : t.Updated ((d.modify j (·.change .finish)).modify i (·.change .finish)).table i j
      { e with status := .notOffloaded, rule := some f }
      { p with status := .offloaded, rule := some b } := h₁.modify₁ (·.change .finish)
  obtain ⟨u, hu, hd⟩ := dropRules_eq h₂ rfl rfl
  refine ⟨_, hu.modify₂ (·.change .withdraw), ?_⟩
  simp only [finishPair, hj, hi, hd]
  rfl

/-- One of the claims was lost: the rules go, and so does the other claim. -/
theorem finishPair_of_lost {t : FlowTable} {s s' : Status} {f b : Handle}
    (h : t.Updated d.table i j { e with status := s, rule := some f }
      { p with status := s', rule := some b })
    (hs : s ≠ .offloaded) (hs' : s' ≠ .offloaded) (hl : ¬ (s = .offloading ∧ s' = .offloading)) :
    ∃ err u, t.Updated u i j { e with status := .notOffloaded, rule := none }
        { p with status := .notOffloaded, rule := none } ∧
      d.finishPair i j e p = (.error err,
        fail { d with table := u, device := (d.device.scrap d.port f).scrap d.port b }) := by
  cases s' with
  | offloaded => exact absurd rfl hs'
  | notOffloaded => exact ⟨_, finishPair_of_lost₂ h hs⟩
  | offloading =>
      cases s with
      | offloaded => exact absurd rfl hs
      | notOffloaded => exact ⟨_, finishPair_of_lost₁ h⟩
      | offloading => exact absurd ⟨rfl, rfl⟩ hl

/-! ### A whole attempt -/

/-- Both claims of a pair outlast two installation calls, once the peer is claimed too. -/
def HoldsClaims (d : Dataplane) (i j : EntryId) : Prop :=
  (d.change j .claim).disturb.disturb.HasStatus i .offloading ∧
    (d.change j .claim).disturb.disturb.HasStatus j .offloading

/-- `d'` comes from `d` by an attempt on `e` and `p` that installs `re` and `rp`. -/
structure Installed (d d' : Dataplane) (i j : EntryId) (e p : Entry) (re rp : Rule) : Prop where
  grants₁ : d.Grants e re
  grants₂ : d.Grants p rp
  table : ∃ t, d.table.Alike t ∧ t.Updated d'.table i j
    { e with status := .offloaded, rule := some (d.device.lastHandle + 1) }
    { p with status := .offloaded, rule := some (d.device.lastHandle + 1 + 1) }
  device : d'.device = (d.device.add re).add rp
  fair : d'.Fair
  settings : d'.settings = d.settings
  pool : d'.pool = d.pool
  counters : d'.counters = { d.counters with offloadInstalled := d.counters.offloadInstalled + 1 }

namespace Installed

variable {re rp : Rule}

/-- The two rules have the next two handles. -/
theorem ruleAt (h : Installed d d' i j e p re rp) (k : Handle) : d'.device.ruleAt k =
    if k = d.device.lastHandle + 1 + 1 then some rp
    else if k = d.device.lastHandle + 1 then some re else d.device.ruleAt k := by
  rw [h.device, FlowDevice.ruleAt_add, FlowDevice.ruleAt_add]
  rfl

/-- After the first rule there is still room for the second one. -/
theorem room (h : Installed d d' i j e p re rp) (hne : p.tuple ≠ e.tuple) :
    (d.device.add re).refusal? rp.pattern = none := by
  rw [h.grants₂.pattern, FlowDevice.refusal?_add _ h.grants₁.pattern hne, ← h.grants₂.pattern]
  exact h.grants₂.room

end Installed

/-- What an attempt on a pair can come to. -/
inductive Attempt (d : Dataplane) (i j : EntryId) (e p : Entry) : OffloadResult × Dataplane → Prop
    where
  | skipped : e.status ≠ .offloading → Attempt d i j e p (.ok .skipped, d)
  | failed {d' : Dataplane} (err : OffloadError) : e.status = .offloading →
      ¬ (d.Accepts e ∧ d.Accepts p ∧ d.HoldsClaims i j) → Failed d d' i j e p →
      Attempt d i j e p (.error err, d')
  | installed {d' : Dataplane} {re rp : Rule} : e.status = .offloading →
      d.HoldsClaims i j → Installed d d' i j e p re rp →
      Attempt d i j e p (.ok .installed, d')

/-- An attempt begins by claiming the peer. -/
theorem trying_claim (h : d.table.Whole i j e p) (hf : d.Fair) (he : e.status = .offloading) :
    Trying d (d.change j .claim) i j e p where
  alike := .modify _ _ fun e => e.alike_change (.inl rfl)
  entry₁ := by
    refine ⟨.offloading, nofun, ?_⟩
    rw [← he]
    exact (FlowTable.entry?_modify_of_ne _ _ h.ne).trans h.stored₁.entry
  entry₂ := by
    refine ⟨.offloading, nofun, ?_⟩
    have hn : p.status ≠ .offloaded := fun hp => nomatch he.symm.trans (h.together.mpr hp)
    rw [← Entry.change_claim hn]
    exact (FlowTable.entry?_modify_self _ _ _).trans (congrArg _ h.stored₂.entry)
  fair := hf
  settings := rfl
  pool := rfl
  counters := rfl

/-- The state in which both entries have got their handles. -/
def holding (d : Dataplane) (i j : EntryId) (f b : Handle) : Dataplane :=
  (d.modify i fun e => { e with rule := some f }).modify j fun e => { e with rule := some b }

/-- Both rules are in place; what is left is to look at the claims. -/
theorem attempt_finishPair {re rp : Rule} (h : d.table.Whole i j e p) (he : e.status = .offloading)
    (hT : Trying d d' i j e p) (hv : d'.device = (d.device.add re).add rp)
    (hd : d'.table = (d.change j .claim).disturb.disturb.table)
    (h₁ : d.Grants e re) (h₂ : d.Grants p rp) :
    Attempt d i j e p ((d'.holding i j (d.device.lastHandle + 1)
      (d.device.lastHandle + 1 + 1)).finishPair i j e p) := by
  have hn : e.status ≠ .offloaded := by rw [he]; exact nofun
  obtain ⟨s, s', hs, hs', hu⟩ := hT.updated h.ne
  have hc : d.HoldsClaims i j ↔ s = .offloading ∧ s' = .offloading := by
    rw [HoldsClaims, HasStatus, HasStatus, entry?, entry?, ← hd, hu.entry₁, hu.entry₂]
    simp
  generalize hf : d.device.lastHandle + 1 = f
  have hH : d'.table.Updated (d'.holding i j f (f + 1)).table i j
      { e with status := s, rule := some f } { p with status := s', rule := some (f + 1) } :=
    (hu.modify₁ fun e => { e with rule := some f }).modify₂ fun e => { e with rule := some (f + 1) }
  -- what the statuses have become decides how the attempt ends
  by_cases hl : s = .offloading ∧ s' = .offloading
  · obtain ⟨rfl, rfl⟩ := hl
    obtain ⟨u, hu', hx⟩ := finishPair_of_held hH
    rw [hx]
    refine .installed he (hc.mpr ⟨rfl, rfl⟩) ⟨h₁, h₂, ?_, hv, hT.fair, hT.settings, hT.pool, ?_⟩
    · rw [hf]
      exact ⟨d'.table, hT.alike, hu'⟩
    · rw [tally, ← hT.counters]
      rfl
  · obtain ⟨err, u, hu', hx⟩ := finishPair_of_lost hH hs hs' hl
    have he' : { e with status := .notOffloaded, rule := none } =
        { e with status := .notOffloaded } := by rw [h.idle₁ hn]
    have hp' : { p with status := .notOffloaded, rule := none } =
        { p with status := .notOffloaded } := by rw [h.idle₂ (mt h.together.mpr hn)]
    rw [he', hp'] at hu'
    have hb : d.device.RolledBack e.tuple p.tuple
        ((d'.device.scrap d'.port f).scrap d'.port (f + 1)) := by
      rw [port, hT.settings, ← port, h₁.port, hv, ← hf]
      exact .two h₁.pattern h₁.byTuple h₂.pattern h₂.byTuple
    rw [hx]
    exact .failed err he (fun hc' => hl (hc.mp hc'.2.2)) (hT.failed h.ne hu' hb)

/-- **The attempt on a whole pair**, once its peer has been claimed. -/
theorem attempt_installPair (h : d.table.Whole i j e p) (hf : d.Fair)
    (he : e.status = .offloading) :
    Attempt d i j e p ((d.change j .claim).installPair i j e p) := by
  have hT := trying_claim h hf he
  have hI := installs_installEntry (d.change j .claim) e
  rw [installPair]
  generalize (d.change j .claim).installEntry e = r at hI ⊢
  cases hI with
  | unsupported err hn =>
      exact .failed _ he (fun hc => hn hc.1) (hT.revertPair h.ne .none)
  | refused err hn =>
      refine .failed _ he (fun hc => hn hc.1) (hT.disturb.revertPair h.ne ?_)
      rw [device_disturb]
      exact .none
  | @accepted re h₁ =>
      have h₁ : d.Grants e re := ⟨h₁.offloads, h₁.port, h₁.room⟩
      have hT₁ := hT.disturb.device ((d.change j .claim).device.add re)
      have ht := disturb_device (d.change j .claim).disturb ((d.change j .claim).device.add re)
      have hv : device { (d.change j .claim).disturb with
          device := (d.change j .claim).device.add re } = d.device.add re := rfl
      simp only
      -- from here on, all that counts of the first installation is what these facts say
      generalize { (d.change j .claim).disturb with
        device := (d.change j .claim).device.add re } = d₁ at hT₁ ht hv ⊢
      have hp : d₁.port = d.device.port := by rw [port, hT₁.settings, ← port, h₁.port]
      have hn₂ (hn : ¬ d₁.Accepts p) : ¬ (d.Accepts e ∧ d.Accepts p ∧ d.HoldsClaims i j) := by
        rintro ⟨-, hp, -⟩
        obtain ⟨r, hr⟩ := accepts_iff.mp hp
        exact hn (accepts_iff.mpr ⟨r, (grants_add h₁ hT₁.settings hv h.distinct).mpr hr⟩)
      have hI₂ := installs_installEntry d₁ p
      generalize d₁.installEntry p = r at hI₂ ⊢
      cases hI₂ with
      | unsupported err hn =>
          simp only [destroyRule_eq]
          refine .failed _ he (hn₂ hn) ((hT₁.device _).revertPair h.ne ?_)
          rw [hp, hv]
          exact .one h₁.pattern h₁.byTuple
      | refused err hn =>
          simp only [destroyRule_eq]
          refine .failed _ he (hn₂ hn) ((hT₁.disturb.device _).revertPair h.ne ?_)
          rw [device_disturb, port, settings_disturb, ← port, hp, hv]
          exact .one h₁.pattern h₁.byTuple
      | @accepted rp h₂ =>
          have h₂ := (grants_add h₁ hT₁.settings hv h.distinct).mp h₂
          rw [hv]
          exact attempt_finishPair h he (hT₁.disturb.device _) rfl (by rw [ht]) h₁ h₂

/-- **An attempt on a whole pair** is skipped, fails or succeeds. -/
theorem attempt_offloadPair (h : d.table.Whole i j e p) (hf : d.Fair) :
    Attempt d i j e p (d.offloadPair i) := by
  have hi : d.entry? i = some e := h.stored₁.entry
  have hj : d.entry? j = some p := h.stored₂.entry
  have hl : d.table.lookup e.peer = some j := h.tuple ▸ h.stored₂.lookup
  simp only [offloadPair, hi, hl, hj]
  split
  · next hn => exact .skipped hn
  · next he =>
      have he := Decidable.not_not.mp he
      rw [if_neg fun hp => nomatch he.symm.trans (h.together.mpr hp)]
      exact attempt_installPair h hf he

/-! ### Attempts in a paired table -/

/-- In a paired table every attempt that is not skipped is on a whole pair. -/
theorem attempt_of_paired {nat : UInt32} (hp : d.table.Paired nat) (hf : d.Fair) (i : EntryId) :
    d.offloadPair i = (.ok .skipped, d) ∨ ∃ j e p, d.table.Whole i j e p ∧
      Entry.Mates nat e p ∧ d.Attempt i j e p (d.offloadPair i) := by
  cases he : d.entry? i with
  | none =>
      refine .inl ?_
      rw [offloadPair, he]
  | some e =>
      by_cases hs : e.status = .offloading
      · obtain ⟨j, p, hw, hm⟩ := hp.whole he (by rw [hs]; exact nofun)
        exact .inr ⟨j, e, p, hw, hm, attempt_offloadPair hw hf⟩
      · refine .inl ?_
        simp only [offloadPair, he]
        exact if_pos hs

/-- A successful attempt finishes the pair. -/
theorem Installed.finished {re rp : Rule} {nat : UInt32} (h : Installed d d' i j e p re rp)
    (hw : d.table.Whole i j e p) (hm : Entry.Mates nat e p) :
    ∃ t e' p', d.table.Alike t ∧ t.Finished nat d'.table i j e' p'
      { e with status := .offloaded, rule := some (d.device.lastHandle + 1) }
      { p with status := .offloaded, rule := some (d.device.lastHandle + 1 + 1) } := by
  obtain ⟨t, ha, hu⟩ := h.table
  obtain ⟨e', he, hae⟩ := ha.stored hw.stored₁
  obtain ⟨p', hp, hap⟩ := ha.stored hw.stored₂
  exact ⟨t, e', p', ha, hu, he, hp, hae.tuple.symm, hap.tuple.symm,
    ⟨hm.tuple, hm.distinct, hm.egress, hm.owner, iff_of_true rfl rfl⟩, rfl⟩

/-! ### What outlasts an attempt -/

/-- `P` outlasts the work of attempts that touch no entries but those in `S`. -/
structure Outlasts (P : Dataplane → Prop) (S : EntryId → Prop) : Prop where
  change : ∀ {d k} (c : Transition), S k → P d → P (d.change k c)
  setRule : ∀ {d k} (r : Option Handle), S k → P d → P (d.modify k fun e => { e with rule := r })
  install : ∀ {d : Dataplane} (port : PortId) (rule : Rule), P d →
    P { d with device := (d.device.install port rule).2 }
  scrap : ∀ {d : Dataplane} (port : PortId) (h : Handle), P d →
    P { d with device := d.device.scrap port h }
  disturb : ∀ {d}, P d → P d.disturb

/-- How an attempt can end whose work `P` outlasts: with its result, which is counted. -/
inductive Ends (P : Dataplane → Prop) : OffloadResult × Dataplane → Prop where
  | skipped {d : Dataplane} : P d → Ends P (.ok .skipped, d)
  | failed {d : Dataplane} (err : OffloadError) : P d → Ends P (.error err, d.fail)
  | installed {d : Dataplane} : P d → Ends P (.ok .installed,
      { d with latency := d.latency.record d.installMicros }.tally fun c =>
        { c with offloadInstalled := c.offloadInstalled + 1 })

namespace Outlasts

variable {P : Dataplane → Prop} {S : EntryId → Prop}

theorem destroyRule (h : Outlasts P S) (hd : P d) (n : Handle) : P (d.destroyRule n) := by
  rw [destroyRule_eq]
  exact h.scrap _ n hd

/-- What outlasts an attempt outlasts the end of an entry's rule. -/
theorem dropRule (h : Outlasts P S) (hi : S i) (hd : P d) : P (d.dropRule i) := by
  rw [Dataplane.dropRule]
  split
  · exact hd
  · exact h.destroyRule (h.setRule none hi hd) _

theorem revertPair (h : Outlasts P S) (hi : S i) (hj : S j) (hd : P d) : P (d.revertPair i j) :=
  h.change _ hj (h.change _ hi hd)

theorem installEntry (h : Outlasts P S) (hd : P d) (e : Entry) : P (d.installEntry e).2 := by
  rw [Dataplane.installEntry]
  split
  · exact hd
  · next rule _ => exact h.install _ rule (h.disturb hd)

/-- What outlasts an attempt holds at its end, whether or not the claims can be finished. -/
theorem finishPair (h : Outlasts P S) (hi : S i) (hj : S j) (hd : P d) (e p : Entry) :
    Ends P (d.finishPair i j e p) := by
  have h₁ : P (d.transition j .finish).2 := h.change .finish hj hd
  rw [Dataplane.finishPair]
  generalize d.transition j .finish = x at h₁ ⊢
  obtain ⟨b, d₁⟩ := x
  cases b with
  | false => exact .failed _ (h.change .revert hi (h.dropRule hj (h.dropRule hi h₁)))
  | true =>
      have h₂ : P (d₁.transition i .finish).2 := h.change .finish hi h₁
      simp only
      generalize d₁.transition i .finish = y at h₂ ⊢
      obtain ⟨b, d₂⟩ := y
      cases b with
      | false => exact .failed _ (h.change .withdraw hj (h.dropRule hj (h.dropRule hi h₂)))
      | true => exact .installed h₂

/-- What outlasts an attempt holds at its end, however far the installation gets. -/
theorem installPair (h : Outlasts P S) (hi : S i) (hj : S j) (hd : P d) (e p : Entry) :
    Ends P (d.installPair i j e p) := by
  have h₁ := h.installEntry hd e
  rw [Dataplane.installPair]
  generalize d.installEntry e = x at h₁ ⊢
  obtain ⟨err | f, d₁⟩ := x
  · exact .failed _ (h.revertPair hi hj h₁)
  · have h₂ := h.installEntry h₁ p
    simp only
    generalize d₁.installEntry p = y at h₂ ⊢
    obtain ⟨err | b, d₂⟩ := y
    · exact .failed _ (h.revertPair hi hj (h.destroyRule h₂ f))
    · exact h.finishPair hi hj (h.setRule _ hj (h.setRule _ hi h₂)) e p

/-- **What outlasts the work on an entry and its peer outlasts the attempt.** -/
theorem offloadPair (h : Outlasts P S) (hi : S i)
    (hj : ∀ e j, d.entry? i = some e → d.table.lookup e.peer = some j → S j) (hd : P d) :
    Ends P (d.offloadPair i) := by
  rw [Dataplane.offloadPair]
  split
  · exact .skipped hd
  · next e he =>
      split
      · exact .skipped hd
      · split
        · exact .failed _ (h.change .revert hi hd)
        · next j hl =>
            split
            · exact .failed _ (h.change .revert hi hd)
            · split
              · exact .skipped (h.change .revert hi hd)
              · have hj := hj e j he hl
                exact h.installPair hi hj (h.change .claim hj hd) e _

end Outlasts

end Dataplane

end FlowOffload
