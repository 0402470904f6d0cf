import FlowOffload.Proofs.Dataplane.Serving

/-!
# Restarting — start and stop leave no residue

A data plane that is started and stopped again and again is at any time either *live* or *clean*:
while the activities do not run, nothing is left of what they did, in the device as in the tables.
A start that fails takes down what it has set up (`Dataplane.starts_start`), and a stop clears
whatever mix of queued, claimed, offloaded and aged flows the activities have left
(`Dataplane.Live.stop`).  So every start finds the device and the tables as the first one did
(`Dataplane.no_residue`).
-/

namespace FlowOffload

namespace FlowDevice

variable {v : FlowDevice}

/-- The device has no rules, no pending contexts and no callback. -/
structure Vacant (v : FlowDevice) : Prop where
  rules : v.rules = ∅
  byTuple : v.byTuple = ∅
  aged : v.aged = []
  callback : v.callback = none

/-- Nothing ages in a device without rules. -/
theorem Vacant.tweak (h : v.Vacant) (x : Tweak) : (v.tweak x).Vacant := by
  have hn (t : FiveTuple) : v.ruleOf? t = none := by
    rw [ruleOf?, h.byTuple]
    rfl
  cases x with
  | age t => rwa [FlowDevice.tweak, age, hn]
  | ageAll =>
      have ha : v.ageable = [] := by
        rw [ageable, h.rules]
        exact List.mergeSort_nil
      rwa [FlowDevice.tweak, ageAll, if_pos ha]
  | setCounters t c => rwa [FlowDevice.tweak, setCounters, hn]
  | failInstall | clearInstallFailures | failQuery | failDestroy | failDefaultRules
  | failRegister => exact ⟨h.rules, h.byTuple, h.aged, h.callback⟩

/-- A device that refuses callbacks says so. -/
theorem register_refused {port : PortId} (hp : v.port = port) (hf : v.failRegister = true) :
    v.register port = .error .agedEventUnsupported := by
  rw [register, checkPort, if_pos hp.symm]
  exact if_pos hf

theorem register_accepted {port : PortId} (hp : v.port = port) (hf : v.failRegister = false) :
    v.register port = .ok { v with callback := some {} } := by
  rw [register, checkPort, if_pos hp.symm]
  exact if_neg (by rw [hf]; exact Bool.false_ne_true)

end FlowDevice

/-- Whether an event comes from outside and not from one of the activities. -/
def Event.isOutside : Event → Bool
  | .wire _ | .device _ => true
  | .process _ | .poll _ _ | .drainBatch | .evictAged _ | .interfere _ _ => false

namespace Dataplane

variable {s : Settings} {d d' : Dataplane}

/-- Nothing runs, and nothing is left of what ran before. -/
structure Clean (s : Settings) (d : Dataplane) : Prop where
  stopped : d.running = false
  device : d.device.Vacant
  handoff : d.handoff = []
  index : d.table.index = ∅
  size : d.table.size = 0
  ports : s.releasePortsOnEviction = true → (d.pool.free.toList.map UInt16.toNat).Perm
    (List.range' s.portPoolBase.toNat s.portPoolSize.toNat)

/-- With an empty table, all ports that are not lost are free. -/
theorem Balanced.free_perm (h : d.Balanced s) (ht : d.table.index = ∅)
    (hr : s.releasePortsOnEviction = true) : (d.pool.free.toList.map UInt16.toNat).Perm
      (List.range' s.portPoolBase.toNat s.portPoolSize.toNat) := by
  obtain ⟨lost, hl, hn⟩ := h.account
  have hp : d.table.ports = [] := by
    rw [FlowTable.ports, ht]
    rfl
  have hm := hl.map UInt16.toNat
  rw [hn hr, hp, List.append_nil, List.append_nil, NatPool.map_toNat_range h.fits, h.base,
    h.size] at hm
  exact hm

/-- The activities do not run, and have left nothing behind. -/
structure Resting (s : Settings) (d : Dataplane) : Prop extends d.Tidy s, d.Clean s

theorem Tidy.resting (h : d.Tidy s) (hr : d.running = false) (hv : d.device.Vacant)
    (hq : d.handoff = []) (hx : d.table.index = ∅) : d.Resting s where
  toTidy := h
  stopped := hr
  device := hv
  handoff := hq
  index := hx
  size := h.sound.counted.trans (congrArg FiniteMap.size hx)
  ports := h.balanced.free_perm hx

/-! ### Starting -/

/-- The device with the default rules. -/
def withDefaults (d : Dataplane) : FlowDevice :=
  (d.device.add .jump).add (.spread d.settings.rxQueues)

/-- The state in which the activities begin. -/
def setUp (d : Dataplane) : Dataplane :=
  { d.disturb.disturb with device := { d.withDefaults with callback := some {} }, running := true }

/-- Deals with what has been waiting when the activities begin. -/
def catchUp (d : Dataplane) : Dataplane :=
  ((List.range d.settings.rxQueues.toNat).map UInt16.ofNat).foldl serve d.drainHandoff

/-- The ways in which a start can end. -/
inductive Starts (d : Dataplane) : Except SetupError Unit × Dataplane → Prop where
  | again : d.running = true → Starts d (.error .alreadyRunning, d)
  | refused : d.running = false → d.device.failDefaultRules = true →
      Starts d (.error (.defaultRule .actionUnsupported), d.disturb)
  | unheard : d.running = false → d.device.failDefaultRules = false →
      d.device.failRegister = true → Starts d (.error (.eventRegister .agedEventUnsupported),
        { d.disturb.disturb with
          device := { d.withDefaults with rules := ∅, byTuple := ∅, aged := [] } })
  | started : d.running = false → d.device.failDefaultRules = false →
      d.device.failRegister = false → Starts d (.ok (), d.setUp.catchUp)

/-- A rule for all IPv4 packets is refused while such rules are made to fail. -/
theorem installRule_refused (rule : Rule) (hp : d.device.port = d.port)
    (hr : rule.pattern = .anyIpv4) (hf : d.device.failDefaultRules = true) :
    d.installRule rule = (.error .actionUnsupported, d.disturb) := by
  have hv : d.device.install d.port rule = (.error .actionUnsupported, d.disturb.device) := by
    rw [FlowDevice.install, FlowDevice.checkPort, if_pos hp.symm, hr, FlowDevice.refusal?,
      if_pos hf, device_disturb]
  rw [installRule_eq, hv]

/-- Otherwise it is installed under the next handle. -/
theorem installRule_accepted (rule : Rule) (hp : d.device.port = d.port)
    (hr : rule.pattern = .anyIpv4) (hf : d.device.failDefaultRules = false) : d.installRule rule =
      (.ok (d.device.lastHandle + 1), { d.disturb with device := d.device.add rule }) := by
  have hv : d.device.install d.port rule =
      (.ok (d.device.lastHandle + 1), d.device.add rule) := by
    rw [FlowDevice.install, FlowDevice.checkPort, if_pos hp.symm, hr, FlowDevice.refusal?,
      if_neg (by rw [hf]; exact Bool.false_ne_true)]
  rw [installRule_eq, hv]

/-- If the first default rule is refused, no rule is installed. -/
theorem installDefaults_refused (hp : d.device.port = d.port)
    (hf : d.device.failDefaultRules = true) :
    d.installDefaults = (.error (.defaultRule .actionUnsupported), d.disturb) := by
  rw [installDefaults, installRule_refused .jump hp rfl hf]

/-- A device that takes the first default rule takes the second one, too. -/
theorem installDefaults_accepted (hp : d.device.port = d.port)
    (hf : d.device.failDefaultRules = false) : d.installDefaults =
    (.ok (d.device.lastHandle + 1, d.device.lastHandle + 1 + 1),
      { d.disturb.disturb with device := d.withDefaults }) := by
  rw [installDefaults, installRule_accepted .jump hp rfl hf]
  simp only
  generalize hd : { d.disturb with device := d.device.add .jump } = d₁
  have hs : d₁.settings = d.settings := by rw [← hd]; exact d.settings_disturb
  have hv : d₁.device = d.device.add .jump := by rw [← hd]
  have hp₁ : d₁.device.port = d₁.port := by rw [hv, port, hs]; exact hp
  have hf₁ : d₁.device.failDefaultRules = false := by rw [hv]; exact hf
  rw [installRule_accepted _ hp₁ rfl hf₁, d.settings_disturb, hv, ← hd, disturb_device]
  rfl

/-- A flush takes all rules and the pending contexts. -/
theorem flushRules_eq (hp : d.device.port = d.port) : d.flushRules =
    { d with device := { d.device with rules := ∅, byTuple := ∅, aged := [] } } := by
  rw [flushRules, FlowDevice.flush, FlowDevice.checkPort, if_pos hp.symm]
  rfl

/-- **A start** is refused, fails and is taken back, or begins with the default rules. -/
theorem starts_start (hc : d.settings.check = .ok ()) (hp : d.device.port = d.port) :
    d.Starts d.start := by
  rw [start]
  cases hr : d.running with
  | true => exact .again hr
  | false =>
      simp only [Bool.false_eq_true, if_false, hc]
      cases hf : d.device.failDefaultRules with
      | true =>
          rw [installDefaults_refused hp hf]
          exact .refused hr hf
      | false =>
          rw [installDefaults_accepted hp hf]
          simp only
          -- both default rules are in place; now the callback decides
          generalize hu : { d.disturb.disturb with device := d.withDefaults } = u
          have hv : u.device = d.withDefaults := by rw [← hu]
          have hp₁ : d.withDefaults.port = u.port := by
            rw [← hu, port, settings_disturb, settings_disturb]
            exact hp
          cases hg : d.device.failRegister with
          | true =>
              rw [FlowDevice.register_refused hp₁ hg]
              simp only
              rw [flushRules_eq (hv ▸ hp₁), hv, ← hu]
              exact .unheard hr hf hg
          | false =>
              rw [FlowDevice.register_accepted hp₁ hg]
              exact .started hr hf hg

/-- Catching up is nothing if nothing has been waiting. -/
theorem catchUp_eq_self (hq : d.handoff = [])
    (hn : ∀ queue < d.settings.rxQueues, d.nic.pending queue = 0) : d.catchUp = d := by
  have hs (queue : QueueId) : d.serve queue = d := by
    rw [serve]
    split
    · next h => rw [hn queue h.2, servePackets]
    · rfl
  have hd : d.drainHandoff = d := by
    rw [drainHandoff, hq, offloadEach, ← hq]
  rw [catchUp, hd]
  generalize (List.range d.settings.rxQueues.toNat).map UInt16.ofNat = queues
  induction queues with
  | nil => rfl
  | cons queue queues ih => rw [List.foldl_cons, hs, ih]

/-- Catching up with what has waited keeps a live data plane live. -/
theorem Live.catchUp (h : d.Live s) : d.catchUp.Live s := by
  have hd := h.drainHandoff
  rw [Dataplane.catchUp]
  generalize (List.range d.settings.rxQueues.toNat).map UInt16.ofNat = queues
  generalize d.drainHandoff = d' at hd
  induction queues generalizing d' with
  | nil => exact hd
  | cons queue queues ih => exact ih _ (hd.serve queue)

/-- The activities are about to begin: nothing but the default rules is installed, and the table and
the handoff queue are empty. -/
structure Ready (s : Settings) (d : Dataplane) : Prop where
  running : d.running = true
  callback : d.device.callback = some {}
  rules : ∃ h, d.device.rules.pairs =
    [(h + 1, { rule := .spread s.rxQueues }), (h, { rule := .jump })]
  byTuple : d.device.byTuple = ∅
  aged : d.device.aged = []
  handoff : d.handoff = []
  index : d.table.index = ∅

/-- Work on claims and rules keeps a data plane tidy. -/
theorem Tidy.works (h : d.Tidy s) (hw : d.Works d') (hp : d'.device.port = d.device.port) :
    d'.Tidy s :=
  h.congr (by rw [hw.rest]) hp hw.bare (by rw [hw.rest])

/-- A start that fails leaves nothing behind if the device is left with nothing. -/
theorem Resting.works (h : d.Resting s) (hw : d.Works d') (hp : d'.device.port = d.device.port)
    (hv : d'.device.Vacant) : d'.Resting s := by
  refine (h.toTidy.works hw hp).resting ?_ hv ?_ ?_
  · rw [hw.rest]
    exact h.stopped
  · rw [hw.rest]
    exact h.handoff
  · exact show d'.table.bare.index = ∅ by rw [hw.bare]; exact h.index

theorem works_disturb_disturb (d : Dataplane) : d.Works d.disturb.disturb :=
  (works_disturb d).trans (works_disturb _)

/-- A tidy data plane that has been set up is live. -/
theorem Tidy.setUp (h : d.Tidy s) : d.setUp.Live s where
  toTidy := by
    have hw := d.works_disturb_disturb
    have hp : d.disturb.disturb.device.port = d.device.port := by
      rw [device_disturb, device_disturb]
    exact (h.works hw hp).congr rfl hp.symm rfl rfl
  running := rfl
  callback := rfl

/-- What a start from rest begins with. -/
theorem Resting.ready (h : d.Resting s) : d.setUp.Ready s where
  running := rfl
  callback := rfl
  rules := by
    refine ⟨d.device.lastHandle + 1, ?_⟩
    generalize hn : d.device.lastHandle + 1 = n
    have hnew : (FiniteMap.insert ∅ n { rule := .jump }).get? (n + 1) =
        (none : Option InstalledRule) := by
      rw [FiniteMap.get?_insert, if_neg (Nat.succ_ne_self n), FiniteMap.get?_empty]
    show FiniteMap.pairs ((d.device.rules.insert (d.device.lastHandle + 1) _).insert
      (d.device.lastHandle + 1 + 1) _) = _
    rw [hn, h.device.rules, FiniteMap.pairs_insert _ hnew, FiniteMap.pairs_insert _ rfl,
      h.settings]
    rfl
  byTuple := h.device.byTuple
  aged := h.device.aged
  handoff := (congrArg Dataplane.handoff d.works_disturb_disturb.rest).trans h.handoff
  index := by
    show d.disturb.disturb.table.index = ∅
    rw [index_disturb, index_disturb, h.index]

/-- If no packet waits, the activities have nothing to catch up on. -/
theorem Resting.catchUp (h : d.Resting s)
    (hn : ∀ queue < s.rxQueues, d.nic.pending queue = 0) : d.setUp.catchUp = d.setUp := by
  have hw := d.works_disturb_disturb.rest
  have hs : d.setUp.settings = s := (congrArg Dataplane.settings hw).trans h.settings
  have hnic : d.disturb.disturb.nic = d.nic := by rw [hw]
  refine catchUp_eq_self h.ready.handoff fun queue hq => ?_
  exact (congrArg (Nic.pending · queue) hnic).trans (hn queue (hs ▸ hq))

/-- **A start from rest** succeeds unless the device refuses something, and fails without a
trace. -/
theorem Resting.start (h : d.Resting s) (hc : s.check = .ok ()) :
    (d.device.failDefaultRules = false ∧ d.device.failRegister = false ∧
      d.start = (.ok (), d.setUp.catchUp)) ∨
    (¬ (d.device.failDefaultRules = false ∧ d.device.failRegister = false) ∧
      (∃ e, d.start.1 = .error e ∧ e ≠ .alreadyRunning) ∧ d.start.2.Resting s) := by
  have hp : d.device.port = d.port := by rw [h.port, port, h.settings]
  have hx := starts_start (by rw [h.settings, hc]) hp
  generalize d.start = x at hx ⊢
  cases hx with
  | again hr => cases hr.symm.trans h.stopped
  | refused _ hf =>
      have hv : d.disturb.device = d.device := d.device_disturb
      refine .inr ⟨fun hn => Bool.false_ne_true (hn.1.symm.trans hf), ⟨_, rfl, by rintro ⟨⟩⟩, ?_⟩
      exact h.works (works_disturb d) (congrArg _ hv) (hv ▸ h.device)
  | unheard _ _ hg =>
      refine .inr ⟨fun hn => Bool.false_ne_true (hn.2.symm.trans hg), ⟨_, rfl, by rintro ⟨⟩⟩, ?_⟩
      exact h.works (d.works_disturb_disturb.trans ⟨rfl, rfl⟩) rfl
        ⟨rfl, rfl, rfl, h.device.callback⟩
  | started _ hf hg => exact .inl ⟨hf, hg, rfl⟩

/-! ### Stopping -/

/-- The ports that a drained table gives back are those that its entries owned. -/
theorem portsOf_drain (d : Dataplane) : (d.portsOf d.table.drain.1).Perm d.table.ports := by
  rw [portsOf, FlowTable.drain, List.filterMap_map]
  exact (List.mergeSort_perm _ _).filterMap _

/-- **What stopping leaves**: no activity, no rule, no queued entry and an empty table. -/
theorem stop_eq (hr : d.running = true) (hp : d.device.port = d.port) : d.stop = { d with
    running := false
    device := { d.device with rules := ∅, byTuple := ∅, aged := [], callback := none }
    handoff := []
    table := d.table.drain.2
    pool := d.pool.releaseAll (d.portsOf d.table.drain.1) } := by
  rw [stop, if_pos hr]
  exact flushRules_eq hp

/-- **A stop** leaves nothing behind. -/
theorem Live.stop (h : d.Live s) : d.stop.Resting s := by
  have hp : d.device.port = d.port := by rw [h.port, port, h.settings]
  rw [stop_eq h.running hp]
  have hq := d.portsOf_drain
  obtain ⟨lost, hl, -⟩ := h.balanced.account
  have hd := NatPool.releaseAll_of_perm h.balanced.fits
    (((hq.append_right lost).append_left d.pool.free.toList).trans hl)
  refine Tidy.resting ?_ rfl ⟨rfl, rfl, rfl, rfl⟩ rfl rfl
  refine ⟨h.settings, h.port, h.sound.drained, by rintro _ _ ⟨⟩, ?_⟩
  refine h.balanced.moved hd fun lost _ => ⟨lost, ?_, fun _ hn => hn⟩
  rw [List.append_assoc]
  exact (hq.append_right lost).append_left _

/-- Stopping what does not run leaves it at rest. -/
theorem Resting.stop (h : d.Resting s) : d.stop.Resting s := by
  rwa [Dataplane.stop, if_neg (by rw [h.stopped]; exact Bool.false_ne_true)]

/-! ### Starting and stopping again and again -/

/-- What can be done with a data plane that is started and stopped, and what can happen to it. -/
inductive Act where
  /-- The activities are to start. -/
  | start
  /-- The activities are to stop. -/
  | stop
  /-- Packets arrive on a receive queue. -/
  | deliver (queue : QueueId) (frames : List Frame)
  /-- The rule of a tuple ages. -/
  | age (t : FiveTuple)
  /-- All rules age. -/
  | ageAll
  /-- Something else happens. -/
  | event (ev : Event)

/-- The data plane after an act.  What comes from the activities happens only while they run. -/
def act (d : Dataplane) : Act → Dataplane
  | .start => d.start.2
  | .stop => d.stop
  | .deliver queue frames => d.deliver queue frames
  | .age t => (d.age t).2
  | .ageAll => d.ageAll.2
  | .event ev => if d.running = true ∨ ev.isOutside = true then d.react ev else d

/-- The data plane after acts, one after the other. -/
def actAll (d : Dataplane) (as : List Act) : Dataplane := as.foldl act d

/-- Whether the activities are started after an act, told by what has been answered. -/
def startedBy (d : Dataplane) (started : Bool) : Act → Bool
  | .start => started || d.start.1.isOk
  | .stop => false
  | .deliver _ _ | .age _ | .ageAll | .event _ => started

/-- Whether acts leave the activities started: whether a start has succeeded after the last stop. -/
def startedAfter (d : Dataplane) (started : Bool) : List Act → Bool
  | [] => started
  | a :: as => (d.act a).startedAfter (d.startedBy started a) as

/-- What runs is not started again. -/
theorem Live.start (h : d.Live s) : d.start = (.error .alreadyRunning, d) := by
  rw [Dataplane.start, if_pos h.running]

/-- An act leaves a live data plane live, unless it stops it; then the data plane is at rest. -/
theorem Live.act (h : d.Live s) (a : Act) :
    (d.act a).Live s ∧ d.startedBy true a = true ∨
      (d.act a).Resting s ∧ d.startedBy true a = false := by
  cases a with
  | start =>
      rw [Dataplane.act, h.start]
      exact .inl ⟨h, rfl⟩
  | stop => exact .inr ⟨h.stop, rfl⟩
  | deliver queue frames => exact .inl ⟨h.deliver queue frames, rfl⟩
  | age t => exact .inl ⟨h.age t, rfl⟩
  | ageAll => exact .inl ⟨h.ageAll, rfl⟩
  | event ev =>
      rw [Dataplane.act, if_pos (.inl h.running)]
      exact .inl ⟨h.react ev, rfl⟩

/-- What comes from outside finds nothing to work on. -/
theorem Resting.outside (h : d.Resting s) (nic : Nic) {v : FlowDevice}
    (hp : v.port = d.device.port) (hv : v.Vacant) : Resting s { d with nic, device := v } := by
  have ht : Tidy s { d with nic, device := v } := h.toTidy.congr rfl hp rfl rfl
  exact ht.resting h.stopped hv h.handoff h.index

theorem Resting.tweak (h : d.Resting s) (x : FlowDevice.Tweak) :
    Resting s { d with device := d.device.tweak x } :=
  h.outside d.nic (d.device.signals_tweak x).port (h.device.tweak x)

/-- Nothing is served at rest. -/
theorem Resting.serve (h : d.Resting s) (queue : QueueId) : (d.serve queue).Resting s := by
  have hn : ¬ d.Served queue := by
    rintro ⟨hr, -⟩
    cases hr.symm.trans h.stopped
  rwa [Dataplane.serve, if_neg hn]

theorem Resting.serveAged (h : d.Resting s) : d.serveAged.Resting s := by
  rwa [Dataplane.serveAged, if_neg (by rw [h.stopped]; exact Bool.false_ne_true)]

/-- An act leaves a data plane at rest, unless it starts it; then the data plane is live. -/
theorem Resting.act (h : d.Resting s) (hc : s.check = .ok ()) (a : Act) :
    (d.act a).Live s ∧ d.startedBy false a = true ∨
      (d.act a).Resting s ∧ d.startedBy false a = false := by
  cases a with
  | start =>
      rcases h.start hc with ⟨-, -, hx⟩ | ⟨-, ⟨e, he, -⟩, hx⟩
      · refine .inl ⟨?_, ?_⟩
        · rw [Dataplane.act, hx]
          exact h.setUp.catchUp
        · rw [startedBy, hx]
          rfl
      · refine .inr ⟨hx, ?_⟩
        rw [startedBy, he]
        rfl
  | stop => exact .inr ⟨h.stop, rfl⟩
  | deliver queue frames =>
      exact .inr ⟨serve (h.outside (d.nic.inject queue frames) rfl h.device) queue, rfl⟩
  | age t => exact .inr ⟨serveAged (h.tweak (.age t)), rfl⟩
  | ageAll => exact .inr ⟨serveAged (h.tweak .ageAll), rfl⟩
  | event ev =>
      refine .inr ⟨?_, rfl⟩
      rw [Dataplane.act]
      split
      · next he =>
          have ho : ev.isOutside = true :=
            he.resolve_left (by rw [h.stopped]; exact Bool.false_ne_true)
          cases ev with
          | wire nic => exact h.outside nic rfl h.device
          | device x => exact h.tweak x
          | process | poll | drainBatch | evictAged | interfere => cases ho
      · exact h

/-- A data plane is live while it is started, and at rest otherwise. -/
def Kept (s : Settings) (started : Bool) (d : Dataplane) : Prop :=
  d.Live s ∧ started = true ∨ d.Resting s ∧ started = false

theorem Kept.act {started : Bool} (h : Kept s started d) (hc : s.check = .ok ()) (a : Act) :
    Kept s (d.startedBy started a) (d.act a) := by
  rcases h with ⟨h, rfl⟩ | ⟨h, rfl⟩
  · exact h.act a
  · exact h.act hc a

/-- Acts one after the other lead from live to at rest and back. -/
theorem Kept.actAll {started : Bool} (h : Kept s started d) (hc : s.check = .ok ())
    (as : List Act) : Kept s (d.startedAfter started as) (d.actAll as) := by
  induction as generalizing d started with
  | nil => exact h
  | cons a as ih => exact ih (h.act hc a)

/-- A new data plane is at rest. -/
theorem resting_create {settings : Settings} {nic : Nic}
    (h : create settings nic { port := settings.portId } = .ok d) :
    settings.check = .ok () ∧ d.Resting settings := by
  have hb := balanced_create h
  obtain ⟨hc, rfl⟩ := create_eq_ok h
  refine ⟨hc, Tidy.resting ?_ rfl ⟨rfl, rfl, rfl, rfl⟩ rfl rfl⟩
  exact ⟨rfl, rfl, FlowTable.sound_empty _, nofun, hb⟩

/-- **Start and stop leave no residue.**  However often a new data plane is started and stopped,
whatever it has done in between and whichever starts have failed: it runs exactly while it is
started, and a start then is refused and changes nothing.  Any other start succeeds if the device
refuses neither the default rules nor the callback, and fails otherwise.  If it succeeds, the
activities begin with the default rules and nothing else, and serve the packets that have been
waiting, if any.  If it fails, and after every stop, and as long as no start succeeds, the device,
the handoff queue and the table are empty, and all NAT ports are free if evictions give ports
back. -/
theorem no_residue {settings : Settings} {nic : Nic}
    (h : create settings nic { port := settings.portId } = .ok d) (as : List Act) :
    let x := d.actAll as
    let started := d.startedAfter false as
    x.running = started ∧
    (x.start.1 = .error .alreadyRunning ↔ started = true) ∧
    (started = true → x.start.2 = x) ∧
    (x.start.1 = .ok () → x.setUp.Ready settings ∧ x.start.2 = x.setUp.catchUp ∧
      ((∀ queue < settings.rxQueues, x.nic.pending queue = 0) → x.start.2 = x.setUp) ∧
      x.start.2.running = true ∧ x.start.2.device.hasCallback = true) ∧
    (∀ e, x.start.1 = .error e → e ≠ .alreadyRunning → x.start.2.Clean settings) ∧
    x.stop.Clean settings ∧
    (started = false → x.Clean settings ∧ (x.start.1 = .ok () ↔
      x.device.failDefaultRules = false ∧ x.device.failRegister = false)) := by
  intro x started
  obtain ⟨hc, hr⟩ := resting_create h
  have hx : Kept settings started x := Kept.actAll (.inr ⟨hr, rfl⟩) hc as
  generalize started = b at hx ⊢
  generalize x = d' at hx ⊢
  rcases hx with ⟨hx, rfl⟩ | ⟨hx, rfl⟩
  · rw [hx.start]
    refine ⟨hx.running, iff_of_true rfl rfl, fun _ => rfl, nofun, fun e he hn => ?_,
      hx.stop.toClean, nofun⟩
    exact absurd (Except.error.inj he).symm hn
  · rcases hx.start hc with ⟨hf, hg, hs⟩ | ⟨hf, ⟨e, he, hn⟩, hs⟩
    · have hl : d'.setUp.catchUp.Live settings := hx.setUp.catchUp
      rw [hs]
      refine ⟨hx.stopped, iff_of_false nofun nofun, nofun, fun _ => ?_, nofun, hx.stop.toClean,
        fun _ => ⟨hx.toClean, iff_of_true rfl ⟨hf, hg⟩⟩⟩
      exact ⟨hx.ready, rfl, hx.catchUp, hl.running, hl.callback⟩
    · rw [he]
      exact ⟨hx.stopped, iff_of_false (mt Except.error.inj hn) nofun, nofun, nofun,
        fun _ _ _ => hs.toClean, hx.stop.toClean, fun _ => ⟨hx.toClean, iff_of_false nofun hf⟩⟩

/-- A start fails, the next one succeeds, a flow is offloaded and ages, another one is offloaded,
a third one is claimed; and everything is stopped and starts again. -/
def restarts : List Act :=
  [.event (.device (.failRegister true)), .start, .event (.device (.failRegister false)), .start,
    .deliver 0 [Replay.packet (Replay.tcpFlow 1), Replay.packet (Replay.tcpFlow 1)],
    .age (Replay.tcpFlow 1),
    .deliver 0 [Replay.packet (Replay.udpFlow 1), Replay.packet (Replay.udpFlow 1)],
    .event (.process (Replay.packet (Replay.tcpFlow 2))),
    .event (.process (Replay.packet (Replay.tcpFlow 2))), .stop, .start]

theorem no_residue_restarts :
    let x := small.actAll restarts
    let started := small.startedAfter false restarts
    x.running = started ∧
    (x.start.1 = .error .alreadyRunning ↔ started = true) ∧
    (started = true → x.start.2 = x) ∧
    (x.start.1 = .ok () → x.setUp.Ready smallSettings ∧ x.start.2 = x.setUp.catchUp ∧
      ((∀ queue < smallSettings.rxQueues, x.nic.pending queue = 0) → x.start.2 = x.setUp) ∧
      x.start.2.running = true ∧ x.start.2.device.hasCallback = true) ∧
    (∀ e, x.start.1 = .error e → e ≠ .alreadyRunning → x.start.2.Clean smallSettings) ∧
    x.stop.Clean smallSettings ∧
    (started = false → x.Clean smallSettings ∧ (x.start.1 = .ok () ↔
      x.device.failDefaultRules = false ∧ x.device.failRegister = false)) :=
  no_residue create_small restarts

/-- Before the stop two default rules and two of the second flow are installed, and the third flow
waits for its rules; after the last start only the default rules are installed. -/
example :
    let x := small.actAll (restarts.take 9)
    let y := small.actAll restarts
    x.device.ruleCount = 4 ∧ x.handoff.length = 1 ∧ x.table.size = 4 ∧
      y.running ∧ y.device.ruleCount = 2 ∧ y.table.size = 0 := by
  decide +kernel

end Dataplane

end FlowOffload
