import FlowOffload.Proofs.Dataplane.EvictionOrder
import FlowOffload.Proofs.Dataplane.Run

/-!
# The eviction thread — no context is stranded

The eviction thread waits for an event, and then fetches contexts of aged rules, batch by batch,
until a batch comes back short (`EvictionThread.advance`).  Meanwhile rules are installed, destroyed
and age (`EvictionThread.Move`).  The channel between the device and the thread has one slot, so an
event can be lost while another one waits.

Nothing is lost with it.  Whenever contexts are pending, an event waits as well, or the thread is
still to fetch the batch that comes back short; and from every state the thread gets on to one in
which nothing is pending, if it is left alone (`EvictionThread.no_context_stranded`).  Left alone,
it does what an eviction run does (`EvictionThread.run_fetching`).
-/

namespace FlowOffload

namespace FlowDevice

/-- `v'` comes from `v` by what leaves pending contexts and the channel alone, or by an event. -/
structure Signals (v v' : FlowDevice) : Prop where
  port : v'.port = v.port
  event : v'.aged = v.aged ∧ v'.callback = v.callback ∨
    v'.callback = v.callback.map fun w => (w.notify v.port).2

theorem Signals.refl (v : FlowDevice) : v.Signals v := ⟨rfl, .inl ⟨rfl, rfl⟩⟩

/-- Raising the aged event leaves it in the channel, if there is one. -/
theorem signals_raise {v w : FlowDevice} (hp : w.port = v.port) (hc : w.callback = v.callback) :
    v.Signals w.raise := by
  rw [raise, hc]
  cases hv : v.callback with
  | none => exact ⟨hp, .inr (by rw [hc, hv]; rfl)⟩
  | some c => exact ⟨hp, .inr (by rw [hv, hp]; rfl)⟩

/-- A context that is queued when its rule ages is announced by the event. -/
theorem signals_age (v : FlowDevice) (t : FiveTuple) : v.Signals (v.age t).2 := by
  rw [age]
  split
  · exact .refl v
  · split
    · exact .refl v
    · simp only
      split
      · exact ⟨rfl, .inl ⟨rfl, rfl⟩⟩
      · exact signals_raise rfl rfl

theorem signals_ageAll (v : FlowDevice) : v.Signals v.ageAll.2 := by
  simp only [ageAll]
  split
  · exact .refl v
  · exact signals_raise rfl rfl

/-- Whatever happens to a device from outside, no context is queued without the event. -/
theorem signals_tweak (v : FlowDevice) (x : Tweak) : v.Signals (v.tweak x) := by
  cases x with
  | age t => exact v.signals_age t
  | ageAll => exact v.signals_ageAll
  | setCounters t c =>
      rw [tweak, setCounters]
      split <;> exact ⟨rfl, .inl ⟨rfl, rfl⟩⟩
  | failInstall | clearInstallFailures | failQuery | failDestroy | failDefaultRules
  | failRegister => exact ⟨rfl, .inl ⟨rfl, rfl⟩⟩

/-- An installation queues no context. -/
theorem signals_install (v : FlowDevice) (port : PortId) (rule : Rule) :
    v.Signals (v.install port rule).2 := by
  rcases v.install_eq port rule with ⟨_, hv⟩ | ⟨-, -, hv⟩
  · rw [hv]
    exact .refl v
  · rw [hv]
    exact ⟨rfl, .inl ⟨rfl, rfl⟩⟩

theorem signals_scrap (v : FlowDevice) (port : PortId) (h : Handle) :
    v.Signals (v.scrap port h) := by
  obtain ⟨_, _, hv⟩ := v.scrap_eq port h
  rw [hv]
  exact ⟨rfl, .inl ⟨rfl, rfl⟩⟩

end FlowDevice

open Dataplane

/-- Where the eviction thread is. -/
inductive Stage where
  /-- It waits for an event. -/
  | waiting
  /-- It is about to fetch a batch of contexts. -/
  | fetching (port : PortId)
  /-- It has fetched a batch, of which `next` and `rest` are left.  Whether the batch was short is
  known already. -/
  | evicting (port : PortId) (next : FiveTuple) (rest : List FiveTuple) (short : Bool)

namespace Stage

/-- The port whose aged rules the thread is after. -/
def port? : Stage → Option PortId
  | .waiting => none
  | .fetching port | .evicting port _ _ _ => some port

/-- Whether the thread has received an event and has not fetched the short batch yet. -/
def isUnfinished : Stage → Bool
  | .waiting => false
  | .fetching _ => true
  | .evicting _ _ _ short => !short

end Stage

/-- A data plane and its eviction thread. -/
structure EvictionThread where
  /-- The data plane. -/
  plane : Dataplane
  /-- Where the thread is. -/
  stage : Stage := .waiting
  /-- What its current run has come to so far, or its last one. -/
  report : EvictionReport := {}

namespace EvictionThread

variable {x : EvictionThread} {d : Dataplane} {port : PortId} {r : EvictionReport}

/-- The thread takes the event that waits, if any. -/
def receive (x : EvictionThread) : EvictionThread :=
  match x.plane.device.receiveEvent with
  | (none, _) => x
  | (some port, device) =>
    { plane := { x.plane with device }, stage := .fetching port, report := {} }

/-- The thread fetches a batch of contexts. -/
def fetch (x : EvictionThread) (port : PortId) : EvictionThread :=
  let size := x.plane.settings.agedBatchSize.toNat
  match x.plane.device.takeAged port size with
  | .error e =>
    { x with
      stage := .waiting
      report := { x.report with errors := x.report.errors ++ [.agedQuery e] } }
  | .ok ([], device) => { x with plane := { x.plane with device }, stage := .waiting }
  | .ok (t :: ts, device) =>
    { x with
      plane := { x.plane with device }
      stage := .evicting port t ts (decide ((t :: ts).length < size)) }

/-- The thread deals with a context of its batch. -/
def evictNext (x : EvictionThread) (port : PortId) (t : FiveTuple) (ts : List FiveTuple)
    (short : Bool) : EvictionThread :=
  let (report, plane) := x.plane.evictOne port t x.report
  match ts with
  | [] => { plane, report, stage := if short then .waiting else .fetching port }
  | u :: us => { plane, report, stage := .evicting port u us short }

/-- The next step of the thread. -/
def advance (x : EvictionThread) : EvictionThread :=
  match x.stage with
  | .waiting => x.receive
  | .fetching port => x.fetch port
  | .evicting port t ts short => x.evictNext port t ts short

/-- What can happen next. -/
inductive Move where
  /-- The thread takes a step. -/
  | advance
  /-- A rule is installed, or refused. -/
  | install (port : PortId) (rule : Rule)
  /-- A rule is destroyed, or not. -/
  | destroy (port : PortId) (handle : Handle)
  /-- Rules age, or something else happens to the device from outside. -/
  | device (tweak : FlowDevice.Tweak)
  /-- Others change whatever they like in the data plane, but for its device and its settings. -/
  | elsewhere (d : Dataplane)

/-- What a move comes to. -/
def step (x : EvictionThread) : Move → EvictionThread
  | .advance => x.advance
  | .install port rule =>
    { x with plane := { x.plane with device := (x.plane.device.install port rule).2 } }
  | .destroy port handle =>
    { x with plane := { x.plane with device := x.plane.device.scrap port handle } }
  | .device t => { x with plane := { x.plane with device := x.plane.device.tweak t } }
  | .elsewhere d =>
    { x with plane := { d with device := x.plane.device, settings := x.plane.settings } }

/-- What moves come to, one after the other. -/
def run (x : EvictionThread) (ms : List Move) : EvictionThread := ms.foldl step x

/-- The thread takes steps while nothing else happens. -/
def runAlone (x : EvictionThread) : Nat → EvictionThread
  | 0 => x
  | n + 1 => x.advance.runAlone n

/-- The thread may be left alone twice. -/
theorem runAlone_add (x : EvictionThread) (m n : Nat) :
    x.runAlone (m + n) = (x.runAlone m).runAlone n := by
  induction m generalizing x with
  | zero => rw [Nat.zero_add]; rfl
  | succ m ih => rw [Nat.succ_add]; exact ih x.advance

/-! ### Contexts are attended to -/

/-- Evicting a flow leaves pending contexts and the channel alone. -/
theorem quiet_evictOne (d : Dataplane) (port : PortId) (t : FiveTuple) (r : EvictionReport) :
    (d.evictOne port t r).2.device.port = d.device.port ∧
      (d.evictOne port t r).2.device.aged = d.device.aged ∧
      (d.evictOne port t r).2.device.callback = d.device.callback := by
  refine device_evictOne_keeps (P := fun v => v.port = d.device.port ∧ v.aged = d.device.aged ∧
    v.callback = d.device.callback) (fun {v} port h hv => ?_) port t r ⟨rfl, rfl, rfl⟩
  obtain ⟨_, _, hw⟩ := v.scrap_eq port h
  rw [hw]
  exact hv

/-- The channel holds an event for the device's port, or none; the thread is after that port; and if
contexts are pending, an event waits or the thread is to fetch them. -/
structure Attended (x : EvictionThread) : Prop where
  channel : x.plane.device.callback = some {} ∨
    x.plane.device.callback = some { pending := some x.plane.device.port }
  port : ∀ port, x.stage.port? = some port → port = x.plane.device.port
  aged : x.plane.device.aged ≠ [] →
    x.plane.device.callback = some { pending := some x.plane.device.port } ∨
      x.stage.isUnfinished = true
  size : 0 < x.plane.settings.agedBatchSize.toNat

namespace Attended

/-- What happens to the device leaves contexts attended to: those that it brings come with an
event. -/
theorem signals (h : x.Attended) {v : FlowDevice} (hv : x.plane.device.Signals v) :
    Attended { x with plane := { x.plane with device := v } } := by
  obtain ⟨hp, ⟨ha, hc⟩ | hc⟩ := hv
  · refine ⟨?_, ?_, ?_, h.size⟩
    · simp only [hc, hp]
      exact h.channel
    · simp only [hp]
      exact h.port
    · simp only [ha, hc, hp]
      exact h.aged
  · have hn : v.callback = some { pending := some v.port } := by
      rw [hc, hp]
      rcases h.channel with hw | hw
      · rw [hw]
        rfl
      · rw [hw]
        rfl
    refine ⟨.inr hn, ?_, fun _ => .inl hn, h.size⟩
    simp only [hp]
    exact h.port

/-- An event that is received is unfinished work. -/
theorem receive (h : x.Attended) : x.receive.Attended := by
  rcases h.channel with hc | hc
  · rw [EvictionThread.receive, FlowDevice.receiveEvent, hc]
    exact h
  · rw [EvictionThread.receive, FlowDevice.receiveEvent, hc]
    refine ⟨.inl rfl, fun port hp => ?_, fun _ => .inr rfl, h.size⟩
    exact (Option.some.inj hp).symm

/-- A batch that is not short leaves the thread with another one to fetch; after a short one nothing
is pending. -/
theorem fetch (h : x.Attended) (hp : port = x.plane.device.port) : (x.fetch port).Attended := by
  have hs := h.size
  rw [EvictionThread.fetch]
  simp only [FlowDevice.takeAged_of_port hp]
  generalize hn : x.plane.settings.agedBatchSize.toNat = n at hs
  generalize hb : x.plane.device.aged.take n = batch
  have hl : batch.length < n → x.plane.device.aged.drop n = [] := by
    intro hl
    rw [← hb, List.length_take] at hl
    exact List.drop_eq_nil_of_le (by omega)
  cases batch with
  | nil => exact ⟨h.channel, nofun, fun ha => absurd (hl hs) ha, hn ▸ hs⟩
  | cons t ts =>
      refine ⟨h.channel, fun port' hp' => (Option.some.inj hp').symm.trans hp, fun ha => .inr ?_,
        hn ▸ hs⟩
      exact congrArg not (decide_eq_false fun hl' => ha (hl hl'))

/-- A context that has been evicted leaves the rest of the batch. -/
theorem evictNext (h : x.Attended) {t : FiveTuple} {ts : List FiveTuple} {short : Bool}
    (hs : x.stage = .evicting port t ts short) : (x.evictNext port t ts short).Attended := by
  have hv := quiet_evictOne x.plane port t x.report
  generalize hd : (x.plane.evictOne port t x.report).2.device = v at hv
  obtain ⟨hp, ha, hc⟩ := hv
  have hz : 0 < (x.plane.evictOne port t x.report).2.settings.agedBatchSize.toNat := by
    rw [settings_evictOne]
    exact h.size
  have hport : port = v.port := (h.port port (by rw [hs]; rfl)).trans hp.symm
  have hchannel : v.callback = some {} ∨ v.callback = some { pending := some v.port } := by
    rw [hc, hp]
    exact h.channel
  have haged : v.aged ≠ [] → v.callback = some { pending := some v.port } ∨ short = false := by
    rw [ha, hc, hp]
    refine fun hn => (h.aged hn).imp_right fun hu => ?_
    rw [hs] at hu
    exact Bool.not_eq_true' _ ▸ hu
  subst hd
  cases ts with
  | nil =>
      cases short with
      | true => exact ⟨hchannel, nofun, fun hn => (haged hn).imp_right nofun, hz⟩
      | false => exact ⟨hchannel, fun _ hq => (Option.some.inj hq).symm.trans hport,
          fun _ => .inr rfl, hz⟩
  | cons u us =>
      exact ⟨hchannel, fun _ hq => (Option.some.inj hq).symm.trans hport,
        fun hn => (haged hn).imp_right fun hf => by rw [hf]; rfl, hz⟩

theorem advance (h : x.Attended) : x.advance.Attended := by
  rw [EvictionThread.advance]
  split
  · exact h.receive
  · next port hs => exact h.fetch (h.port port (by rw [hs]; rfl))
  · next port t ts short hs => exact h.evictNext hs

/-- **Every move** leaves the thread attended to. -/
theorem step (h : x.Attended) (m : Move) : (x.step m).Attended := by
  cases m with
  | advance => exact h.advance
  | install port rule => exact h.signals (x.plane.device.signals_install port rule)
  | destroy port handle => exact h.signals (x.plane.device.signals_scrap port handle)
  | device t => exact h.signals (x.plane.device.signals_tweak t)
  | elsewhere d => exact ⟨h.channel, h.port, h.aged, h.size⟩

/-- So does a run of moves. -/
theorem run (h : x.Attended) (ms : List Move) : (x.run ms).Attended := by
  induction ms generalizing x with
  | nil => exact h
  | cons m ms ih => exact ih (h.step m)

theorem runAlone (h : x.Attended) (n : Nat) : (x.runAlone n).Attended := by
  induction n generalizing x with
  | zero => exact h
  | succ n ih => exact ih h.advance

end Attended

/-! ### The thread left alone -/

/-- The thread deals with the batch that it has fetched as `evictEach` does. -/
theorem runAlone_evicting (d : Dataplane) (port : PortId) (t : FiveTuple) (ts : List FiveTuple)
    (short : Bool) (r : EvictionReport) :
    runAlone ⟨d, .evicting port t ts short, r⟩ (ts.length + 1) =
      ⟨(d.evictEach port r (t :: ts)).2, if short then .waiting else .fetching port,
        (d.evictEach port r (t :: ts)).1⟩ := by
  induction ts generalizing d t r with
  | nil => simp only [List.length_nil, runAlone, advance, evictNext, evictEach]
  | cons u us ih =>
      rw [List.length_cons, runAlone]
      simp only [advance, evictNext, ih, evictEach]

/-- The batch that the thread fetches is not empty. -/
theorem runAlone_fetching {v : FlowDevice} {t : FiveTuple} {ts : List FiveTuple}
    (hf : d.device.takeAged port d.settings.agedBatchSize.toNat = .ok (t :: ts, v)) :
    runAlone ⟨d, .fetching port, r⟩ (ts.length + 1 + 1) =
      ⟨(evictEach { d with device := v } port r (t :: ts)).2,
        if (t :: ts).length < d.settings.agedBatchSize.toNat then .waiting else .fetching port,
        (evictEach { d with device := v } port r (t :: ts)).1⟩ := by
  have hx : advance ⟨d, .fetching port, r⟩ = ⟨{ d with device := v }, .evicting port t ts
      (decide ((t :: ts).length < d.settings.agedBatchSize.toNat)), r⟩ := by
    simp only [advance, fetch]
    rw [hf]
  rw [runAlone, hx, runAlone_evicting]
  simp only [decide_eq_true_eq]

/-- **Left alone, the thread does what an eviction run does.** -/
theorem run_fetching (d : Dataplane) (port : PortId) (r : EvictionReport) :
    ∃ n, runAlone ⟨d, .fetching port, r⟩ n =
      ⟨(d.evictBatches port r).2, .waiting, (d.evictBatches port r).1⟩ := by
  fun_induction evictBatches d port r with
  | case1 d r size e hf =>
      refine ⟨1, ?_⟩
      simp only [runAlone, advance, fetch]
      rw [hf]
  | case2 d r size batch v hf next hb =>
      cases batch with
      | nil =>
          refine ⟨1, ?_⟩
          simp only [runAlone, advance, fetch]
          rw [hf]
          rfl
      | cons t ts =>
          refine ⟨ts.length + 1 + 1, ?_⟩
          rw [runAlone_fetching hf, if_pos (hb.resolve_right (List.cons_ne_nil t ts))]
  | case3 d r size batch v hf next hb ih =>
      obtain ⟨hl, hn⟩ := not_or.mp hb
      cases batch with
      | nil => exact absurd rfl hn
      | cons t ts =>
          obtain ⟨n, hx⟩ := ih
          refine ⟨ts.length + 1 + 1 + n, ?_⟩
          rw [runAlone_add, runAlone_fetching hf, if_neg hl]
          exact hx

/-- The thread waits, and there is nothing to wait for. -/
structure Idle (x : EvictionThread) : Prop where
  stage : x.stage = .waiting
  aged : x.plane.device.aged = []
  callback : x.plane.device.callback = some {}

/-- An eviction run leaves the callback alone. -/
theorem callback_evictBatches (d : Dataplane) (port : PortId) (r : EvictionReport) :
    (d.evictBatches port r).2.device.callback = d.device.callback :=
  evictBatches_keeps (P := fun x => x.device.callback = d.device.callback) (fun _ h => h)
    (fun t r h => (quiet_evictOne _ _ t r).2.2.trans h) port r rfl

/-- An eviction run on the device's port ends with no context pending. -/
theorem aged_evictBatches (hp : port = d.device.port) (hs : 0 < d.settings.agedBatchSize.toNat)
    (r : EvictionReport) : (d.evictBatches port r).2.device.aged = [] := by
  rw [d.evictBatches_eq port r hp hs, aged_evictEach]
  rfl

/-- A run that no event waits behind leaves nothing to do. -/
theorem idle_of_fetching (hc : x.plane.device.callback = some {}) (hx : x.Attended)
    (hs : x.stage = .fetching port) : ∃ n, (x.runAlone n).Idle := by
  have hp := hx.port port (by rw [hs]; rfl)
  obtain ⟨d, stage, r⟩ := x
  obtain rfl : stage = .fetching port := hs
  obtain ⟨n, hn⟩ := run_fetching d port r
  refine ⟨n, ?_⟩
  rw [hn]
  exact ⟨rfl, aged_evictBatches hp hx.size r, (callback_evictBatches d port r).trans hc⟩

/-- A thread that waits takes the event that waits for it, and goes on until it is idle. -/
theorem idle_of_waiting (hx : x.Attended) (hs : x.stage = .waiting) :
    ∃ n, (x.runAlone n).Idle := by
  rcases hx.channel with hc | hc
  · refine ⟨0, hs, Decidable.byContradiction fun ha => ?_, hc⟩
    rcases hx.aged ha with hw | hu
    · cases hc.symm.trans hw
    · rw [hs] at hu
      cases hu
  · have ha : x.advance.stage = .fetching x.plane.device.port ∧
        x.advance.plane.device.callback = some {} := by
      simp only [advance, hs, receive, FlowDevice.receiveEvent, hc]
      exact ⟨rfl, rfl⟩
    obtain ⟨n, hn⟩ := idle_of_fetching ha.2 hx.advance ha.1
    exact ⟨n + 1, hn⟩

/-- Left alone, the thread waits again at some time. -/
theorem waits_again (x : EvictionThread) : ∃ n, (x.runAlone n).stage = .waiting := by
  have hfetching (d : Dataplane) (port : PortId) (r : EvictionReport) :
      ∃ n, (runAlone ⟨d, .fetching port, r⟩ n).stage = .waiting := by
    obtain ⟨n, hn⟩ := run_fetching d port r
    exact ⟨n, by rw [hn]⟩
  obtain ⟨d, stage, r⟩ := x
  cases stage with
  | waiting => exact ⟨0, rfl⟩
  | fetching port => exact hfetching d port r
  | evicting port t ts short =>
      have hb := runAlone_evicting d port t ts short r
      cases short with
      | true => exact ⟨ts.length + 1, by rw [hb]; rfl⟩
      | false =>
          obtain ⟨n, hn⟩ := hfetching (d.evictEach port r (t :: ts)).2 port
            (d.evictEach port r (t :: ts)).1
          refine ⟨ts.length + 1 + n, ?_⟩
          rw [runAlone_add, hb]
          exact hn

/-- Left alone, the thread gets on to a state in which there is nothing to do. -/
theorem Attended.idle (hx : x.Attended) : ∃ n, (x.runAlone n).Idle := by
  obtain ⟨m, hm⟩ := x.waits_again
  obtain ⟨n, hn⟩ := idle_of_waiting (hx.runAlone m) hm
  refine ⟨m + n, ?_⟩
  rw [runAlone_add]
  exact hn

/-! ### Runs -/

/-- **No context is stranded.**  Let the callback be registered before any rule ages, and let rules
be installed, destroyed and age in any order, before, between and after the steps of the eviction
thread.  Then the channel always takes the device's events.  Whenever contexts are pending, an event
for the device's port waits in it, or the thread has received one and has not fetched the short
batch yet.  And the thread, left alone, gets on to waiting with no context and no event pending. -/
theorem no_context_stranded {x : EvictionThread} (hw : x.stage = .waiting)
    (hc : x.plane.device.callback = some {}) (ha : x.plane.device.aged = [])
    (hs : 1 ≤ x.plane.settings.agedBatchSize.toNat) (ms : List Move) :
    (∃ w, (x.run ms).plane.device.callback = some w ∧ w.isOpen = true ∧
      ((x.run ms).plane.device.aged ≠ [] →
        w.pending = some (x.run ms).plane.device.port ∨ (x.run ms).stage.isUnfinished = true)) ∧
    ∃ n, ((x.run ms).runAlone n).stage = .waiting ∧
      ((x.run ms).runAlone n).plane.device.aged = [] ∧
      ((x.run ms).runAlone n).plane.device.callback = some {} := by
  have hx : x.Attended :=
    ⟨.inl hc, by rw [hw]; exact nofun, fun hn => absurd ha hn, hs⟩
  have hr := hx.run ms
  generalize x.run ms = y at hr
  refine ⟨?_, ?_⟩
  · rcases hr.channel with hc | hc
    · refine ⟨_, hc, rfl, fun hn => (hr.aged hn).imp_left fun h => ?_⟩
      cases hc.symm.trans h
    · exact ⟨_, hc, rfl, fun _ => .inl rfl⟩
  · obtain ⟨n, hn⟩ := hr.idle
    exact ⟨n, hn.stage, hn.aged, hn.callback⟩

/-- A small data plane with one flow offloaded and a callback registered. -/
def served : EvictionThread :=
  let d := small.run [.process (Replay.packet (Replay.tcpFlow 1)),
    .process (Replay.packet (Replay.tcpFlow 1)), .drainBatch]
  { plane := { d with device := { d.device with callback := some {} } } }

/-- The rule of one direction ages, and the thread receives the event and fetches a batch that is
short.  Then the rule of the other direction ages. -/
def lateMoves : List Move :=
  [.device (.age (Replay.tcpFlow 1)), .advance, .advance,
    .device (.age (Replay.tcpFlow 1).reverse)]

theorem no_context_stranded_late :
    (∃ w, (served.run lateMoves).plane.device.callback = some w ∧ w.isOpen = true ∧
      ((served.run lateMoves).plane.device.aged ≠ [] →
        w.pending = some (served.run lateMoves).plane.device.port ∨
          (served.run lateMoves).stage.isUnfinished = true)) ∧
    ∃ n, ((served.run lateMoves).runAlone n).stage = .waiting ∧
      ((served.run lateMoves).runAlone n).plane.device.aged = [] ∧
      ((served.run lateMoves).runAlone n).plane.device.callback = some {} :=
  no_context_stranded rfl rfl (by decide +kernel) (by decide +kernel) lateMoves

end EvictionThread

end FlowOffload
