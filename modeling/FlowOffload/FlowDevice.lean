import FlowOffload.FiniteMap
import FlowOffload.Wakeup

/-!
# The flow device — a simulated engine that keeps rules

The device serves one NIC port.  It keeps its rules by handle, and those for single tuples also by
tuple, at most one for each.  Handles are given out in ascending order and never again.  A rule with
an age action that has matched no packet for long enough is *aged*: its context is queued for
whoever asks, once, and the registered callback hears of it.

Single operations can be made to fail, to show what the rest of the system does then.  An operation
that fails leaves the device as it was.
-/

namespace FlowOffload

/-- What a rule has counted. -/
structure RuleCounters where
  /-- Matching packets. -/
  hits : UInt64 := 0
  /-- Their bytes. -/
  bytes : UInt64 := 0
deriving DecidableEq, Inhabited

/-- A rule in the device. -/
structure InstalledRule where
  /-- The rule itself. -/
  rule : Rule
  /-- What it has counted. -/
  counters : RuleCounters := {}
  /-- Whether it has been reported as aged. -/
  aged : Bool := false
deriving DecidableEq

/-- The state of the device. -/
structure FlowDevice where
  /-- The port it serves. -/
  port : PortId
  /-- The handle given out last, exact for fewer than `2 ^ 64` installations. -/
  lastHandle : Handle := 0
  /-- The installed rules. -/
  rules : FiniteMap Handle InstalledRule := ∅
  /-- The handle of each tuple's rule. -/
  byTuple : FiniteMap FiveTuple Handle := ∅
  /-- Contexts of aged rules that nobody has asked for yet, the oldest first. -/
  aged : List FiveTuple := []
  /-- How many rules were installed since the beginning.  It stands for a word of 64 bits, too, and
  is exact for fewer than `2 ^ 64` installations. -/
  installs : Nat := 0
  /-- Tuples whose rules are refused. -/
  failInstall : List FiveTuple := []
  /-- Tuples whose counters cannot be read. -/
  failQuery : List FiveTuple := []
  /-- Tuples whose rules cannot be destroyed. -/
  failDestroy : List FiveTuple := []
  /-- Whether rules for all IPv4 packets are refused. -/
  failDefaultRules : Bool := false
  /-- Whether callbacks are refused. -/
  failRegister : Bool := false
  /-- The channel of the registered callback. -/
  callback : Option Wakeup := none
  /-- The ports the callback was called with, the oldest first. -/
  raised : List PortId := []

namespace DeviceError

/-- The device serves another port. -/
def noSuchPort (port : PortId) : DeviceError := ⟨-2, "no such port " ++ toString port.toNat⟩

/-- No rule has the handle. -/
def ruleNotFound : DeviceError := ⟨-2, "flow not found"⟩

/-- There is no room for the rule. -/
def hardwareFull : DeviceError := ⟨-5, "hardware flow table full"⟩

/-- The tuple has a rule already. -/
def ruleExists : DeviceError := ⟨-17, "flow rule already exists"⟩

/-- The device cannot do what the rule asks for. -/
def actionUnsupported : DeviceError := ⟨-95, "action not supported"⟩

/-- The counters could not be read. -/
def queryFailed : DeviceError := ⟨-5, "counter query failed"⟩

/-- The rule could not be destroyed. -/
def destroyFailed : DeviceError := ⟨-5, "rule destroy failed"⟩

/-- The device raises no aged events. -/
def agedEventUnsupported : DeviceError := ⟨-95, "aged event not supported"⟩

end DeviceError

namespace FlowDevice

/-- Refuses operations on a port that the device does not serve. -/
def checkPort (d : FlowDevice) (port : PortId) : Except DeviceError Unit :=
  if port = d.port then .ok () else .error (.noSuchPort port)

/-! ### Rules -/

/-- The reason why the device refuses a rule with a pattern. -/
def refusal? (d : FlowDevice) : Pattern → Option DeviceError
  | .exact t =>
    if t ∈ d.failInstall then some .hardwareFull
    else if d.byTuple.contains t then some .ruleExists
    else none
  | .anyIpv4 => if d.failDefaultRules then some .actionUnsupported else none

/-- Installs a rule that is not refused, under the next handle. -/
def add (d : FlowDevice) (rule : Rule) : FlowDevice :=
  { d with
    lastHandle := d.lastHandle + 1
    installs := d.installs + 1
    rules := d.rules.insert (d.lastHandle + 1) { rule }
    byTuple := match rule.pattern with
      | .exact t => d.byTuple.insert t (d.lastHandle + 1)
      | .anyIpv4 => d.byTuple }

/-- Installs a rule and answers its handle. -/
def install (d : FlowDevice) (port : PortId) (rule : Rule) :
    Except DeviceError Handle × FlowDevice :=
  match d.checkPort port with
  | .error e => (.error e, d)
  | .ok () =>
    match d.refusal? rule.pattern with
    | some e => (.error e, d)
    | none => (.ok (d.lastHandle + 1), d.add rule)

/-- What a rule has counted. -/
def query (d : FlowDevice) (port : PortId) (handle : Handle) : Except DeviceError RuleCounters := do
  d.checkPort port
  match d.rules.get? handle with
  | none => .error .ruleNotFound
  | some r =>
    if r.rule.pattern.tuple?.any (· ∈ d.failQuery) then .error .queryFailed else .ok r.counters

/-- Destroys a rule. -/
def destroy (d : FlowDevice) (port : PortId) (handle : Handle) : Except DeviceError FlowDevice := do
  d.checkPort port
  match d.rules.get? handle with
  | none => .error .ruleNotFound
  | some r =>
    match r.rule.pattern with
    | .anyIpv4 => .ok { d with rules := d.rules.erase handle }
    | .exact t =>
      if t ∈ d.failDestroy then .error .destroyFailed
      else .ok { d with rules := d.rules.erase handle, byTuple := d.byTuple.erase t }

/-- Destroys every rule and forgets every aged context. -/
def flush (d : FlowDevice) (port : PortId) : Except DeviceError FlowDevice := do
  d.checkPort port
  .ok { d with rules := ∅, byTuple := ∅, aged := [] }

/-- The handle and the state of a tuple's rule. -/
def ruleOf? (d : FlowDevice) (t : FiveTuple) : Option (Handle × InstalledRule) := do
  let handle ← d.byTuple.get? t
  let r ← d.rules.get? handle
  return (handle, r)

/-- The rule of a tuple. -/
def ruleFor (d : FlowDevice) (t : FiveTuple) : Option Rule := (d.ruleOf? t).map fun p => p.2.rule

/-- How many rules are installed. -/
def ruleCount (d : FlowDevice) : Nat := d.rules.size

/-- Sets what a tuple's rule has counted; the answer tells whether it has a rule. -/
def setCounters (d : FlowDevice) (t : FiveTuple) (counters : RuleCounters) : Bool × FlowDevice :=
  match d.ruleOf? t with
  | none => (false, d)
  | some (handle, _) =>
    (true, { d with rules := d.rules.modify handle fun r => { r with counters } })

/-! ### Aging -/

/-- Calls the registered callback. -/
def raise (d : FlowDevice) : FlowDevice :=
  match d.callback with
  | none => d
  | some w => { d with callback := some (w.notify d.port).2, raised := d.raised ++ [d.port] }

/-- Marks a tuple's rule as aged; if it has an age action, queues its context and raises the aged
event.  The answer tells whether a context was queued. -/
def age (d : FlowDevice) (t : FiveTuple) : Bool × FlowDevice :=
  match d.ruleOf? t with
  | none => (false, d)
  | some (handle, r) =>
    if r.aged then (false, d)
    else
      let d := { d with rules := d.rules.modify handle fun r => { r with aged := true } }
      match r.rule.ageContext with
      | none => (false, d)
      | some context => (true, raise { d with aged := d.aged ++ [context] })

/-- The contexts of the rules that could age, in the order of tuples. -/
def ageable (d : FlowDevice) : List FiveTuple :=
  (d.rules.pairs.filterMap fun p => if p.2.aged then none else p.2.rule.ageContext).mergeSort
    fun t u => t ≤ u

/-- Ages every rule with an age action and raises the aged event if there was one.  The answer is
the number of contexts that were queued. -/
def ageAll (d : FlowDevice) : Nat × FlowDevice :=
  let contexts := d.ageable
  if contexts = [] then (0, d)
  else
    (contexts.length, raise { d with
      rules := d.rules.mapValues fun r => { r with aged := r.aged || r.rule.ageContext.isSome }
      aged := d.aged ++ contexts })

/-- Takes up to `max` contexts of aged rules, the oldest first. -/
def takeAged (d : FlowDevice) (port : PortId) (max : Nat) :
    Except DeviceError (List FiveTuple × FlowDevice) := do
  d.checkPort port
  .ok (d.aged.take max, { d with aged := d.aged.drop max })

/-! ### Callbacks -/

/-- Registers a callback with a new channel in place of the one before. -/
def register (d : FlowDevice) (port : PortId) : Except DeviceError FlowDevice := do
  d.checkPort port
  if d.failRegister then .error .agedEventUnsupported else .ok { d with callback := some {} }

/-- Removes the callback. -/
def unregister (d : FlowDevice) : FlowDevice := { d with callback := none }

/-- Whether a callback is registered. -/
def hasCallback (d : FlowDevice) : Bool := d.callback.isSome

/-- Takes the event that waits in the callback's channel. -/
def receiveEvent (d : FlowDevice) : Option PortId × FlowDevice :=
  match d.callback with
  | none => (none, d)
  | some w => (w.receive.1, { d with callback := some w.receive.2 })

end FlowDevice

end FlowOffload
