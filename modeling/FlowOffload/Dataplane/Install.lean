import FlowOffload.Dataplane.Receive

/-!
# Installing — from the handoff queue into the device

The engine takes claimed entries from the handoff queue and installs a rule for each and one for its
peer.  Either both directions end up offloaded, or neither does: whatever was installed for one is
destroyed again when the other cannot follow, be it because the device refuses its rule or because
another worker has withdrawn a claim in the meantime.

* `Dataplane.offloadPair`: one entry and its peer.
* `Dataplane.drainBatch`: up to a batch of the handoff queue.
* `Dataplane.installDefaults`: the rules the device starts with.
-/

namespace FlowOffload

/-- One of the two directions of a pair. -/
inductive Direction where
  /-- The direction that was queued. -/
  | forward
  /-- The opposite one. -/
  | peer
deriving DecidableEq

/-- A direction in words. -/
def Direction.name : Direction → String
  | .forward => "forward"
  | .peer => "peer"

/-- Why a pair was not offloaded. -/
inductive OffloadError where
  /-- The opposite direction is not tracked any more. -/
  | peerMissing (tuple : FiveTuple)
  /-- The device refused a rule. -/
  | install (direction : Direction) (tuple : FiveTuple) (error : DeviceError)
  /-- A claim was withdrawn while the rules were being installed. -/
  | claimLost (tuple : FiveTuple)
deriving DecidableEq

/-- The wording of an offload error. -/
def OffloadError.message : OffloadError → String
  | .peerMissing t => "peer flow " ++ t.render ++ " not found"
  | .install d t e =>
    "failed to create " ++ d.name ++ " flow rule for " ++ t.render ++ ": " ++ e.message
  | .claimLost t => "offload claim on " ++ t.render ++ " withdrawn during install"

/-- What an attempt came to that met no error. -/
inductive OffloadOutcome where
  /-- Both directions have their rules. -/
  | installed
  /-- There was nothing to do. -/
  | skipped
deriving DecidableEq

namespace Dataplane

/-- The result of an attempt to offload a pair. -/
abbrev OffloadResult := Except OffloadError OffloadOutcome

/-- Installs the rule of one direction. -/
def installEntry (d : Dataplane) (e : Entry) : Except DeviceError Handle × Dataplane :=
  match Rule.offload? e d.settings.flowIdleTimeoutSecs d.settings.hairpinQueue with
  | .error err => (.error err, d)
  | .ok rule => d.installRule rule

/-- Takes an entry's rule away from it and destroys it in the device. -/
def dropRule (d : Dataplane) (i : EntryId) : Dataplane :=
  match (d.entry? i).bind Entry.rule with
  | none => d
  | some handle => (d.modify i fun e => { e with rule := none }).destroyRule handle

/-- Counts a failed attempt. -/
def fail (d : Dataplane) : Dataplane :=
  d.tally fun c => { c with offloadFailed := c.offloadFailed + 1 }

/-- Ends an attempt whose rules are both installed: both directions finish, or the rules go. -/
def finishPair (d : Dataplane) (i j : EntryId) (e p : Entry) : OffloadResult × Dataplane :=
  match d.transition j .finish with
  | (false, d) =>
    (.error (.claimLost p.tuple), ((d.dropRule i).dropRule j |>.change i .revert).fail)
  | (true, d) =>
    match d.transition i .finish with
    | (false, d) =>
      (.error (.claimLost e.tuple), ((d.dropRule i).dropRule j |>.change j .withdraw).fail)
    | (true, d) =>
      (.ok .installed,
        { d with latency := d.latency.record d.installMicros }.tally fun c =>
          { c with offloadInstalled := c.offloadInstalled + 1 })

/-- Gives both claims of a pair up. -/
def revertPair (d : Dataplane) (i j : EntryId) : Dataplane :=
  (d.change i .revert).change j .revert

/-- Installs the rules of a pair whose directions are both claimed. -/
def installPair (d : Dataplane) (i j : EntryId) (e p : Entry) : OffloadResult × Dataplane :=
  match d.installEntry e with
  | (.error err, d) => (.error (.install .forward e.tuple err), (d.revertPair i j).fail)
  | (.ok forward, d) =>
    match d.installEntry p with
    | (.error err, d) =>
      (.error (.install .peer p.tuple err), ((d.destroyRule forward).revertPair i j).fail)
    | (.ok back, d) =>
      let d := d.modify i fun e => { e with rule := some forward }
      let d := d.modify j fun e => { e with rule := some back }
      d.finishPair i j e p

/-- Offloads an entry and its peer.  Nothing is to be done if the entry is not claimed any more or
the peer is offloaded already. -/
def offloadPair (d : Dataplane) (i : EntryId) : OffloadResult × Dataplane :=
  match d.entry? i with
  | none => (.ok .skipped, d)
  | some e =>
    if e.status ≠ .offloading then (.ok .skipped, d)
    else
      match d.table.lookup e.peer with
      | none => (.error (.peerMissing e.peer), (d.change i .revert).fail)
      | some j =>
        match d.entry? j with
        | none => (.error (.peerMissing e.peer), (d.change i .revert).fail)
        | some p =>
          if p.status = .offloaded then (.ok .skipped, d.change i .revert)
          else (d.change j .claim).installPair i j e p

/-- Offloads entries one after the other, whatever becomes of each. -/
def offloadEach (d : Dataplane) : List EntryId → Dataplane
  | [] => d
  | i :: is => (d.offloadPair i).2.offloadEach is

/-- Takes up to one batch from the handoff queue and offloads it.  The answer is the number of
entries taken. -/
def drainBatch (d : Dataplane) : Nat × Dataplane :=
  let batch := d.handoff.take d.settings.engineBatchSize.toNat
  (batch.length, { d with handoff := d.handoff.drop batch.length }.offloadEach batch)

/-- Offloads everything on the handoff queue. -/
def drainHandoff (d : Dataplane) : Dataplane := { d with handoff := [] }.offloadEach d.handoff

/-- Installs the two rules the device starts with, or neither. -/
def installDefaults (d : Dataplane) : Except SetupError (Handle × Handle) × Dataplane :=
  match d.installRule .jump with
  | (.error e, d) => (.error (.defaultRule e), d)
  | (.ok jump, d) =>
    match d.installRule (.spread d.settings.rxQueues) with
    | (.error e, d) => (.error (.defaultRule e), d.destroyRule jump)
    | (.ok spread, d) => (.ok (jump, spread), d)

end Dataplane

end FlowOffload
