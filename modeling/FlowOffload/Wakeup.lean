import FlowOffload.Rule

/-!
# Wake-ups — from the device's aged event to an eviction run

The device raises its aged event where nothing may block.  The handler only leaves the port's
number in a channel with one slot; while the slot is taken, further events change nothing, because
the run that the waiting one starts sees every aged rule.  Once the receiving side is gone, events
are refused.
-/

namespace FlowOffload

/-- The channel between the device's aged event and the eviction run. -/
structure Wakeup where
  /-- The port whose event waits. -/
  pending : Option PortId := none
  /-- Whether someone still receives. -/
  isOpen : Bool := true
deriving DecidableEq, Inhabited

/-- What becomes of an event. -/
inductive Notified where
  /-- It waits to be received. -/
  | scheduled
  /-- Another one waits already. -/
  | absorbed
  /-- Nobody receives. -/
  | closed
deriving DecidableEq

namespace Wakeup

/-- Leaves an event for a port. -/
def notify (w : Wakeup) (port : PortId) : Notified × Wakeup :=
  if ¬ w.isOpen then (.closed, w)
  else match w.pending with
    | some _ => (.absorbed, w)
    | none => (.scheduled, { w with pending := some port })

/-- Takes the event that waits. -/
def receive (w : Wakeup) : Option PortId × Wakeup := (w.pending, { w with pending := none })

/-- Ends the receiving side; an event that waits is lost. -/
def close (_ : Wakeup) : Wakeup := { pending := none, isOpen := false }

end Wakeup

end FlowOffload
