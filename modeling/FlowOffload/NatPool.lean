import FlowOffload.Fifo

/-!
# NAT ports — the ports that new flows are sent on to

The pool starts with a range of ports in ascending order and hands them out oldest first.  A port
that comes back joins the end of the queue, so it is used again as late as possible.  A pool that
has run out hands out nothing, and the caller goes on without a port.

A return is refused when the port is outside the range or when no port is missing.  The pool does
not know which ports are out: that is for its callers to keep straight.
-/

namespace FlowOffload

/-- The free ports of a range. -/
structure NatPool where
  /-- The lowest port of the range. -/
  base : Nat
  /-- How many ports the range has. -/
  size : Nat
  /-- The ports that are free, the next one first. -/
  free : Fifo UInt16

namespace NatPool

/-- The highest port number. -/
def lastPort : Nat := 65535

/-- The ports `base, base + 1, …` of a range of `size` ports. -/
def range (base size : Nat) : List UInt16 := (List.range size).map fun i => UInt16.ofNat (base + i)

/-- A pool of `size` ports from `base` on, all free.  A range that reaches beyond the last port is
cut off there. -/
def ofRange (base : UInt16) (size : Nat) : NatPool :=
  let size := min (base.toNat + size) (lastPort + 1) - base.toNat
  { base := base.toNat, size, free := .ofList (range base.toNat size) }

/-- How many ports are free. -/
def available (pool : NatPool) : Nat := pool.free.size

/-- Whether a port belongs to the range. -/
def Covers (pool : NatPool) (port : UInt16) : Prop :=
  pool.base ≤ port.toNat ∧ port.toNat < pool.base + pool.size

instance (pool : NatPool) (port : UInt16) : Decidable (pool.Covers port) :=
  inferInstanceAs (Decidable (_ ∧ _))

/-- Hands out the port that has been free the longest. -/
def acquire (pool : NatPool) : Option UInt16 × NatPool :=
  match pool.free.pop? with
  | some (port, free) => (some port, { pool with free })
  | none => (none, pool)

/-- Takes a port back; the answer tells whether it was accepted. -/
def release (pool : NatPool) (port : UInt16) : Bool × NatPool :=
  if pool.Covers port ∧ pool.available < pool.size then
    (true, { pool with free := pool.free.push port })
  else (false, pool)

/-- Takes several ports back. -/
def releaseAll (pool : NatPool) (ports : List UInt16) : NatPool :=
  ports.foldl (fun pool port => (pool.release port).2) pool

end NatPool

end FlowOffload
