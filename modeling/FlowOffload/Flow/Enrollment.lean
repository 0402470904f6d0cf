import FlowOffload.Flow.Table

/-!
# Enrolling — how room is taken and given back

The number of stored entries is shared by all workers, so it is changed in place: room is taken
before anything is stored, and whoever then fails gives it back.  A pair whose second entry finds
its tuple taken also takes its first entry out again.  An entry that was taken out before anybody
else could see it leaves no trace.

* `FlowTable.enroll`: one entry.
* `FlowTable.enrollPair`: both directions of a flow.
* `FlowTable.removeEach`: several tuples, one after the other.
-/

namespace FlowOffload.FlowTable

/-- Gives room for `n` entries back. -/
def unreserve (t : FlowTable) (n : Nat) : FlowTable := { t with count := t.count - n }

/-- Takes room for `n` more entries, and gives it back if that is more than there is; the answer
tells whether it was kept. -/
def tryReserve (t : FlowTable) (n : Nat) : Bool × FlowTable :=
  let u := { t with count := t.count + n }
  if t.capacity < u.count then (false, u.unreserve n) else (true, u)

/-- Stores an entry under its tuple, if nothing is stored there. -/
def place (t : FlowTable) (e : Entry) : Except TableError EntryId × FlowTable :=
  if t.index.contains e.tuple then (.error .alreadyExists, t)
  else (.ok t.arena.size,
    { t with index := t.index.insert e.tuple t.arena.size, arena := t.arena.push e })

/-- Takes the latest entry out again, if it is the one stored under its tuple. -/
def retract (t : FlowTable) (i : EntryId) : FlowTable :=
  match t.entry? i with
  | none => t
  | some e =>
    if t.lookup e.tuple = some i then
      { t with index := t.index.erase e.tuple, arena := t.arena.pop }
    else t

/-- Stores one entry under its tuple. -/
def enroll (t : FlowTable) (e : Entry) : Except TableError EntryId × FlowTable :=
  match t.tryReserve 1 with
  | (false, t) => (.error .tableFull, t)
  | (true, t) =>
    match t.place e with
    | (.error err, t) => (.error err, t.unreserve 1)
    | (.ok i, t) => (.ok i, t)

/-- Stores two entries for which room was taken, or none. -/
def placeBoth (t : FlowTable) (a b : Entry) : Except TableError (EntryId × EntryId) × FlowTable :=
  match t.place a with
  | (.error err, t) => (.error err, t.unreserve 2)
  | (.ok i, t) =>
    match t.place b with
    | (.error err, t) => (.error err, (t.retract i).unreserve 2)
    | (.ok j, t) => (.ok (i, j), t)

/-- Stores two entries, or none, the lower tuple first.  The identities are in the order of the
arguments. -/
def enrollPair (t : FlowTable) (a b : Entry) :
    Except TableError (EntryId × EntryId) × FlowTable :=
  match t.tryReserve 2 with
  | (false, t) => (.error .tableFull, t)
  | (true, t) =>
    if b.tuple < a.tuple then
      let (ids, t) := t.placeBoth b a
      (ids.map Prod.swap, t)
    else t.placeBoth a b

/-- Removes what is stored under each of some tuples; the answer holds what was stored. -/
def removeEach (t : FlowTable) : List FiveTuple → List EntryId × FlowTable
  | [] => ([], t)
  | k :: ks =>
    let (i, t) := t.remove k
    let (is, t) := t.removeEach ks
    (i.toList ++ is, t)

end FlowOffload.FlowTable
