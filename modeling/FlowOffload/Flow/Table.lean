import FlowOffload.FiniteMap
import FlowOffload.Flow.Entry

/-!
# The flow table — entries found by their tuple

Every entry that is ever stored gets an identity of its own, its place in the table's *arena*.  The
arena only grows; the *index* says which entry is currently stored under which tuple.  An entry that
has left the table can still be read and changed through its identity by whoever kept it, but it
cannot be found, and a later entry under the same tuple has another identity.

The table holds at most `capacity` entries.  It keeps their number beside the index, so that the
bound is checked without walking over the index.

* `FlowTable.insertPair`: both directions of a flow go in, or neither does.
* `FlowTable.removeExact`: an entry leaves only if it is the one that is stored.
-/

namespace FlowOffload

/-- The identity of an entry: its place in the arena. -/
abbrev EntryId := Nat

/-- Why an entry was not stored. -/
inductive TableError where
  /-- An entry is stored under the tuple already. -/
  | alreadyExists
  /-- There is no room. -/
  | tableFull
deriving DecidableEq

/-- The wording of a table error. -/
def TableError.message : TableError → String
  | .alreadyExists => "flow already exists"
  | .tableFull => "flow table is full"

/-- The entries of all tracked flows. -/
structure FlowTable where
  /-- How many entries may be stored. -/
  capacity : Nat
  /-- The identity of the entry stored under each tuple. -/
  index : FiniteMap FiveTuple EntryId := ∅
  /-- How many entries are stored. -/
  count : Nat := 0
  /-- Every entry ever stored, at its identity. -/
  arena : Array Entry := #[]

namespace FlowTable

/-- An empty table for at most `capacity` entries. -/
def empty (capacity : Nat) : FlowTable := { capacity }

/-- The entry with an identity, stored or not. -/
def entry? (t : FlowTable) (i : EntryId) : Option Entry := t.arena[i]?

/-- Changes the entry with an identity, stored or not. -/
def modify (t : FlowTable) (i : EntryId) (f : Entry → Entry) : FlowTable :=
  { t with arena := t.arena.modify i f }

/-- The identity of the entry stored under a tuple. -/
def lookup (t : FlowTable) (tuple : FiveTuple) : Option EntryId := t.index.get? tuple

/-- The identity of the entry stored under the reverse of an entry's tuple. -/
def peerOf (t : FlowTable) (i : EntryId) : Option EntryId :=
  (t.entry? i).bind fun e => t.lookup e.peer

/-- Stores an entry under its tuple, whatever the room. -/
def store (t : FlowTable) (e : Entry) : Except TableError (FlowTable × EntryId) :=
  if t.index.contains e.tuple then .error .alreadyExists
  else .ok ({ t with index := t.index.insert e.tuple t.arena.size, arena := t.arena.push e },
    t.arena.size)

/-- Makes room for `n` more entries. -/
def reserve (t : FlowTable) (n : Nat) : Except TableError FlowTable :=
  if t.capacity < t.count + n then .error .tableFull else .ok { t with count := t.count + n }

/-- Stores one entry under its tuple. -/
def insert (t : FlowTable) (e : Entry) : Except TableError (FlowTable × EntryId) := do
  let t ← t.reserve 1
  t.store e

/-- Stores two entries, or none.  The lower tuple goes first, so that two workers who see the same
flow from opposite ends meet at the same tuple.  The identities are in the order of the
arguments. -/
def insertPair (t : FlowTable) (a b : Entry) :
    Except TableError (FlowTable × EntryId × EntryId) := do
  let t ← t.reserve 2
  if b.tuple < a.tuple then
    let (t, j) ← t.store b
    let (t, i) ← t.store a
    return (t, i, j)
  else
    let (t, i) ← t.store a
    let (t, j) ← t.store b
    return (t, i, j)

/-- Removes what is stored under a tuple. -/
def remove (t : FlowTable) (tuple : FiveTuple) : Option EntryId × FlowTable :=
  match t.lookup tuple with
  | none => (none, t)
  | some i => (some i, { t with index := t.index.erase tuple, count := t.count - 1 })

/-- Removes an entry if it is the one stored under its tuple; the answer tells whether it was. -/
def removeExact (t : FlowTable) (i : EntryId) : Bool × FlowTable :=
  match t.entry? i with
  | none => (false, t)
  | some e =>
    if t.lookup e.tuple = some i then
      (true, { t with index := t.index.erase e.tuple, count := t.count - 1 })
    else (false, t)

/-- The tuples with the identities stored under them, in the order of tuples. -/
def toList (t : FlowTable) : List (FiveTuple × EntryId) :=
  t.index.pairs.mergeSort fun p q => p.1 ≤ q.1

/-- Removes everything; the answer holds what was stored, in the order of tuples. -/
def drain (t : FlowTable) : List EntryId × FlowTable :=
  (t.toList.map Prod.snd, { t with index := ∅, count := t.count - t.index.size })

/-- How many entries are stored. -/
def size (t : FlowTable) : Nat := t.count

/-- Whether nothing is stored. -/
def isEmpty (t : FlowTable) : Bool := t.size = 0

end FlowTable

end FlowOffload
