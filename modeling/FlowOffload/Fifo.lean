/-!
# Queues — first in, first out

A queue keeps its front as a list in order and its back as a list in reverse, so both ends take
constant time on average, and it knows its size.  Its contents in order are `Fifo.toList`; each
operation is described by what it does to that list.
-/

universe u

namespace FlowOffload

/-- A queue of values, the oldest first. -/
structure Fifo (α : Type u) where
  /-- The oldest values, in order. -/
  front : List α := []
  /-- The newest values, in reverse order. -/
  back : List α := []
  /-- How many values there are. -/
  size : Nat := 0
  /-- The size counts both parts. -/
  size_eq : size = front.length + back.length := by simp

namespace Fifo

variable {α : Type u}

instance : EmptyCollection (Fifo α) := ⟨⟨[], [], 0, rfl⟩⟩

instance : Inhabited (Fifo α) := ⟨∅⟩

/-- The values in order, the oldest first. -/
def toList (q : Fifo α) : List α := q.front ++ q.back.reverse

/-- The queue of the values of a list, the oldest first. -/
def ofList (xs : List α) : Fifo α := { front := xs, size := xs.length }

/-- Adds a value as the newest. -/
def push (q : Fifo α) (x : α) : Fifo α where
  front := q.front
  back := x :: q.back
  size := q.size + 1
  size_eq := by simp [q.size_eq, Nat.add_assoc]

/-- Adds values in order. -/
def pushAll (q : Fifo α) (xs : List α) : Fifo α := xs.foldl push q

/-- Takes the oldest value out. -/
def pop? : Fifo α → Option (α × Fifo α)
  | ⟨x :: xs, back, size, size_eq⟩ =>
    some (x, ⟨xs, back, size - 1, by simp only [List.length_cons] at size_eq; omega⟩)
  | ⟨[], back, _, _⟩ =>
    match back.reverse with
    | x :: xs => some (x, ofList xs)
    | [] => none

/-- The oldest `n` values, or all if there are fewer, and the queue without them. -/
def take (q : Fifo α) (n : Nat) : List α × Fifo α :=
  (q.toList.take n, ofList (q.toList.drop n))

/-! ### The contents in order -/

@[simp] theorem toList_empty : (∅ : Fifo α).toList = [] := rfl

@[simp] theorem toList_ofList (xs : List α) : (ofList xs).toList = xs := by
  simp [toList, ofList]

@[simp] theorem toList_push (q : Fifo α) (x : α) : (q.push x).toList = q.toList ++ [x] := by
  simp [toList, push]

/-- Elements that are pushed come behind those that wait. -/
@[simp] theorem toList_pushAll (q : Fifo α) (xs : List α) :
    (q.pushAll xs).toList = q.toList ++ xs := by
  simp only [pushAll]
  induction xs generalizing q with
  | nil => simp
  | cons x xs ih => simp [ih]

theorem pushAll_append (q : Fifo α) (xs ys : List α) :
    q.pushAll (xs ++ ys) = (q.pushAll xs).pushAll ys :=
  List.foldl_append

/-- Only the empty queue has no contents. -/
theorem eq_empty_of_toList {q : Fifo α} (h : q.toList = []) : q = ∅ := by
  obtain ⟨front, back, size, hs⟩ := q
  obtain ⟨rfl, hb⟩ := List.append_eq_nil_iff.mp h
  obtain rfl := List.reverse_eq_nil_iff.mp hb
  obtain rfl := hs
  rfl

/-- The size of a queue is the number of its elements. -/
theorem length_toList (q : Fifo α) : q.toList.length = q.size := by
  simp [toList, q.size_eq]

/-- Taking from an empty queue yields nothing. -/
theorem pop?_eq_none_iff {q : Fifo α} : q.pop? = none ↔ q.toList = [] := by
  obtain ⟨f, b, n, h⟩ := q
  cases f with
  | cons x xs => simp [pop?, toList]
  | nil =>
    simp only [pop?, toList, List.nil_append]
    split <;> simp_all

/-- What is taken out is the first of the contents, and the rest stays. -/
theorem toList_of_pop? {q r : Fifo α} {x : α} (h : q.pop? = some (x, r)) :
    q.toList = x :: r.toList := by
  obtain ⟨f, b, n, hn⟩ := q
  cases f with
  | cons y ys =>
    simp only [pop?, Option.some.injEq, Prod.mk.injEq] at h
    obtain ⟨rfl, rfl⟩ := h
    simp [toList]
  | nil =>
    simp only [pop?] at h
    split at h
    · next y ys hb =>
      simp only [Option.some.injEq, Prod.mk.injEq] at h
      obtain ⟨rfl, rfl⟩ := h
      simp [toList, hb, ofList]
    · simp at h

end Fifo

end FlowOffload
