/-!
# General facts — attempts, words, lists and arrays

Attempts that can fail are made one after the other; the first failure is the failure of all.  A
machine word that is not full counts on like a number.  An element of an array that is changed twice
is changed once, by both changes.
-/

/-! ### Attempts in a row -/

namespace Except

variable {ε α β : Type}

/-- Two attempts in a row succeed only if each does. -/
theorem of_bind_eq_ok {x : Except ε α} {f : α → Except ε β} {b : β} (h : x >>= f = .ok b) :
    ∃ a, x = .ok a ∧ f a = .ok b := by
  cases x with
  | error _ => cases h
  | ok a => exact ⟨a, rfl, h⟩

/-- What comes after a success is all that is left to try. -/
theorem ok_bind (a : α) (f : α → Except ε β) : (Except.ok a >>= f) = f a := rfl

end Except

/-! ### Words -/

namespace UInt64

/-- A counter that is not full goes on by one. -/
theorem toNat_add_one {n : UInt64} (h : n.toNat + 1 < size) : (n + 1).toNat = n.toNat + 1 := by
  rw [UInt64.toNat_add]
  exact Nat.mod_eq_of_lt h

end UInt64

/-! ### Lists and arrays -/

/-- What the first element contributes comes first. -/
theorem List.filterMap_cons_toList {α β : Type} (f : α → Option β) (x : α) (l : List α) :
    (x :: l).filterMap f = (f x).toList ++ l.filterMap f := by
  rw [List.filterMap_cons]
  cases f x <;> rfl

namespace Array

variable {α : Type}

/-- Changing an element twice is changing it once. -/
theorem modify_modify (xs : Array α) (i : Nat) (f g : α → α) :
    (xs.modify i f).modify i g = xs.modify i (g ∘ f) := by
  rw [← Array.toList_inj]
  simp only [Array.toList_modify, List.modify_modify_eq]

/-- A change that leaves the element in question as it is changes nothing. -/
theorem modify_eq_self {xs : Array α} {i : Nat} {f : α → α} (h : ∀ x, xs[i]? = some x → f x = x) :
    xs.modify i f = xs := by
  refine Array.ext_getElem? fun j => ?_
  rw [Array.getElem?_modify]
  split
  · next hj =>
      subst hj
      cases hx : xs[i]? with
      | none => rfl
      | some x => exact congrArg some (h x hx)
  · rfl

end Array
