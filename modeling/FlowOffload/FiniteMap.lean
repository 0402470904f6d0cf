/-!
# Finite maps — a list of pairs with distinct keys

A small map as a list of key-value pairs, the most recently inserted first.  No key occurs twice;
the type carries that fact, so walking over the pairs and looking keys up always agree.

* `FiniteMap.get?_insert`, `get?_erase`, `get?_modify`, `get?_mapValues`: what each operation
  does to every look-up.
* `FiniteMap.mem_pairs_iff`: a pair is listed exactly when looking up its key finds its value.
* `FiniteMap.erase_insert`: forgetting a new key undoes its insertion.
-/

universe u v

namespace FlowOffload

/-- A finite map from `α` to `β`. -/
structure FiniteMap (α : Type u) (β : Type v) where
  /-- The keys with their values, the most recently inserted first. -/
  pairs : List (α × β) := []
  /-- No key occurs twice. -/
  keys_nodup : (pairs.map Prod.fst).Nodup := by exact List.nodup_nil

namespace FiniteMap

variable {α : Type u} {β : Type v} [DecidableEq α]

instance : EmptyCollection (FiniteMap α β) := ⟨{ pairs := [] }⟩

instance : Inhabited (FiniteMap α β) := ⟨∅⟩

/-- The value a key is mapped to. -/
def get? (m : FiniteMap α β) (k : α) : Option β := m.pairs.lookup k

/-- Whether a key is mapped to a value. -/
def contains (m : FiniteMap α β) (k : α) : Bool := (m.get? k).isSome

omit [DecidableEq α] in
/-- The number of keys. -/
def size (m : FiniteMap α β) : Nat := m.pairs.length

/-- Forgets a key. -/
def erase (m : FiniteMap α β) (k : α) : FiniteMap α β where
  pairs := m.pairs.filter fun p => p.1 ≠ k
  keys_nodup := m.keys_nodup.sublist (List.filter_sublist.map _)

/-- Maps a key to a value, whatever it was mapped to before. -/
def insert (m : FiniteMap α β) (k : α) (v : β) : FiniteMap α β where
  pairs := (k, v) :: (m.erase k).pairs
  keys_nodup := by
    refine List.nodup_cons.mpr ⟨?_, (m.erase k).keys_nodup⟩
    simp [erase]

/-- Changes the value of a key, if it has one. -/
def modify (m : FiniteMap α β) (k : α) (f : β → β) : FiniteMap α β where
  pairs := m.pairs.map fun p => if p.1 = k then (p.1, f p.2) else p
  keys_nodup := by
    have : (fun p : α × β => (if p.1 = k then (p.1, f p.2) else p).1) = Prod.fst := by
      funext p; split <;> rfl
    simpa [List.map_map, Function.comp_def, this] using m.keys_nodup

omit [DecidableEq α] in
/-- Changes every value. -/
def mapValues (m : FiniteMap α β) (f : β → β) : FiniteMap α β where
  pairs := m.pairs.map fun p => (p.1, f p.2)
  keys_nodup := by
    simpa [List.map_map, Function.comp_def] using m.keys_nodup

/-! ### Look-ups -/

@[simp] theorem get?_empty (k : α) : (∅ : FiniteMap α β).get? k = none := rfl

/-- The pair in front is found first. -/
theorem lookup_cons_eq (l : List (α × β)) (i j : α) (v : β) :
    ((i, v) :: l).lookup j = if j = i then some v else l.lookup j := by
  by_cases h : j = i
  · subst h; simp
  · simp [List.lookup_cons, h, beq_eq_false_iff_ne.mpr h]

/-- Filtering a key out takes away what was found under it, and nothing else. -/
theorem lookup_filter_ne (l : List (α × β)) (k j : α) :
    (l.filter fun p => p.1 ≠ k).lookup j = if j = k then none else l.lookup j := by
  induction l with
  | nil => simp
  | cons p l ih =>
    obtain ⟨i, v⟩ := p
    rw [lookup_cons_eq, List.filter_cons]
    split <;> simp only [lookup_cons_eq, ih] <;> grind

@[simp, grind =] theorem get?_erase (m : FiniteMap α β) (k j : α) :
    (m.erase k).get? j = if j = k then none else m.get? j :=
  lookup_filter_ne m.pairs k j

@[simp, grind =] theorem get?_insert (m : FiniteMap α β) (k j : α) (v : β) :
    (m.insert k v).get? j = if j = k then some v else m.get? j := by
  have h := get?_erase m k j
  simp only [get?] at h
  simp only [insert, get?, lookup_cons_eq, h]
  grind

@[simp, grind =] theorem get?_modify (m : FiniteMap α β) (k j : α) (f : β → β) :
    (m.modify k f).get? j = if j = k then (m.get? j).map f else m.get? j := by
  obtain ⟨l, hl⟩ := m
  simp only [modify, get?]
  clear hl
  induction l with
  | nil => simp
  | cons p l ih =>
    obtain ⟨i, v⟩ := p
    rw [List.map_cons, lookup_cons_eq, ih]
    split <;> simp only [lookup_cons_eq] <;> grind

@[simp, grind =] theorem get?_mapValues (m : FiniteMap α β) (j : α) (f : β → β) :
    (m.mapValues f).get? j = (m.get? j).map f := by
  obtain ⟨l, hl⟩ := m
  simp only [mapValues, get?]
  clear hl
  induction l with
  | nil => simp
  | cons p l ih =>
    obtain ⟨i, v⟩ := p
    simp only [List.map_cons, lookup_cons_eq, ih]
    split <;> simp

/-- A pair is listed exactly when looking up its key finds its value. -/
theorem mem_pairs_iff {m : FiniteMap α β} {k : α} {v : β} :
    (k, v) ∈ m.pairs ↔ m.get? k = some v := by
  obtain ⟨l, hl⟩ := m
  simp only [get?]
  induction l with
  | nil => simp
  | cons p l ih =>
    obtain ⟨i, w⟩ := p
    have hl' := List.nodup_cons.mp hl
    by_cases hki : k = i
    · subst hki
      have hk : ∀ x, (k, x) ∉ l := fun x hx => hl'.1 (List.mem_map.mpr ⟨(k, x), hx, rfl⟩)
      simp [hk, eq_comm]
    · simp [lookup_cons_eq, hki, ih hl'.2]

/-! ### Maps that differ in one key -/

omit [DecidableEq α] in
/-- A map is given by its pairs. -/
theorem eq_of_pairs_eq : ∀ {m n : FiniteMap α β}, m.pairs = n.pairs → m = n
  | ⟨_, _⟩, ⟨_, _⟩, rfl => rfl

omit [DecidableEq α] in
/-- No pair occurs twice. -/
theorem nodup_pairs (m : FiniteMap α β) : m.pairs.Nodup :=
  List.Pairwise.of_map Prod.fst (fun _ _ hne h => hne (congrArg Prod.fst h)) m.keys_nodup

theorem ne_of_mem_pairs {m : FiniteMap α β} {k : α} (h : m.get? k = none) :
    ∀ p ∈ m.pairs, p.1 ≠ k := by
  rintro ⟨i, v⟩ hp rfl
  rw [mem_pairs_iff.mp hp] at h
  cases h

/-- Forgetting a key that is not mapped changes nothing. -/
theorem erase_eq_self {m : FiniteMap α β} {k : α} (h : m.get? k = none) : m.erase k = m :=
  eq_of_pairs_eq (List.filter_eq_self.mpr fun p hp => decide_eq_true (ne_of_mem_pairs h p hp))

/-- A new key goes in front. -/
theorem pairs_insert {m : FiniteMap α β} {k : α} (v : β) (h : m.get? k = none) :
    (m.insert k v).pairs = (k, v) :: m.pairs :=
  congrArg (fun n => (k, v) :: pairs n) (erase_eq_self h)

/-- Forgetting a new key undoes its insertion. -/
theorem erase_insert {m : FiniteMap α β} {k : α} (v : β) (h : m.get? k = none) :
    (m.insert k v).erase k = m := by
  refine eq_of_pairs_eq ?_
  simp only [erase, pairs_insert v h, List.filter_cons]
  simpa using ne_of_mem_pairs h

/-- Inserting one key and forgetting another may be done in either order. -/
theorem erase_insert_of_ne {j k : α} (m : FiniteMap α β) (v : β) (h : k ≠ j) :
    (m.insert k v).erase j = (m.erase j).insert k v := by
  refine eq_of_pairs_eq ?_
  simp only [erase, insert, List.filter_cons, List.filter_filter, decide_eq_true h, if_true]
  simp only [Bool.and_comm]

/-- A mapped key with its value, and the pairs of the other keys. -/
theorem perm_pairs {m : FiniteMap α β} {k : α} {v : β} (h : m.get? k = some v) :
    m.pairs.Perm ((k, v) :: (m.erase k).pairs) := by
  have hk : (k, v) ∉ (m.erase k).pairs := by
    rw [mem_pairs_iff, get?_erase, if_pos rfl]
    exact nofun
  refine (List.perm_ext_iff_of_nodup m.nodup_pairs (List.nodup_cons.mpr ⟨hk, nodup_pairs _⟩)).mpr ?_
  rintro ⟨i, w⟩
  rw [List.mem_cons, mem_pairs_iff, mem_pairs_iff, get?_erase, Prod.mk.injEq]
  by_cases hi : i = k
  · subst hi
    rw [h, if_pos rfl, Option.some.injEq]
    simp [eq_comm]
  · simp [hi]

end FiniteMap

end FlowOffload
