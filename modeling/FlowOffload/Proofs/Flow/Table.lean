import FlowOffload.Flow.Table
import FlowOffload.Proofs.Basics

/-!
# The flow table — what its operations do to look-ups

An entry is *stored* at an identity when it is there and its tuple leads to it.  A table is *filed*
when every identity that a tuple leads to holds an entry with that tuple.

* `FlowTable.joined_of_insertPair`: a pair that goes in is new in every respect, and both of its
  entries are stored afterwards.
* `FlowTable.removeExact_of_stored`: a stored entry leaves, and its tuple leads nowhere then.
-/

namespace FlowOffload.FlowTable

/-- A change of one entry is a change of that entry only. -/
theorem entry?_modify (t : FlowTable) (i j : EntryId) (f : Entry → Entry) :
    entry? (t.modify i f) j = if j = i then (t.entry? j).map f else t.entry? j := by
  simp only [modify, entry?, Array.getElem?_modify, eq_comm (a := i)]

@[simp] theorem entry?_modify_self (t : FlowTable) (i : EntryId) (f : Entry → Entry) :
    entry? (t.modify i f) i = (t.entry? i).map f := by
  rw [entry?_modify, if_pos rfl]

theorem entry?_modify_of_ne (t : FlowTable) {i j : EntryId} (f : Entry → Entry) (h : j ≠ i) :
    entry? (t.modify i f) j = t.entry? j := by
  rw [entry?_modify, if_neg h]

/-- A table is given by its look-ups' index, its numbers and its entries. -/
theorem eq_of_entries {t u : FlowTable} (hc : t.capacity = u.capacity) (hx : t.index = u.index)
    (hn : t.count = u.count) (he : ∀ i, t.entry? i = u.entry? i) : t = u := by
  obtain ⟨_, _, _, a⟩ := t
  obtain ⟨_, _, _, b⟩ := u
  obtain rfl : a = b := Array.ext_getElem? he
  cases hc; cases hx; cases hn
  rfl

/-- `e` is at identity `i`, and its tuple leads there. -/
structure Stored (t : FlowTable) (i : EntryId) (e : Entry) : Prop where
  entry : t.entry? i = some e
  lookup : t.lookup e.tuple = some i

/-- Whatever a tuple leads to has that tuple. -/
def Filed (t : FlowTable) : Prop :=
  ∀ k i, t.lookup k = some i → ∃ e, t.entry? i = some e ∧ e.tuple = k

/-- One identity holds one entry. -/
theorem Stored.unique {t : FlowTable} {i : EntryId} {e e' : Entry} (h : t.Stored i e)
    (h' : t.Stored i e') : e = e' :=
  Option.some.inj (h.entry.symm.trans h'.entry)

/-- One tuple has one stored entry. -/
theorem Stored.eq_of_tuple_eq {t : FlowTable} {i j : EntryId} {e p : Entry} (h : t.Stored i e)
    (h' : t.Stored j p) (ht : e.tuple = p.tuple) : i = j ∧ e = p := by
  obtain rfl : i = j := Option.some.inj (h.lookup.symm.trans (ht ▸ h'.lookup))
  exact ⟨rfl, h.unique h'⟩

/-- An identity that holds no entry yet is not one of a stored entry. -/
theorem Stored.ne_of_new {t : FlowTable} {i k : EntryId} {e : Entry} (h : t.Stored k e)
    (hn : t.entry? i = none) : k ≠ i := by
  rintro rfl
  exact nomatch hn.symm.trans h.entry

theorem Stored.tuple_ne {t : FlowTable} {k : EntryId} {e : Entry} {c : FiveTuple}
    (h : t.Stored k e) (hn : t.lookup c = none) : e.tuple ≠ c := by
  rintro rfl
  exact nomatch hn.symm.trans h.lookup

/-- What is stored stays so when it is changed but for its tuple. -/
theorem Stored.modify {t : FlowTable} {i : EntryId} {e : Entry} (h : t.Stored i e)
    {f : Entry → Entry} (hf : (f e).tuple = e.tuple) : (t.modify i f).Stored i (f e) where
  entry := by rw [entry?_modify_self, h.entry, Option.map_some]
  lookup := by rw [hf]; exact h.lookup

/-- In a filed table, what a tuple leads to is stored. -/
theorem Filed.stored {t : FlowTable} (hf : t.Filed) {k : FiveTuple} {i : EntryId}
    (h : t.lookup k = some i) : ∃ e, t.Stored i e ∧ e.tuple = k := by
  obtain ⟨e, he, rfl⟩ := hf k i h
  exact ⟨e, ⟨he, h⟩, rfl⟩

/-! ### Storing a pair -/

/-- Room is taken only if it is there. -/
theorem reserve_eq_ok {t u : FlowTable} {n : Nat} (h : t.reserve n = .ok u) :
    t.count + n ≤ t.capacity ∧ u = { t with count := t.count + n } := by
  rw [reserve] at h
  split at h
  · cases h
  · next hn =>
      cases h
      exact ⟨Nat.le_of_not_lt hn, rfl⟩

/-- An entry that is stored has a new tuple and the next identity. -/
theorem store_eq_ok {t u : FlowTable} {e : Entry} {i : EntryId} (h : t.store e = .ok (u, i)) :
    t.lookup e.tuple = none ∧ i = t.arena.size ∧
      u = { t with index := t.index.insert e.tuple i, arena := t.arena.push e } := by
  rw [store] at h
  by_cases hn : t.index.contains e.tuple = true
  · rw [if_pos hn] at h
    cases h
  · rw [if_neg hn] at h
    cases h
    exact ⟨Option.not_isSome_iff_eq_none.mp hn, rfl, rfl⟩

/-- `u` holds `a` at `i` and `b` at `j`, and the entries of `t` elsewhere. -/
structure Placed (t u : FlowTable) (i j : EntryId) (a b : Entry) : Prop where
  ne : i ≠ j
  entry : ∀ k, u.entry? k = if k = i then some a else if k = j then some b else t.entry? k

namespace Placed

variable {t u : FlowTable} {i j : EntryId} {a b : Entry}

theorem symm (h : t.Placed u i j a b) : t.Placed u j i b a where
  ne := h.ne.symm
  entry := by
    intro k
    rw [h.entry]
    by_cases hi : k = i
    · rw [if_pos hi, if_neg fun hj => h.ne (hi.symm.trans hj), if_pos hi]
    · rw [if_neg hi, if_neg hi]

theorem entry₁ (h : t.Placed u i j a b) : u.entry? i = some a := by rw [h.entry, if_pos rfl]

theorem entry₂ (h : t.Placed u i j a b) : u.entry? j = some b := h.symm.entry₁

theorem entry_other (h : t.Placed u i j a b) {k : EntryId} (hi : k ≠ i) (hj : k ≠ j) :
    u.entry? k = t.entry? k := by
  rw [h.entry, if_neg hi, if_neg hj]

/-- What is held afterwards is one of the two, or was held before. -/
theorem entry_cases (h : t.Placed u i j a b) {k : EntryId} {x : Entry} (hx : u.entry? k = some x) :
    (k = i ∧ x = a) ∨ (k = j ∧ x = b) ∨ (k ≠ i ∧ k ≠ j ∧ t.entry? k = some x) := by
  by_cases hi : k = i
  · subst hi
    exact .inl ⟨rfl, Option.some.inj (hx.symm.trans h.entry₁)⟩
  · by_cases hj : k = j
    · subst hj
      exact .inr (.inl ⟨rfl, Option.some.inj (hx.symm.trans h.entry₂)⟩)
    · exact .inr (.inr ⟨hi, hj, (h.entry_other hi hj).symm.trans hx⟩)

end Placed

/-- `u` holds `a` at `i` and `b` at `j`, and is `t` elsewhere; every tuple leads where it did. -/
structure Updated (t u : FlowTable) (i j : EntryId) (a b : Entry) : Prop
    extends t.Placed u i j a b where
  index : u.index = t.index

namespace Updated

variable {t u : FlowTable} {i j : EntryId} {a b : Entry}

theorem symm (h : t.Updated u i j a b) : t.Updated u j i b a := ⟨h.toPlaced.symm, h.index⟩

/-- The index does not change, so look-ups lead where they led. -/
theorem lookup (h : t.Updated u i j a b) (k : FiveTuple) : u.lookup k = t.lookup k :=
  congrArg (FiniteMap.get? · k) h.index

theorem self (hij : i ≠ j) (hi : t.entry? i = some a) (hj : t.entry? j = some b) :
    t.Updated t i j a b where
  ne := hij
  entry := by
    intro k
    split
    · next hk => rw [hk, hi]
    · split
      · next hk => rw [hk, hj]
      · rfl
  index := rfl

theorem modify₁ (h : t.Updated u i j a b) (f : Entry → Entry) :
    t.Updated (u.modify i f) i j (f a) b where
  ne := h.ne
  entry := by
    intro k
    by_cases hk : k = i
    · subst hk
      rw [entry?_modify_self, h.entry₁, if_pos rfl]
      rfl
    · rw [entry?_modify_of_ne u f hk, h.entry, if_neg hk, if_neg hk]
  index := h.index

theorem modify₂ (h : t.Updated u i j a b) (f : Entry → Entry) :
    t.Updated (u.modify j f) i j a (f b) :=
  (h.symm.modify₁ f).symm

end Updated

/-- `u` is `t` with `a` stored at `i` and `b` at `j`, where `t` has neither the tuples nor the
identities. -/
structure Joined (t u : FlowTable) (i j : EntryId) (a b : Entry) : Prop
    extends t.Placed u i j a b where
  room : t.count + 2 ≤ t.capacity
  distinct : a.tuple ≠ b.tuple
  untracked₁ : t.lookup a.tuple = none
  untracked₂ : t.lookup b.tuple = none
  new₁ : t.entry? i = none
  new₂ : t.entry? j = none
  lookup : ∀ k, u.lookup k =
    if k = a.tuple then some i else if k = b.tuple then some j else t.lookup k
  pairs : u.index.pairs.Perm ((a.tuple, i) :: (b.tuple, j) :: t.index.pairs)
  count : u.count = t.count + 2
  capacity : u.capacity = t.capacity

namespace Joined

variable {t u : FlowTable} {i j : EntryId} {a b : Entry}

/-- Which of the two came first makes no difference. -/
theorem symm (h : t.Joined u i j a b) : t.Joined u j i b a where
  toPlaced := h.toPlaced.symm
  room := h.room
  distinct := h.distinct.symm
  untracked₁ := h.untracked₂
  untracked₂ := h.untracked₁
  new₁ := h.new₂
  new₂ := h.new₁
  lookup := by
    intro k
    rw [h.lookup]
    by_cases ha : k = a.tuple
    · rw [if_pos ha, if_neg fun hb => h.distinct (ha.symm.trans hb), if_pos ha]
    · rw [if_neg ha, if_neg ha]
  pairs := h.pairs.trans (.swap _ _ _)
  count := h.count
  capacity := h.capacity

theorem stored₁ (h : t.Joined u i j a b) : u.Stored i a :=
  ⟨h.entry₁, by rw [h.lookup, if_pos rfl]⟩

theorem stored₂ (h : t.Joined u i j a b) : u.Stored j b := h.symm.stored₁

/-- What was stored before is stored still. -/
theorem stored_old (h : t.Joined u i j a b) {k : EntryId} {x : Entry} (hs : t.Stored k x) :
    u.Stored k x where
  entry := by rw [h.entry_other (hs.ne_of_new h.new₁) (hs.ne_of_new h.new₂), hs.entry]
  lookup := by
    rw [h.lookup, if_neg (hs.tuple_ne h.untracked₁), if_neg (hs.tuple_ne h.untracked₂), hs.lookup]

/-- What a tuple led to before, it leads to still. -/
theorem lookup_old (h : t.Joined u i j a b) {k : FiveTuple} {n : EntryId}
    (hl : t.lookup k = some n) : u.lookup k = some n := by
  have ha : k ≠ a.tuple := by
    rintro rfl
    cases h.untracked₁.symm.trans hl
  have hb : k ≠ b.tuple := by
    rintro rfl
    cases h.untracked₂.symm.trans hl
  rw [h.lookup, if_neg ha, if_neg hb, hl]

/-- The index grows by two. -/
theorem size_index (h : t.Joined u i j a b) : u.index.size = t.index.size + 2 :=
  h.pairs.length_eq

/-- What is stored now was stored before, or is one of the two. -/
theorem stored_cases (h : t.Joined u i j a b) {k : EntryId} {x : Entry} (hs : u.Stored k x) :
    (k = i ∧ x = a) ∨ (k = j ∧ x = b) ∨ t.Stored k x := by
  rcases h.entry_cases hs.entry with hi | hj | ⟨hi, hj, he⟩
  · exact .inl hi
  · exact .inr (.inl hj)
  · have hl := hs.lookup
    rw [h.lookup] at hl
    split at hl
    · exact absurd (Option.some.inj hl).symm hi
    · split at hl
      · exact absurd (Option.some.inj hl).symm hj
      · exact .inr (.inr ⟨he, hl⟩)

/-- Two entries that go into a filed table leave it filed. -/
theorem filed (h : t.Joined u i j a b) (hf : t.Filed) : u.Filed := by
  intro k n hl
  rw [h.lookup] at hl
  split at hl
  · next hk =>
      obtain rfl := Option.some.inj hl
      exact ⟨a, h.entry₁, hk.symm⟩
  · split at hl
    · next hk =>
        obtain rfl := Option.some.inj hl
        exact ⟨b, h.entry₂, hk.symm⟩
    · obtain ⟨e, hs, rfl⟩ := hf.stored hl
      exact ⟨e, (h.stored_old hs).entry, rfl⟩

/-- Two entries stored one after the other, where the room was taken before. -/
theorem of_stores {v : FlowTable} (hr : t.count + 2 ≤ t.capacity)
    (ha : store { t with count := t.count + 2 } a = .ok (v, i)) (hb : v.store b = .ok (u, j)) :
    t.Joined u i j a b := by
  obtain ⟨hna, rfl, rfl⟩ := store_eq_ok ha
  obtain ⟨hnb, rfl, rfl⟩ := store_eq_ok hb
  have hl : ∀ k, FiniteMap.get? (t.index.insert a.tuple t.arena.size) k =
      if k = a.tuple then some t.arena.size else t.lookup k :=
    fun _ => FiniteMap.get?_insert _ _ _ _
  -- the second tuple was looked up when the first one was in already
  have hab : b.tuple ≠ a.tuple := fun h => by
    rw [FlowTable.lookup, hl, if_pos h] at hnb
    cases hnb
  have hnb' : t.lookup b.tuple = none := by
    rw [FlowTable.lookup, hl, if_neg hab] at hnb
    exact hnb
  refine ⟨⟨?_, fun k => ?_⟩, hr, hab.symm, hna, hnb', ?_, ?_, fun k => ?_, ?_, rfl, rfl⟩
  · simp
  · simp only [Array.getElem?_push, Array.size_push, entry?]
    by_cases hj : k = t.arena.size + 1
    · subst hj
      simp
    · rw [if_neg hj]
      by_cases hi : k = t.arena.size
      · rw [if_pos hi, if_pos hi]
      · rw [if_neg hi, if_neg hi, if_neg hj]
  · unfold entry?; simp
  · unfold entry?; simp
  · simp only [FlowTable.lookup, FiniteMap.get?_insert, Array.size_push]
    by_cases hk : k = b.tuple
    · rw [if_pos hk, if_neg fun h => hab (hk.symm.trans h), if_pos hk]
    · rw [if_neg hk, if_neg hk]
  · rw [FiniteMap.pairs_insert _ hnb, FiniteMap.pairs_insert _ hna]
    exact .swap _ _ _

end Joined

/-- **A pair that goes in** is new in every respect, and both of its entries are stored
afterwards. -/
theorem joined_of_insertPair {t u : FlowTable} {i j : EntryId} {a b : Entry}
    (h : t.insertPair a b = .ok (u, i, j)) : t.Joined u i j a b := by
  obtain ⟨r, hr, h⟩ := Except.of_bind_eq_ok h
  obtain ⟨room, rfl⟩ := reserve_eq_ok hr
  split at h
  · obtain ⟨⟨v, j'⟩, hb, h⟩ := Except.of_bind_eq_ok h
    obtain ⟨⟨w, i'⟩, ha, h⟩ := Except.of_bind_eq_ok h
    cases h
    exact (Joined.of_stores room hb ha).symm
  · obtain ⟨⟨v, i'⟩, ha, h⟩ := Except.of_bind_eq_ok h
    obtain ⟨⟨w, j'⟩, hb, h⟩ := Except.of_bind_eq_ok h
    cases h
    exact Joined.of_stores room ha hb

/-! ### Removing -/

/-- **A stored entry leaves**: its tuple leads nowhere then. -/
theorem removeExact_of_stored {t : FlowTable} {i : EntryId} {e : Entry} (h : t.Stored i e) :
    t.removeExact i = (true, { t with index := t.index.erase e.tuple, count := t.count - 1 }) := by
  simp only [removeExact, h.entry, h.lookup, if_pos]

/-- `u` is `t` without the entry `e` stored at `i`; what is left there is `a`. -/
structure Removed (t u : FlowTable) (i : EntryId) (e a : Entry) : Prop where
  stored : t.Stored i e
  entry : ∀ k, u.entry? k = if k = i then some a else t.entry? k
  tuple : a.tuple = e.tuple
  index : u.index = t.index.erase e.tuple
  count : u.count = t.count - 1
  capacity : u.capacity = t.capacity

/-- What another tuple leads to stays. -/
theorem Removed.stored_other {t u : FlowTable} {i k : EntryId} {e a x : Entry}
    (h : t.Removed u i e a) (hx : t.Stored k x) (ht : x.tuple ≠ e.tuple) : u.Stored k x where
  entry := by
    have hk : k ≠ i := by
      rintro rfl
      exact ht (congrArg _ (hx.unique h.stored))
    rw [h.entry, if_neg hk, hx.entry]
  lookup := by rw [lookup, h.index, FiniteMap.get?_erase, if_neg ht]; exact hx.lookup

/-- `u` is `t` without the pair `e`, `p` stored at `i` and `j`; what is left there are `a` and `b`,
which no tuple leads to any more. -/
structure Parted (t u : FlowTable) (i j : EntryId) (e p a b : Entry) : Prop
    extends t.Placed u i j a b where
  stored₁ : t.Stored i e
  stored₂ : t.Stored j p
  distinct : e.tuple ≠ p.tuple
  tuple₁ : a.tuple = e.tuple
  tuple₂ : b.tuple = p.tuple
  index : u.index = (t.index.erase e.tuple).erase p.tuple
  count : u.count = t.count - 1 - 1
  capacity : u.capacity = t.capacity

/-- Two entries that leave one after the other have parted. -/
theorem Removed.parted {t u w : FlowTable} {i j : EntryId} {e p a b : Entry}
    (h : t.Removed u i e a) (hj : t.Stored j p) (ht : p.tuple ≠ e.tuple)
    (h' : u.Removed w j p b) : t.Parted w i j e p a b where
  ne := by
    rintro rfl
    exact ht (congrArg _ (hj.unique h.stored))
  entry := by
    intro k
    rw [h'.entry, h.entry]
    by_cases hk : k = j
    · have hi : k ≠ i := by
        rintro rfl
        obtain rfl := hk
        exact ht (congrArg _ (hj.unique h.stored))
      rw [if_pos hk, if_neg hi, if_pos hk]
    · rw [if_neg hk, if_neg hk]
  stored₁ := h.stored
  stored₂ := hj
  distinct := ht.symm
  tuple₁ := h.tuple
  tuple₂ := h'.tuple
  index := by rw [h'.index, h.index]
  count := by rw [h'.count, h.count]
  capacity := by rw [h'.capacity, h.capacity]

namespace Parted

variable {t u : FlowTable} {i j : EntryId} {e p a b : Entry}

/-- The tuples of the pair lead nowhere then, and the others where they led. -/
theorem lookup (h : t.Parted u i j e p a b) (k : FiveTuple) :
    u.lookup k = if k = p.tuple then none else if k = e.tuple then none else t.lookup k := by
  rw [FlowTable.lookup, h.index, FiniteMap.get?_erase, FiniteMap.get?_erase]
  rfl

/-- What a tuple leads to now, it led to before. -/
theorem lookup_old (h : t.Parted u i j e p a b) (hf : t.Filed) {k : FiveTuple} {n : EntryId}
    (hl : u.lookup k = some n) : t.lookup k = some n ∧ n ≠ i ∧ n ≠ j := by
  rw [h.lookup] at hl
  split at hl
  · cases hl
  · next hkp =>
      split at hl
      · cases hl
      · next hke =>
          obtain ⟨x, hs, rfl⟩ := hf.stored hl
          refine ⟨hl, ?_, ?_⟩
          · rintro rfl
            exact hke (congrArg _ (hs.unique h.stored₁))
          · rintro rfl
            exact hkp (congrArg _ (hs.unique h.stored₂))

/-- What is stored now is what was stored before at other identities. -/
theorem stored_iff (h : t.Parted u i j e p a b) {k : EntryId} {x : Entry} :
    u.Stored k x ↔ t.Stored k x ∧ k ≠ i ∧ k ≠ j := by
  constructor
  · intro hs
    have hl := hs.lookup
    rw [h.lookup] at hl
    split at hl
    · cases hl
    · next hp =>
        split at hl
        · cases hl
        · next he =>
            rcases h.entry_cases hs.entry with ⟨-, rfl⟩ | ⟨-, rfl⟩ | ⟨hi, hj, hx⟩
            · exact absurd h.tuple₁ he
            · exact absurd h.tuple₂ hp
            · exact ⟨⟨hx, hl⟩, hi, hj⟩
  · rintro ⟨hs, hi, hj⟩
    have he : x.tuple ≠ e.tuple := fun he => hi (hs.eq_of_tuple_eq h.stored₁ he).1
    have hp : x.tuple ≠ p.tuple := fun hp => hj (hs.eq_of_tuple_eq h.stored₂ hp).1
    exact ⟨by rw [h.entry_other hi hj, hs.entry], by rw [h.lookup, if_neg hp, if_neg he, hs.lookup]⟩

end Parted

end FlowOffload.FlowTable
