import FlowOffload.Proofs.Flow.Requests

/-!
# Admission — when a pair goes in, and why not

Two entries are *contested* in a table when one of their tuples leads somewhere already, or when
they have one tuple between them.  Room is looked at first, then whether they are contested, and
nothing else keeps a pair out (`FlowTable.enrollPair_decides`).  Which of the two comes first makes
no difference, neither among the arguments nor in the order of tuples (`FlowTable.insertPair_swap`).

The number of entries is kept in a machine word.  It is taken and given back there as it is among
the natural numbers, as long as two more than the capacity fit the word
(`FlowTable.tryReserve_eq_word`).
-/

namespace FlowOffload.FlowTable

variable {t : FlowTable} {a b e : Entry}

/-- One of the tuples of `a` and `b` leads somewhere already, or the two are the same. -/
def Contested (t : FlowTable) (a b : Entry) : Prop :=
  (t.lookup a.tuple).isSome ∨ (t.lookup b.tuple).isSome ∨ a.tuple = b.tuple

instance (t : FlowTable) (a b : Entry) : Decidable (t.Contested a b) :=
  inferInstanceAs (Decidable (_ ∨ _ ∨ _))

theorem Contested.symm (h : t.Contested a b) : t.Contested b a := by
  rcases h with ha | hb | hab
  · exact .inr (.inl ha)
  · exact .inl hb
  · exact .inr (.inr hab.symm)

/-- A pair is not contested when both tuples are free, and there are two of them. -/
theorem not_contested_iff : ¬ t.Contested a b ↔
    t.lookup a.tuple = none ∧ t.lookup b.tuple = none ∧ a.tuple ≠ b.tuple := by
  simp only [Contested, not_or, Option.not_isSome_iff_eq_none, ne_eq]

/-! ### Storing two entries -/

/-- The table with an entry stored at a new identity. -/
def adding (t : FlowTable) (e : Entry) : FlowTable :=
  { t with index := t.index.insert e.tuple t.arena.size, arena := t.arena.push e }

/-- An entry that was stored is found, and so is whatever was found before under other tuples. -/
theorem lookup_adding (t : FlowTable) (e : Entry) (k : FiveTuple) :
    (t.adding e).lookup k = if k = e.tuple then some t.arena.size else t.lookup k :=
  FiniteMap.get?_insert _ _ _ _

/-- An entry is refused if its tuple is taken. -/
theorem store_of_taken (h : (t.lookup e.tuple).isSome) : t.store e = .error .alreadyExists :=
  if_pos h

theorem store_of_vacant (h : t.lookup e.tuple = none) :
    t.store e = .ok (t.adding e, t.arena.size) :=
  if_neg (Option.not_isSome_iff_eq_none.mpr h)

/-- The second entry finds its tuple taken also when it is the first one's. -/
theorem storeBoth_of_contested (h : t.Contested a b) :
    t.storeBoth a b = .error .alreadyExists := by
  by_cases ha : (t.lookup a.tuple).isSome
  · rw [storeBoth, store_of_taken ha]
    rfl
  · have hb : ((t.adding a).lookup b.tuple).isSome := by
      rw [lookup_adding]
      split
      · rfl
      · next hba =>
          rcases h with h | h | h
          · exact absurd h ha
          · exact h
          · exact absurd h.symm hba
    simp only [storeBoth, store_of_vacant (Option.not_isSome_iff_eq_none.mp ha),
      Except.ok_bind, store_of_taken hb]
    rfl

/-- A pair that is not contested is stored, in two new places. -/
theorem storeBoth_of_not_contested (h : ¬ t.Contested a b) :
    t.storeBoth a b = .ok ((t.adding a).adding b, t.arena.size, (t.adding a).arena.size) := by
  obtain ⟨ha, hb, hab⟩ := not_contested_iff.mp h
  have hb' : (t.adding a).lookup b.tuple = none := by
    rw [lookup_adding, if_neg hab.symm, hb]
  simp only [storeBoth, store_of_vacant ha, Except.ok_bind, store_of_vacant hb']
  rfl

/-! ### Inserting a pair -/

/-- Without room, a pair is refused whatever it is. -/
theorem insertPair_of_full (h : t.capacity < t.count + 2) :
    t.insertPair a b = .error .tableFull := by
  rw [insertPair_eq_storeBoth, if_pos h]

/-- With room, a contested pair is refused as one that exists already. -/
theorem insertPair_of_contested (hr : t.count + 2 ≤ t.capacity) (h : t.Contested a b) :
    t.insertPair a b = .error .alreadyExists := by
  have hc : Contested { t with count := t.count + 2 } a b := h
  rw [insertPair_eq_storeBoth, if_neg (Nat.not_lt.mpr hr)]
  split
  · rw [storeBoth_of_contested hc.symm]
    rfl
  · rw [storeBoth_of_contested hc]

/-- With room, a pair that is not contested goes in. -/
theorem insertPair_of_not_contested (hr : t.count + 2 ≤ t.capacity) (h : ¬ t.Contested a b) :
    ∃ u i j, t.insertPair a b = .ok (u, i, j) := by
  have hc : ¬ Contested { t with count := t.count + 2 } a b := h
  rw [insertPair_eq_storeBoth, if_neg (Nat.not_lt.mpr hr)]
  split
  · rw [storeBoth_of_not_contested fun hs => hc hs.symm]
    exact ⟨_, _, _, rfl⟩
  · rw [storeBoth_of_not_contested hc]
    exact ⟨_, _, _, rfl⟩

/-- **A flow seen from its other end** comes to the same table, with the two entries in the other
order. -/
theorem insertPair_swap (t : FlowTable) (a b : Entry) :
    t.insertPair b a = (t.insertPair a b).map (Prod.map id Prod.swap) := by
  by_cases hr : t.capacity < t.count + 2
  · rw [insertPair_of_full hr, insertPair_of_full hr]
    rfl
  · rw [insertPair_eq_storeBoth, insertPair_eq_storeBoth, if_neg hr, if_neg hr]
    by_cases hs : b.tuple < a.tuple
    · have hs' : ¬ a.tuple < b.tuple := Nat.lt_asymm hs
      rw [if_neg hs', if_pos hs]
      cases storeBoth { t with count := t.count + 2 } b a <;> rfl
    · by_cases hs' : a.tuple < b.tuple
      · rw [if_pos hs', if_neg hs]
      · -- neither tuple is the lower one, so the second entry finds its tuple taken by the first
        have hab : a.tuple = b.tuple :=
          FiveTuple.key_injective (Nat.le_antisymm (Nat.not_lt.mp hs) (Nat.not_lt.mp hs'))
        have hc : Contested { t with count := t.count + 2 } a b := .inr (.inr hab)
        rw [if_neg hs', if_neg hs, storeBoth_of_contested hc, storeBoth_of_contested hc.symm]
        rfl

/-- A pair that finds no room leaves the table as it was. -/
theorem enrollPair_of_full (h : t.capacity < t.count + 2) :
    t.enrollPair a b = (.error .tableFull, t) := by
  rw [enrollPair_eq, insertPair_of_full h]
  rfl

/-- So does a contested one. -/
theorem enrollPair_of_contested (hr : t.count + 2 ≤ t.capacity) (h : t.Contested a b) :
    t.enrollPair a b = (.error .alreadyExists, t) := by
  rw [enrollPair_eq, insertPair_of_contested hr h]
  rfl

/-- Any other pair goes in. -/
theorem enrollPair_of_not_contested (hr : t.count + 2 ≤ t.capacity) (h : ¬ t.Contested a b) :
    ∃ i j u, t.enrollPair a b = (.ok (i, j), u) ∧ t.Joined u i j a b := by
  obtain ⟨u, i, j, hi⟩ := insertPair_of_not_contested hr h
  refine ⟨i, j, u, ?_, joined_of_insertPair hi⟩
  rw [enrollPair_eq, hi]
  rfl

/-- The order of the two entries shows in the order of their identities, and nowhere else. -/
theorem enrollPair_swap (t : FlowTable) (a b : Entry) :
    t.enrollPair b a = ((t.enrollPair a b).1.map Prod.swap, (t.enrollPair a b).2) := by
  rw [enrollPair_eq, enrollPair_eq, insertPair_swap]
  cases t.insertPair a b <;> rfl

/-! ### The number of entries as a machine word -/

/-- Takes room for `n` more entries on a counter that wraps, and gives it back if that is more than
there is; the answer tells whether it was kept. -/
def takeRoom (capacity count n : UInt64) : Bool × UInt64 :=
  let taken := count + n
  if capacity < taken then (false, taken - n) else (true, taken)

/-- **The counter does not wrap**, as long as `n` more than the capacity fit a word. -/
theorem tryReserve_eq_word {n : Nat} (hb : t.count ≤ t.capacity)
    (hw : t.capacity + n < UInt64.size) : t.tryReserve n =
      let r := takeRoom (.ofNat t.capacity) (.ofNat t.count) (.ofNat n)
      (r.1, { t with count := r.2.toNat }) := by
  have hn : (UInt64.ofNat n).toNat = n := UInt64.toNat_ofNat_of_lt' (by omega)
  have hc : (UInt64.ofNat t.count).toNat = t.count := UInt64.toNat_ofNat_of_lt' (by omega)
  have hm : (UInt64.ofNat t.capacity).toNat = t.capacity := UInt64.toNat_ofNat_of_lt' (by omega)
  have ht : (UInt64.ofNat t.count + UInt64.ofNat n).toNat = t.count + n := by
    rw [UInt64.toNat_add, hc, hn]
    exact Nat.mod_eq_of_lt (Nat.lt_of_le_of_lt (Nat.add_le_add_right hb n) hw)
  simp only [tryReserve_eq, takeRoom, UInt64.lt_iff_toNat_lt, hm, ht, UInt64.add_sub_cancel]
  split
  · rw [hc]
  · rw [ht]

/-! ### The decision -/

/-- **A pair goes in or does nothing.**  It is kept out for want of room, or else because it is
contested, and for no other reason; then the table is what it was.  If it goes in, each tuple leads
to its own entry, every other tuple leads where it did, and two more entries are counted.  The order
of the arguments makes no difference, doing it in place none to doing it on a copy, and the counter,
as a machine word, does not wrap. -/
theorem enrollPair_decides (hc : t.count = t.index.size) (hb : t.count ≤ t.capacity)
    (hw : t.capacity < UInt64.size - 2) (a b : Entry) :
    (((t.enrollPair a b).1 = .error .tableFull ↔ t.capacity < t.count + 2) ∧
      ((t.enrollPair a b).1 = .error .alreadyExists ↔
        t.count + 2 ≤ t.capacity ∧ t.Contested a b) ∧
      (∀ err, (t.enrollPair a b).1 = .error err → (t.enrollPair a b).2 = t) ∧
      (t.count + 2 ≤ t.capacity → ¬ t.Contested a b →
        ∃ i j u, t.enrollPair a b = (.ok (i, j), u) ∧ i ≠ j ∧ u.Stored i a ∧ u.Stored j b ∧
          (∀ k, k ≠ a.tuple → k ≠ b.tuple → u.lookup k = t.lookup k) ∧
          (∀ k, k ≠ i → k ≠ j → u.entry? k = t.entry? k) ∧
          u.count = t.count + 2 ∧ u.count = u.index.size ∧ u.count ≤ u.capacity)) ∧
    t.enrollPair b a = ((t.enrollPair a b).1.map Prod.swap, (t.enrollPair a b).2) ∧
    t.enrollPair a b = t.outcome (t.insertPair a b) ∧
    t.tryReserve 2 = (let r := takeRoom (.ofNat t.capacity) (.ofNat t.count) 2
      (r.1, { t with count := r.2.toNat })) := by
  refine ⟨?_, enrollPair_swap t a b, enrollPair_eq t a b,
    tryReserve_eq_word hb (Nat.add_lt_of_lt_sub hw)⟩
  -- room is looked at first, then whether the pair is contested
  rcases Nat.lt_or_ge t.capacity (t.count + 2) with hr | hr
  · have hn : ¬ t.count + 2 ≤ t.capacity := Nat.not_le.mpr hr
    simp [enrollPair_of_full hr, hr, hn]
  · by_cases hx : t.Contested a b
    · simp [enrollPair_of_contested hr hx, hr, hx]
    · obtain ⟨i, j, u, hu, hj⟩ := enrollPair_of_not_contested hr hx
      refine ⟨?_, ?_, ?_, fun _ _ => ⟨i, j, u, hu, hj.ne, hj.stored₁, hj.stored₂,
        fun k ha hb => ?_, fun _ => hj.entry_other, hj.count, ?_, ?_⟩⟩
      · simp [hu, Nat.not_lt.mpr hr]
      · simp [hu, hx]
      · simp [hu]
      · rw [hj.lookup, if_neg ha, if_neg hb]
      · rw [hj.count, hc, hj.size_index]
      · rw [hj.count, hj.capacity]
        exact hr

/-- Two directions of a flow go into a table with room for two, in either order; one of them twice
does not. -/
theorem enrollPair_decides_both_directions :
    let t := empty 2
    let flow : FiveTuple := ⟨FiveTuple.tcp, 1, 2, 3, 4⟩
    let a := Entry.opening flow none 60
    let b := Entry.answering flow none
    (t.count = t.index.size ∧ t.count ≤ t.capacity ∧ t.capacity < UInt64.size - 2) ∧
    (∃ i j u, t.enrollPair a b = (.ok (i, j), u) ∧ u.Stored i a ∧ u.Stored j b ∧ u.count = 2) ∧
    t.enrollPair b a = ((t.enrollPair a b).1.map Prod.swap, (t.enrollPair a b).2) ∧
    (t.enrollPair a a).1 = .error .alreadyExists := by
  intro t flow a b
  have hc : t.count = t.index.size := rfl
  have hb : t.count ≤ t.capacity := by decide
  have hw : t.capacity < UInt64.size - 2 := by decide
  have hab := enrollPair_decides hc hb hw a b
  have haa := enrollPair_decides hc hb hw a a
  refine ⟨⟨hc, hb, hw⟩, ?_, hab.2.1, haa.1.2.1.mpr ⟨by decide, .inr (.inr rfl)⟩⟩
  obtain ⟨i, j, u, hu, -, ha, hb, -, -, hn, -⟩ := hab.1.2.2.2 (by decide) (by decide)
  exact ⟨i, j, u, hu, ha, hb, hn⟩

end FlowOffload.FlowTable
