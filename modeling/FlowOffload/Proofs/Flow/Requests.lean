import FlowOffload.Flow.Enrollment
import FlowOffload.Proofs.Flow.Table

/-!
# The flow table under any requests

Room is taken before an entry is stored, and given back on several paths when it is not.  None of
them can be told from an attempt that was never made: storing in place is storing on a copy that is
kept only on success (`FlowTable.enroll_eq`, `FlowTable.enrollPair_eq`).

So a request does one of five things (`FlowTable.effect_serve`), and whatever is asked of a new
table, it finds exactly what it holds, each entry under its own tuple, and counts it
(`FlowTable.representation`).
-/

namespace FlowOffload.FlowTable

variable {t u : FlowTable} {i j : EntryId} {e : Entry}

/-! ### In place or on a copy -/

/-- An attempt with the table it leaves behind, which is the old one if the attempt failed. -/
def outcome {α : Type} (t : FlowTable) :
    Except TableError (FlowTable × α) → Except TableError α × FlowTable
  | .ok (u, a) => (.ok a, u)
  | .error err => (.error err, t)

theorem unreserve_taken (t : FlowTable) (n : Nat) :
    unreserve { t with count := t.count + n } n = t := by
  rw [unreserve, Nat.add_sub_cancel]

/-- Room that is taken in vain is given back at once. -/
theorem tryReserve_eq (t : FlowTable) (n : Nat) : t.tryReserve n =
    if t.capacity < t.count + n then (false, t) else (true, { t with count := t.count + n }) := by
  simp only [tryReserve, unreserve_taken]

theorem place_eq (t : FlowTable) (e : Entry) : t.place e = t.outcome (t.store e) := by
  rw [place, store]
  split <;> rfl

/-- An entry that was just stored leaves no trace when it is taken out again. -/
theorem retract_of_store (h : t.store e = .ok (u, i)) : u.retract i = t := by
  obtain ⟨hn, rfl, rfl⟩ := store_eq_ok h
  have he : entry? { t with index := t.index.insert e.tuple t.arena.size, arena := t.arena.push e }
      t.arena.size = some e := Array.getElem?_push_size
  have hl : lookup { t with
      index := t.index.insert e.tuple t.arena.size, arena := t.arena.push e } e.tuple =
      some t.arena.size := (FiniteMap.get?_insert _ _ _ _).trans (if_pos rfl)
  simp only [retract, he, hl, if_true, Array.pop_push]
  rw [FiniteMap.erase_insert _ hn]

/-- **Enrolling an entry** is inserting it: room that was taken in vain is given back. -/
theorem enroll_eq (t : FlowTable) (e : Entry) : t.enroll e = t.outcome (t.insert e) := by
  rw [enroll, insert, tryReserve_eq, reserve]
  by_cases hr : t.capacity < t.count + 1
  · rw [if_pos hr, if_pos hr]
    rfl
  · rw [if_neg hr, if_neg hr]
    simp only [place_eq, bind, Except.bind]
    cases hs : store { t with count := t.count + 1 } e with
    | error err => simp only [outcome, unreserve_taken]
    | ok r => rfl

/-- Stores two entries one after the other, whatever the room. -/
def storeBoth (t : FlowTable) (a b : Entry) :
    Except TableError (FlowTable × EntryId × EntryId) := do
  let (u, i) ← t.store a
  let (u, j) ← u.store b
  return (u, i, j)

/-- Two entries in a row, where room was taken before. -/
theorem placeBoth_eq (t : FlowTable) (a b : Entry) :
    placeBoth { t with count := t.count + 2 } a b =
      t.outcome (storeBoth { t with count := t.count + 2 } a b) := by
  simp only [placeBoth, storeBoth, place_eq, bind, Except.bind]
  cases ha : store { t with count := t.count + 2 } a with
  | error err => simp only [outcome, unreserve_taken]
  | ok r =>
      obtain ⟨u, i⟩ := r
      simp only [outcome]
      cases hb : u.store b with
      | error err => simp only [retract_of_store ha, unreserve_taken]
      | ok r =>
          obtain ⟨w, j⟩ := r
          rfl

/-- Inserting a pair is storing it in the order of tuples, if there is room. -/
theorem insertPair_eq_storeBoth (t : FlowTable) (a b : Entry) : t.insertPair a b =
    if t.capacity < t.count + 2 then .error .tableFull
    else if b.tuple < a.tuple then
      (storeBoth { t with count := t.count + 2 } b a).map (Prod.map id Prod.swap)
    else storeBoth { t with count := t.count + 2 } a b := by
  rw [insertPair, reserve]
  by_cases hr : t.capacity < t.count + 2
  · rw [if_pos hr, if_pos hr]
    rfl
  · rw [if_neg hr, if_neg hr, Except.ok_bind]
    -- the order of tuples is looked at no further: as a number, a tuple is too large to evaluate
    by_cases hs : b.tuple < a.tuple
    · simp only [if_pos hs, storeBoth]
      cases store { t with count := t.count + 2 } b with
      | error err => rfl
      | ok r =>
          obtain ⟨u, j⟩ := r
          simp only [Except.ok_bind]
          cases u.store a <;> rfl
    · simp only [if_neg hs, storeBoth]

/-- **Enrolling a pair** is inserting it: a pair of which only the first entry found a place leaves
nothing behind, neither in the table nor in its count. -/
theorem enrollPair_eq (t : FlowTable) (a b : Entry) :
    t.enrollPair a b = t.outcome (t.insertPair a b) := by
  rw [enrollPair, insertPair_eq_storeBoth, tryReserve_eq]
  by_cases hr : t.capacity < t.count + 2
  · rw [if_pos hr, if_pos hr]
    rfl
  · rw [if_neg hr, if_neg hr]
    simp only [placeBoth_eq]
    by_cases hs : b.tuple < a.tuple
    · rw [if_pos hs, if_pos hs]
      cases storeBoth { t with count := t.count + 2 } b a <;> rfl
    · rw [if_neg hs, if_neg hs]

/-! ### Removing one by one -/

/-- An entry that is found leaves the index and the count. -/
theorem remove_of_lookup {k : FiveTuple} (h : t.lookup k = some i) :
    t.remove k = (some i, { t with index := t.index.erase k, count := t.count - 1 }) := by
  simp only [remove, h]

/-- Removing everything that is stored, one tuple after the other. -/
theorem removeEach_of_perm {l : List (FiveTuple × EntryId)}
    (h : l.Perm t.index.pairs) :
    t.removeEach (l.map Prod.fst) = (l.map Prod.snd, t.drain.2) := by
  induction l generalizing t with
  | nil =>
      obtain ⟨c, m, n, a⟩ := t
      obtain rfl : m = ∅ := FiniteMap.eq_of_pairs_eq (List.nil_perm.mp h)
      rfl
  | cons x l ih =>
      obtain ⟨k, i⟩ := x
      have hl : t.lookup k = some i := FiniteMap.mem_pairs_iff.mp (h.mem_iff.mp List.mem_cons_self)
      have hp := FiniteMap.perm_pairs hl
      have hn : t.index.size = (t.index.erase k).size + 1 := hp.length_eq
      have hr := ih (t := { t with index := t.index.erase k, count := t.count - 1 })
        (h.trans hp).cons_inv
      simp only [List.map_cons, removeEach, remove_of_lookup hl, hr]
      simp only [Option.toList_some, List.cons_append, List.nil_append, drain, hn, Nat.sub_sub,
        Nat.add_comm]

/-- **Emptying the table** removes what is stored under each tuple. -/
theorem removeEach_eq_drain (t : FlowTable) : t.removeEach (t.toList.map Prod.fst) = t.drain :=
  removeEach_of_perm (List.mergeSort_perm _ _)

/-! ### What a request does -/

/-- What can be asked of a table. -/
inductive Request where
  /-- One entry is to be stored. -/
  | insert (e : Entry)
  /-- Two entries are to be stored, or none. -/
  | insertPair (a b : Entry)
  /-- Whatever is stored under a tuple is to be removed. -/
  | remove (k : FiveTuple)
  /-- An entry is to be removed if it is the one stored under its tuple. -/
  | removeExact (i : EntryId)
  /-- A tuple is looked up. -/
  | lookup (k : FiveTuple)
  /-- Everything is to be removed. -/
  | drain

/-- A request is for the removal of what is stored at `i` under `k`. -/
def Request.Takes (k : FiveTuple) (i : EntryId) : Request → Prop
  | .remove k' => k' = k
  | .removeExact j => j = i
  | .drain => True
  | .insert _ | .insertPair _ _ | .lookup _ => False

/-- The table after a request. -/
def serve (t : FlowTable) : Request → FlowTable
  | .insert e => (t.enroll e).2
  | .insertPair a b => (t.enrollPair a b).2
  | .remove k => (t.remove k).2
  | .removeExact i => (t.removeExact i).2
  | .lookup _ => t
  | .drain => t.drain.2

/-- The table after requests, one after the other. -/
def serveAll (t : FlowTable) (rs : List Request) : FlowTable := rs.foldl serve t

/-- `u` is `t` with `e` stored at `i`, where `t` has neither the tuple nor the identity. -/
structure Entered (t u : FlowTable) (i : EntryId) (e : Entry) : Prop where
  room : t.count + 1 ≤ t.capacity
  untracked : t.lookup e.tuple = none
  new : t.entry? i = none
  entry : ∀ k, u.entry? k = if k = i then some e else t.entry? k
  lookup : ∀ k, u.lookup k = if k = e.tuple then some i else t.lookup k
  pairs : u.index.pairs = (e.tuple, i) :: t.index.pairs
  count : u.count = t.count + 1
  capacity : u.capacity = t.capacity

/-- **An entry that goes in** is new in every respect. -/
theorem entered_of_insert (h : t.insert e = .ok (u, i)) : t.Entered u i e := by
  obtain ⟨r, hr, h⟩ := Except.of_bind_eq_ok h
  obtain ⟨room, rfl⟩ := reserve_eq_ok hr
  obtain ⟨hn, rfl, rfl⟩ := store_eq_ok h
  refine ⟨room, hn, Array.getElem?_size, fun k => Array.getElem?_push, fun k => ?_, ?_, rfl, rfl⟩
  · exact FiniteMap.get?_insert _ _ _ _
  · exact FiniteMap.pairs_insert _ hn

theorem Entered.stored (h : t.Entered u i e) : u.Stored i e :=
  ⟨by rw [h.entry, if_pos rfl], by rw [h.lookup, if_pos rfl]⟩

/-- An entry goes in, or the table stays as it was. -/
theorem enroll_cases (t : FlowTable) (e : Entry) :
    (∃ i u, t.enroll e = (.ok i, u) ∧ t.Entered u i e) ∨ ∃ err, t.enroll e = (.error err, t) := by
  rw [enroll_eq]
  cases hi : t.insert e with
  | error err => exact .inr ⟨err, rfl⟩
  | ok x => exact .inl ⟨x.2, x.1, rfl, entered_of_insert hi⟩

/-- A pair goes in, or the table stays as it was. -/
theorem enrollPair_cases (t : FlowTable) (a b : Entry) :
    (∃ i j u, t.enrollPair a b = (.ok (i, j), u) ∧ t.Joined u i j a b) ∨
      ∃ err, t.enrollPair a b = (.error err, t) := by
  rw [enrollPair_eq]
  cases hi : t.insertPair a b with
  | error err => exact .inr ⟨err, rfl⟩
  | ok x => exact .inl ⟨x.2.1, x.2.2, x.1, rfl, joined_of_insertPair hi⟩

/-- What a request can come to. -/
inductive Effect (r : Request) (t : FlowTable) : FlowTable → Prop where
  | same : Effect r t t
  | entered {u : FlowTable} {i : EntryId} {e : Entry} : t.Entered u i e → Effect r t u
  | joined {u : FlowTable} {i j : EntryId} {a b : Entry} : t.Joined u i j a b → Effect r t u
  | removed {u : FlowTable} {i : EntryId} {e : Entry} : r.Takes e.tuple i → t.Removed u i e e →
      Effect r t u
  | drained : r = .drain → Effect r t t.drain.2

variable {v : FlowTable} {r : Request}

/-- What is removed stays in its place in the arena. -/
theorem Stored.removed (h : t.Stored i e) :
    t.Removed { t with index := t.index.erase e.tuple, count := t.count - 1 } i e e where
  stored := h
  entry := by
    intro k
    split
    · next hk => exact hk ▸ h.entry
    · rfl
  tuple := rfl
  index := rfl
  count := rfl
  capacity := rfl

/-- Only a stored entry is removed. -/
theorem removeExact_eq_true_iff : (t.removeExact i).1 = true ↔ ∃ e, t.Stored i e := by
  constructor
  · intro h
    rw [removeExact] at h
    split at h
    · cases h
    · next e he =>
        split at h
        · next hl => exact ⟨e, he, hl⟩
        · cases h
  · rintro ⟨e, h⟩
    rw [removeExact_of_stored h]

/-- An entry that is not stored is not removed, and neither is anything else. -/
theorem removeExact_of_not_stored (h : ∀ e, ¬ t.Stored i e) : t.removeExact i = (false, t) := by
  rw [removeExact]
  split
  · rfl
  · next e he => rw [if_neg fun hl => h e ⟨he, hl⟩]

/-- **A request** does one of five things. -/
theorem effect_serve (hf : t.Filed) (r : Request) : Effect r t (t.serve r) := by
  cases r with
  | insert e =>
      rw [serve]
      rcases t.enroll_cases e with ⟨i, u, hu, hx⟩ | ⟨err, hu⟩
      · rw [hu]
        exact .entered hx
      · rw [hu]
        exact .same
  | insertPair a b =>
      rw [serve]
      rcases t.enrollPair_cases a b with ⟨i, j, u, hu, hx⟩ | ⟨err, hu⟩
      · rw [hu]
        exact .joined hx
      · rw [hu]
        exact .same
  | remove k =>
      rw [serve]
      cases hl : t.lookup k with
      | none =>
          rw [remove, hl]
          exact .same
      | some i =>
          obtain ⟨e, hs, rfl⟩ := hf.stored hl
          rw [remove_of_lookup hl]
          exact .removed rfl hs.removed
  | removeExact i =>
      rw [serve]
      by_cases hs : ∃ e, t.Stored i e
      · obtain ⟨e, hs⟩ := hs
        rw [removeExact_of_stored hs]
        exact .removed rfl hs.removed
      · rw [removeExact_of_not_stored (not_exists.mp hs)]
        exact .same
  | lookup k => exact .same
  | drain => exact .drained rfl

/-! ### What the table says of itself -/

/-- The table finds what it holds, and counts it. -/
structure Sound (t : FlowTable) : Prop where
  filed : t.Filed
  counted : t.count = t.index.size
  bounded : t.count ≤ t.capacity

/-- An empty table is sound. -/
theorem sound_empty (capacity : Nat) : (empty capacity).Sound :=
  ⟨nofun, rfl, Nat.zero_le _⟩

/-- A table that takes an entry in stays sound: it had room. -/
theorem Sound.entered (h : t.Sound) (hx : t.Entered u i e) : u.Sound where
  filed := by
    intro k n hl
    rw [hx.lookup] at hl
    split at hl
    · next hk =>
        obtain rfl := Option.some.inj hl
        exact ⟨e, by rw [hx.entry, if_pos rfl], hk.symm⟩
    · obtain ⟨x, hs, rfl⟩ := h.filed.stored hl
      exact ⟨x, by rw [hx.entry, if_neg (hs.ne_of_new hx.new), hs.entry], rfl⟩
  counted := by
    rw [hx.count, h.counted, FiniteMap.size, FiniteMap.size, hx.pairs]
    rfl
  bounded := by
    rw [hx.count, hx.capacity]
    exact hx.room

theorem Sound.joined {a b : Entry} (h : t.Sound) (hx : t.Joined u i j a b) : u.Sound where
  filed := hx.filed h.filed
  counted := by rw [hx.count, h.counted, hx.size_index]
  bounded := by
    rw [hx.count, hx.capacity]
    exact hx.room

/-- A table that loses a stored entry stays sound. -/
theorem Sound.removed {a : Entry} (h : t.Sound) (hx : t.Removed u i e a) : u.Sound where
  filed := by
    intro k n hl
    rw [lookup, hx.index, FiniteMap.get?_erase] at hl
    split at hl
    · cases hl
    · next hk =>
        obtain ⟨x, hs, rfl⟩ := h.filed.stored hl
        exact ⟨x, (hx.stored_other hs hk).entry, rfl⟩
  counted := by
    have hp := FiniteMap.perm_pairs hx.stored.lookup
    rw [hx.count, hx.index, h.counted, FiniteMap.size, hp.length_eq]
    rfl
  bounded := by
    rw [hx.count, hx.capacity]
    exact Nat.le_trans (Nat.sub_le _ _) h.bounded

theorem Sound.drained (h : t.Sound) : t.drain.2.Sound where
  filed := nofun
  counted := Nat.sub_eq_zero_of_le (Nat.le_of_eq h.counted)
  bounded := Nat.le_trans (Nat.sub_le _ _) h.bounded

/-- A request keeps a sound table sound. -/
theorem Sound.effect (h : t.Sound) (hx : Effect r t u) : u.Sound := by
  cases hx with
  | same => exact h
  | entered hx => exact h.entered hx
  | joined hx => exact h.joined hx
  | removed _ hx => exact h.removed hx
  | drained _ => exact h.drained

theorem Sound.serveAll (h : t.Sound) (rs : List Request) : (t.serveAll rs).Sound := by
  induction rs generalizing t with
  | nil => exact h
  | cons r rs ih => exact ih (h.effect (effect_serve h.filed r))

/-- The size of a sound table is the number of its entries. -/
theorem Sound.size_eq (h : t.Sound) : t.size = t.toList.length :=
  h.counted.trans (List.length_mergeSort _).symm

/-- What is listed is what can be found. -/
theorem mem_toList_iff {k : FiveTuple} : (k, i) ∈ t.toList ↔ t.lookup k = some i :=
  List.mem_mergeSort.trans FiniteMap.mem_pairs_iff

/-- What is listed is listed once, by its tuple as by its identity. -/
theorem Sound.nodup_toList (h : t.Sound) :
    (t.toList.map Prod.fst).Nodup ∧ (t.toList.map Prod.snd).Nodup := by
  have hp : t.toList.Perm t.index.pairs := List.mergeSort_perm _ _
  refine ⟨(hp.map _).nodup_iff.mpr t.index.keys_nodup, (hp.map _).nodup_iff.mpr ?_⟩
  refine List.pairwise_map.mpr (t.index.nodup_pairs.imp_of_mem ?_)
  rintro ⟨k, i⟩ ⟨l, j⟩ hk hl hne (rfl : i = j)
  refine hne ?_
  obtain ⟨e, hs, rfl⟩ := h.filed.stored (FiniteMap.mem_pairs_iff.mp hk)
  obtain ⟨p, hs', rfl⟩ := h.filed.stored (FiniteMap.mem_pairs_iff.mp hl)
  rw [hs.unique hs']

/-- What is drained is what was stored. -/
theorem Sound.mem_drain_iff (h : t.Sound) : i ∈ t.drain.1 ↔ ∃ e, t.Stored i e := by
  rw [drain, List.mem_map]
  constructor
  · rintro ⟨⟨k, j⟩, hm, rfl⟩
    obtain ⟨e, hs, -⟩ := h.filed.stored (mem_toList_iff.mp hm)
    exact ⟨e, hs⟩
  · rintro ⟨e, hs⟩
    exact ⟨(e.tuple, i), mem_toList_iff.mpr hs.lookup, rfl⟩

/-! ### What stays -/

/-- `u` comes after `t`: entries keep their identities, and a tuple leads to what it led to, or to
what has come in since. -/
structure Precedes (t u : FlowTable) : Prop where
  capacity : u.capacity = t.capacity
  entry : ∀ {i e}, t.entry? i = some e → u.entry? i = some e
  lookup : ∀ {k i}, u.lookup k = some i → t.lookup k = some i ∨ t.entry? i = none

theorem Precedes.refl (t : FlowTable) : t.Precedes t := ⟨rfl, id, .inl⟩

theorem Precedes.trans (h : t.Precedes u) (h' : u.Precedes v) : t.Precedes v where
  capacity := h'.capacity.trans h.capacity
  entry := fun he => h'.entry (h.entry he)
  lookup := by
    intro k i hl
    rcases h'.lookup hl with hl | hn
    · exact h.lookup hl
    · refine .inr (Option.eq_none_iff_forall_ne_some.mpr fun e he => ?_)
      exact nomatch hn.symm.trans (h.entry he)

/-- After a request, entries have the identities that they had. -/
theorem Effect.precedes (hx : Effect r t u) : t.Precedes u := by
  cases hx with
  | same => exact .refl t
  | @entered u i e hx =>
      refine ⟨hx.capacity, fun {k x} he => ?_, fun {k n} hl => ?_⟩
      · have hk : k ≠ i := fun hk => nomatch (hk ▸ hx.new).symm.trans he
        rw [hx.entry, if_neg hk, he]
      · rw [hx.lookup] at hl
        split at hl
        · exact .inr (Option.some.inj hl ▸ hx.new)
        · exact .inl hl
  | @joined u i j a b hx =>
      refine ⟨hx.capacity, fun {k x} he => ?_, fun {k n} hl => ?_⟩
      · have hi : k ≠ i := fun hk => nomatch (hk ▸ hx.new₁).symm.trans he
        have hj : k ≠ j := fun hk => nomatch (hk ▸ hx.new₂).symm.trans he
        rw [hx.entry_other hi hj, he]
      · rw [hx.lookup] at hl
        split at hl
        · exact .inr (Option.some.inj hl ▸ hx.new₁)
        · split at hl
          · exact .inr (Option.some.inj hl ▸ hx.new₂)
          · exact .inl hl
  | @removed u i e _ hx =>
      refine ⟨hx.capacity, fun {k x} he => ?_, fun {k n} hl => ?_⟩
      · rw [hx.entry]
        split
        · next hk => rw [← hx.stored.entry, ← hk, he]
        · exact he
      · rw [FlowTable.lookup, hx.index, FiniteMap.get?_erase] at hl
        split at hl
        · cases hl
        · exact .inl hl
  | drained _ => exact ⟨rfl, id, fun h => absurd h.symm (Option.some_ne_none _)⟩

theorem Sound.precedes_serveAll (h : t.Sound) (rs : List Request) :
    t.Precedes (t.serveAll rs) := by
  induction rs generalizing t with
  | nil => exact .refl t
  | cons r rs ih =>
      have hx := effect_serve h.filed r
      exact hx.precedes.trans (ih (h.effect hx))

/-- An entry that has left never comes back. -/
theorem Precedes.not_stored (h : t.Precedes u) (hs : t.entry? i = some e)
    (hn : t.lookup e.tuple ≠ some i) (x : Entry) : ¬ u.Stored i x := by
  intro hx
  obtain rfl := Option.some.inj ((h.entry hs).symm.trans hx.entry)
  rcases h.lookup hx.lookup with hl | hnew
  · exact hn hl
  · exact nomatch hnew.symm.trans hs

/-- What is stored stays so until it is to be removed. -/
theorem Effect.stored (hx : Effect r t u) (hs : t.Stored i e) (hr : ¬ r.Takes e.tuple i) :
    u.Stored i e := by
  cases hx with
  | same => exact hs
  | entered hx =>
      exact ⟨by rw [hx.entry, if_neg (hs.ne_of_new hx.new), hs.entry],
        by rw [hx.lookup, if_neg (hs.tuple_ne hx.untracked), hs.lookup]⟩
  | joined hx => exact hx.stored_old hs
  | @removed u j x hj hx =>
      refine hx.stored_other hs fun ht => hr ?_
      obtain ⟨rfl, rfl⟩ := hs.eq_of_tuple_eq hx.stored ht
      exact hj
  | drained hd =>
      subst hd
      exact absurd trivial hr

/-- An entry stays stored as long as no request takes it. -/
theorem Sound.stored_serveAll (h : t.Sound) (hs : t.Stored i e) (rs : List Request)
    (hr : ∀ r ∈ rs, ¬ r.Takes e.tuple i) : (t.serveAll rs).Stored i e := by
  induction rs generalizing t with
  | nil => exact hs
  | cons r rs ih =>
      have hx := effect_serve h.filed r
      refine ih (h.effect hx) (hx.stored hs (hr r List.mem_cons_self)) ?_
      exact fun r' hr' => hr r' (List.mem_cons_of_mem _ hr')

/-- **A table holds what it says.**  Whatever has been asked of a new table, it counts the entries
that it holds, and never more than it may.  Each of them is listed once, and found under its own
tuple.  What is to be stored is stored, or nothing has changed; and then it stays the one that is
found until it is to be removed.  An entry is removed for itself exactly if it is the one stored
under its tuple, so that one which has left never takes out what came after it.  Emptying the table
yields each stored entry once, and leaves nothing. -/
theorem representation (capacity : Nat) (rs : List Request) :
    let t := (empty capacity).serveAll rs
    (t.size = t.toList.length ∧ t.size ≤ capacity) ∧
    (t.Filed ∧ (∀ k i, (k, i) ∈ t.toList ↔ t.lookup k = some i) ∧
      (t.toList.map Prod.fst).Nodup ∧ (t.toList.map Prod.snd).Nodup) ∧
    (∀ e, (∃ i u, t.enroll e = (.ok i, u) ∧ u.Stored i e) ∨ ∃ err, t.enroll e = (.error err, t)) ∧
    (∀ a b, (∃ i j u, t.enrollPair a b = (.ok (i, j), u) ∧ u.Stored i a ∧ u.Stored j b) ∨
      ∃ err, t.enrollPair a b = (.error err, t)) ∧
    (∀ i e, t.Stored i e → ∀ more, (∀ r ∈ more, ¬ r.Takes e.tuple i) →
      (t.serveAll more).Stored i e) ∧
    (∀ i, (t.removeExact i).1 = true ↔ ∃ e, t.Stored i e) ∧
    (∀ i, (∀ e, ¬ t.Stored i e) → t.removeExact i = (false, t)) ∧
    (∀ i e, t.Stored i e → ∀ k,
      (t.removeExact i).2.lookup k = if k = e.tuple then none else t.lookup k) ∧
    (∀ i e, t.Stored i e → ∀ more, ¬ (t.serveAll more).Stored i e → ∀ later,
      let u := (t.serveAll more).serveAll later
      u.removeExact i = (false, u)) ∧
    (t.drain.1.Nodup ∧ (∀ i, i ∈ t.drain.1 ↔ ∃ e, t.Stored i e) ∧
      t.drain.2.size = 0 ∧ ∀ k, t.drain.2.lookup k = none) := by
  intro t
  have hs : t.Sound := (sound_empty capacity).serveAll rs
  have hc : t.capacity = capacity := ((sound_empty capacity).precedes_serveAll rs).capacity
  refine ⟨⟨hs.size_eq, hc ▸ hs.bounded⟩, ⟨hs.filed, fun _ _ => mem_toList_iff, hs.nodup_toList⟩,
    ?_, ?_, fun i e he more => hs.stored_serveAll he more, fun _ => removeExact_eq_true_iff,
    fun _ => removeExact_of_not_stored, ?_, ?_, hs.nodup_toList.2, fun _ => hs.mem_drain_iff,
    hs.drained.counted, fun _ => rfl⟩
  · intro e
    refine (t.enroll_cases e).imp_left ?_
    rintro ⟨i, u, hu, hx⟩
    exact ⟨i, u, hu, hx.stored⟩
  · intro a b
    refine (t.enrollPair_cases a b).imp_left ?_
    rintro ⟨i, j, u, hu, hx⟩
    exact ⟨i, j, u, hu, hx.stored₁, hx.stored₂⟩
  · intro i e he k
    rw [removeExact_of_stored he]
    exact FiniteMap.get?_erase _ _ _
  · intro i e he more hn later
    have hm := hs.serveAll more
    -- the entry is where it was, so it is its tuple that has come to lead elsewhere
    have he' := (hs.precedes_serveAll more).entry he.entry
    refine removeExact_of_not_stored fun x => ?_
    exact (hm.precedes_serveAll later).not_stored he' (fun hl => hn ⟨he', hl⟩) x

end FlowOffload.FlowTable
