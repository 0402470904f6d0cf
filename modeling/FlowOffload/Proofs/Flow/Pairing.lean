import FlowOffload.Proofs.Flow.Table

/-!
# Pairs — the two directions of a flow stay together

Two entries are *mates* when they are the two directions of one flow: their tuples and their egress
tuples are reverse to one another, one of them owns the NAT port if there is one, and they are
offloaded together or not at all.  A table is *paired* when every stored entry has its mate.

Much of what happens to a table cannot be seen by its pairs.  Two entries are *alike* when they
differ only in what they have counted and in a claim; two tables are alike when their indexes are
the same and their entries are alike.  What is left is stated as a relation for each way in which
pairs do change:

* `FlowTable.Joined`: a pair goes in (`Paired.joined`);
* `FlowTable.Finished`: both directions of a pair become offloaded (`Paired.finished`);
* `FlowTable.Parted`: an offloaded pair leaves (`Paired.parted`).
-/

namespace FlowOffload

/-- The transitions that workers make on their own: a claim is taken, or given up. -/
def Transition.Tentative (c : Transition) : Prop := c = .claim ∨ c = .revert

instance (c : Transition) : Decidable c.Tentative := inferInstanceAs (Decidable (_ ∨ _))

theorem Transition.Tentative.claim : Transition.claim.Tentative := .inl rfl

theorem Transition.Tentative.revert : Transition.revert.Tentative := .inr rfl

/-! ### Entries that are alike -/

namespace Entry

/-- `e'` is `e` but for what it has counted, and for claims. -/
structure Alike (e e' : Entry) : Prop where
  tuple : e'.tuple = e.tuple
  egress : e'.egress = e.egress
  natPort : e'.natPort = e.natPort
  rule : e'.rule = e.rule
  offloaded : e'.status = .offloaded ↔ e.status = .offloaded

theorem Alike.refl (e : Entry) : e.Alike e := ⟨rfl, rfl, rfl, rfl, Iff.rfl⟩

/-- What is alike to an entry that is alike is alike. -/
theorem Alike.trans {e e' e'' : Entry} (h : e.Alike e') (h' : e'.Alike e'') : e.Alike e'' :=
  ⟨h'.tuple.trans h.tuple, h'.egress.trans h.egress, h'.natPort.trans h.natPort,
    h'.rule.trans h.rule, h'.offloaded.trans h.offloaded⟩

/-- Counting a packet leaves an entry alike. -/
theorem alike_record (e : Entry) (len : UInt64) : e.Alike (e.record len) :=
  ⟨rfl, rfl, rfl, rfl, Iff.rfl⟩

/-- Neither a claim nor giving one up starts or ends at `offloaded`. -/
theorem alike_change (e : Entry) {c : Transition} (hc : c.Tentative) : e.Alike (e.change c) := by
  rw [change]
  split
  · next ha =>
      rw [Admits] at ha
      refine ⟨rfl, rfl, rfl, rfl, ?_⟩
      rcases hc with rfl | rfl <;> simp [ha, Transition.source, Transition.target]
  · exact .refl e

/-! ### Mates -/

/-- `e` owns the NAT port of the pair `e`, `p`: its packets leave for `nat` at that port. -/
def Owns (nat : UInt32) (e p : Entry) : Prop :=
  ∃ port, e.natPort = some port ∧ e.egress = some (egressTo e.tuple (nat, port)) ∧
    p.natPort = none

/-- `e` and `p` are the two directions of one flow. -/
structure Mates (nat : UInt32) (e p : Entry) : Prop where
  tuple : p.tuple = e.tuple.reverse
  distinct : p.tuple ≠ e.tuple
  egress : p.egress = e.egress.map FiveTuple.reverse
  owner : (e.egress = none ∧ e.natPort = none ∧ p.natPort = none) ∨ Owns nat e p ∨ Owns nat p e
  together : e.status = .offloaded ↔ p.status = .offloaded

variable {nat : UInt32} {e p e' p' : Entry}

/-- Mates are mates of one another. -/
theorem Mates.symm (h : Mates nat e p) : Mates nat p e where
  tuple := by rw [h.tuple, FiveTuple.reverse_reverse]
  distinct := h.distinct.symm
  egress := by cases he : e.egress <;> simp [h.egress, he]
  owner := by
    rcases h.owner with ⟨he, hn, hp⟩ | ho | ho
    · exact .inl ⟨by rw [h.egress, he]; rfl, hp, hn⟩
    · exact .inr (.inr ho)
    · exact .inr (.inl ho)
  together := h.together.symm

/-- Entries that are alike own the same port. -/
theorem Owns.congr (h : Owns nat e p) (he : e.Alike e') (hp : p.Alike p') : Owns nat e' p' := by
  obtain ⟨port, h₁, h₂, h₃⟩ := h
  exact ⟨port, he.natPort.trans h₁, by rw [he.egress, he.tuple, h₂], hp.natPort.trans h₃⟩

/-- Entries that are alike have mates that are alike. -/
theorem Mates.congr (h : Mates nat e p) (he : e.Alike e') (hp : p.Alike p') : Mates nat e' p' where
  tuple := by rw [hp.tuple, he.tuple, h.tuple]
  distinct := by rw [hp.tuple, he.tuple]; exact h.distinct
  egress := by rw [hp.egress, he.egress, h.egress]
  owner := by
    rcases h.owner with ⟨h₁, h₂, h₃⟩ | ho | ho
    · exact .inl ⟨he.egress.trans h₁, he.natPort.trans h₂, hp.natPort.trans h₃⟩
    · exact .inr (.inl (ho.congr he hp))
    · exact .inr (.inr (ho.congr hp he))
  together := by rw [he.offloaded, hp.offloaded]; exact h.together

/-- The packets of the port's owner leave for that port. -/
theorem Mates.egress_of_port (h : Mates nat e p) {n : UInt16} (hn : e.natPort = some n) :
    e.egress = some (egressTo e.tuple (nat, n)) := by
  rcases h.owner with ⟨-, hx, -⟩ | ⟨m, hm, he, -⟩ | ⟨-, -, -, hx⟩
  · exact nomatch hn.symm.trans hx
  · obtain rfl := Option.some.inj (hn.symm.trans hm)
    exact he
  · exact nomatch hn.symm.trans hx

/-- The two entries that a flow begins with are mates, unless its tuple is its own reverse. -/
theorem mates_opening {t : FiveTuple} (ht : t.reverse ≠ t) (port : Option UInt16) (len : UInt64) :
    Mates nat (opening t (port.map (nat, ·)) len) (answering t (port.map (nat, ·))) where
  tuple := rfl
  distinct := ht
  egress := rfl
  owner := by
    cases port with
    | none => exact .inl ⟨rfl, rfl, rfl⟩
    | some n => exact .inr (.inl ⟨n, rfl, rfl, rfl⟩)
  together := Iff.rfl

end Entry

namespace FlowTable

/-! ### Tables that are alike -/

/-- The index of `u` is that of `t`, and their entries are alike. -/
structure Alike (t u : FlowTable) : Prop where
  index : u.index = t.index
  entry : ∀ {i e}, t.entry? i = some e → ∃ e', u.entry? i = some e' ∧ e.Alike e'
  entry_rev : ∀ {i e'}, u.entry? i = some e' → ∃ e, t.entry? i = some e ∧ e.Alike e'

namespace Alike

variable {t u v : FlowTable} {i : EntryId} {e : Entry}

theorem refl (t : FlowTable) : t.Alike t :=
  ⟨rfl, fun h => ⟨_, h, .refl _⟩, fun h => ⟨_, h, .refl _⟩⟩

theorem trans (h : t.Alike u) (h' : u.Alike v) : t.Alike v := by
  refine ⟨h'.index.trans h.index, fun he => ?_, fun he => ?_⟩
  · obtain ⟨e₁, he₁, ha⟩ := h.entry he
    obtain ⟨e₂, he₂, ha'⟩ := h'.entry he₁
    exact ⟨e₂, he₂, ha.trans ha'⟩
  · obtain ⟨e₁, he₁, ha'⟩ := h'.entry_rev he
    obtain ⟨e₂, he₂, ha⟩ := h.entry_rev he₁
    exact ⟨e₂, he₂, ha.trans ha'⟩

/-- Entries that are replaced by entries alike make a table that is alike. -/
theorem of_map {f : EntryId → Entry → Entry} (hx : u.index = t.index)
    (he : ∀ i, u.entry? i = (t.entry? i).map (f i)) (hf : ∀ i (e : Entry), e.Alike (f i e)) :
    t.Alike u where
  index := hx
  entry := fun {i e} h => ⟨f i e, by rw [he, h]; rfl, hf i e⟩
  entry_rev := by
    intro i e' h
    rw [he] at h
    obtain ⟨e, h', rfl⟩ := Option.map_eq_some_iff.mp h
    exact ⟨e, h', hf i e⟩

theorem modify (t : FlowTable) (i : EntryId) {f : Entry → Entry} (hf : ∀ e : Entry, e.Alike (f e)) :
    t.Alike (t.modify i f) := by
  refine of_map (f := fun k e => if k = i then f e else e) rfl (fun k => ?_) fun k e => ?_
  · rw [entry?_modify]
    by_cases hk : k = i
    · simp only [if_pos hk]
    · simp only [if_neg hk, Option.map_id']
  · split
    · exact hf e
    · exact .refl e

/-- Tables that are alike find the same identities. -/
theorem lookup (h : t.Alike u) (k : FiveTuple) : u.lookup k = t.lookup k :=
  congrArg (FiniteMap.get? · k) h.index

/-- What is stored is stored in a table alike, but for what is not seen. -/
theorem stored (h : t.Alike u) (hs : t.Stored i e) : ∃ e', u.Stored i e' ∧ e.Alike e' := by
  obtain ⟨e', he', ha⟩ := h.entry hs.entry
  exact ⟨e', ⟨he', by rw [h.lookup, ha.tuple, hs.lookup]⟩, ha⟩

theorem stored_rev (h : t.Alike u) {e' : Entry} (hs : u.Stored i e') :
    ∃ e, t.Stored i e ∧ e.Alike e' := by
  obtain ⟨e, he, ha⟩ := h.entry_rev hs.entry
  exact ⟨e, ⟨he, by rw [← h.lookup, ← ha.tuple, hs.lookup]⟩, ha⟩

end Alike

/-- Two entries are replaced by entries that are alike. -/
theorem Updated.alike {t u : FlowTable} {i j : EntryId} {e p a b : Entry} (h : t.Updated u i j a b)
    (hi : t.entry? i = some e) (ha : e.Alike a) (hj : t.entry? j = some p) (hb : p.Alike b) :
    t.Alike u where
  index := h.index
  entry := by
    intro k x hk
    by_cases hki : k = i
    · subst hki
      obtain rfl := Option.some.inj (hk.symm.trans hi)
      exact ⟨a, h.entry₁, ha⟩
    · by_cases hkj : k = j
      · subst hkj
        obtain rfl := Option.some.inj (hk.symm.trans hj)
        exact ⟨b, h.entry₂, hb⟩
      · exact ⟨x, (h.entry_other hki hkj).trans hk, .refl x⟩
  entry_rev := by
    intro k x hk
    rcases h.entry_cases hk with ⟨rfl, rfl⟩ | ⟨rfl, rfl⟩ | ⟨-, -, hk⟩
    · exact ⟨e, hi, ha⟩
    · exact ⟨p, hj, hb⟩
    · exact ⟨x, hk, .refl x⟩

/-! ### Paired tables -/

/-- Every stored entry has its mate, and whatever is not offloaded is stored and has no rule. -/
structure Paired (nat : UInt32) (t : FlowTable) : Prop where
  filed : t.Filed
  mated : ∀ {i e}, t.Stored i e → ∃ j p, t.Stored j p ∧ Entry.Mates nat e p
  strays : ∀ {i e}, t.entry? i = some e → e.status ≠ .offloaded → t.Stored i e
  idle : ∀ {i e}, t.entry? i = some e → e.status ≠ .offloaded → e.rule = none

/-- An empty table is paired. -/
theorem paired_empty (nat : UInt32) (capacity : Nat) : (empty capacity).Paired nat where
  filed := fun _ _ h => nomatch h
  mated := fun h => nomatch h.lookup
  strays := fun h => by simp [empty, entry?] at h
  idle := fun h => by simp [empty, entry?] at h

variable {nat : UInt32} {t u : FlowTable} {i j : EntryId} {e p a b : Entry}

/-- A table that is alike is paired alike. -/
theorem Paired.alike (hp : t.Paired nat) (h : t.Alike u) : u.Paired nat where
  filed := by
    intro k i hl
    rw [h.lookup] at hl
    obtain ⟨e, he, rfl⟩ := hp.filed k i hl
    obtain ⟨e', he', ha⟩ := h.entry he
    exact ⟨e', he', ha.tuple⟩
  mated := by
    intro _ _ hs
    obtain ⟨e, hs', ha⟩ := h.stored_rev hs
    obtain ⟨j, p, hj, hm⟩ := hp.mated hs'
    obtain ⟨p', hj', ha'⟩ := h.stored hj
    exact ⟨j, p', hj', hm.congr ha ha'⟩
  strays := by
    intro _ _ he hn
    obtain ⟨e, he', ha⟩ := h.entry_rev he
    obtain ⟨e'', hs, -⟩ := h.stored (hp.strays he' (mt ha.offloaded.mpr hn))
    obtain rfl := Option.some.inj (he.symm.trans hs.entry)
    exact hs
  idle := by
    intro _ _ he hn
    obtain ⟨e, he', ha⟩ := h.entry_rev he
    exact ha.rule.trans (hp.idle he' (mt ha.offloaded.mpr hn))

/-! ### Pairs that come, finish and go -/

/-- The mate of a mate is the entry itself. -/
theorem Stored.eq_of_mates {k : EntryId} {x : Entry} (hs : t.Stored k x)
    (hm : Entry.Mates nat x e) (hj : t.Stored j p) (ht : p.tuple = e.tuple.reverse) : k = j :=
  (hs.eq_of_tuple_eq hj (hm.symm.tuple.trans ht.symm)).1

/-- Outside a pair, mates are found outside the pair. -/
theorem Paired.mated_outside (hp : t.Paired nat) (hi : t.Stored i e) (hj : t.Stored j p)
    (ht : p.tuple = e.tuple.reverse) {k : EntryId} {x : Entry} (hs : t.Stored k x) (hki : k ≠ i)
    (hkj : k ≠ j) : ∃ n y, t.Stored n y ∧ n ≠ i ∧ n ≠ j ∧ Entry.Mates nat x y := by
  obtain ⟨n, y, hy, hm⟩ := hp.mated hs
  refine ⟨n, y, hy, ?_, ?_, hm⟩
  · rintro rfl
    obtain rfl := hy.unique hi
    exact hkj (hs.eq_of_mates hm hj ht)
  · rintro rfl
    obtain rfl := hy.unique hj
    exact hki (hs.eq_of_mates hm hi (by rw [ht, FiveTuple.reverse_reverse]))

/-- A pair of mates goes in. -/
theorem Paired.joined (hp : t.Paired nat) (h : t.Joined u i j a b) (hm : Entry.Mates nat a b)
    (ha : a.rule = none) (hb : b.rule = none) : u.Paired nat where
  filed := h.filed hp.filed
  mated := by
    intro k x hs
    rcases h.stored_cases hs with ⟨rfl, rfl⟩ | ⟨rfl, rfl⟩ | hs
    · exact ⟨j, b, h.stored₂, hm⟩
    · exact ⟨i, a, h.stored₁, hm.symm⟩
    · obtain ⟨n, y, hy, hm'⟩ := hp.mated hs
      exact ⟨n, y, h.stored_old hy, hm'⟩
  strays := by
    intro k x hx hn
    rcases h.entry_cases hx with ⟨rfl, rfl⟩ | ⟨rfl, rfl⟩ | ⟨-, -, hx⟩
    · exact h.stored₁
    · exact h.stored₂
    · exact h.stored_old (hp.strays hx hn)
  idle := by
    intro k x hx hn
    rcases h.entry_cases hx with ⟨rfl, rfl⟩ | ⟨rfl, rfl⟩ | ⟨-, -, hx⟩
    · exact ha
    · exact hb
    · exact hp.idle hx hn

/-- `u` is `t` where the stored mates `e` and `p` are replaced by `a` and `b`, which are mates of
the same tuples and both offloaded. -/
structure Finished (nat : UInt32) (t u : FlowTable) (i j : EntryId) (e p a b : Entry) : Prop
    extends t.Updated u i j a b where
  stored₁ : t.Stored i e
  stored₂ : t.Stored j p
  tuple₁ : a.tuple = e.tuple
  tuple₂ : b.tuple = p.tuple
  mates : Entry.Mates nat a b
  offloaded : a.status = .offloaded

namespace Finished

theorem new₁ (h : Finished nat t u i j e p a b) : u.Stored i a :=
  ⟨h.entry₁, by rw [h.lookup, h.tuple₁, h.stored₁.lookup]⟩

theorem new₂ (h : Finished nat t u i j e p a b) : u.Stored j b :=
  ⟨h.entry₂, by rw [h.lookup, h.tuple₂, h.stored₂.lookup]⟩

theorem stored_old (h : Finished nat t u i j e p a b) {k : EntryId} {x : Entry}
    (hs : t.Stored k x) (hi : k ≠ i) (hj : k ≠ j) : u.Stored k x :=
  ⟨by rw [h.entry_other hi hj, hs.entry], by rw [h.lookup, hs.lookup]⟩

/-- What is stored afterwards is one of the two, or was stored before. -/
theorem stored_cases (h : Finished nat t u i j e p a b) {k : EntryId} {x : Entry}
    (hs : u.Stored k x) : (k = i ∧ x = a) ∨ (k = j ∧ x = b) ∨ (k ≠ i ∧ k ≠ j ∧ t.Stored k x) := by
  rcases h.entry_cases hs.entry with hi | hj | ⟨hi, hj, hx⟩
  · exact .inl hi
  · exact .inr (.inl hj)
  · exact .inr (.inr ⟨hi, hj, hx, by rw [← h.lookup, hs.lookup]⟩)

end Finished

/-- The directions of a pair become offloaded together. -/
theorem Paired.finished (hp : t.Paired nat) (h : Finished nat t u i j e p a b) :
    u.Paired nat where
  filed := by
    intro k n hl
    rw [h.lookup] at hl
    obtain ⟨x, hs, rfl⟩ := hp.filed.stored hl
    by_cases hi : n = i
    · subst hi
      obtain rfl := hs.unique h.stored₁
      exact ⟨a, h.entry₁, h.tuple₁⟩
    · by_cases hj : n = j
      · subst hj
        obtain rfl := hs.unique h.stored₂
        exact ⟨b, h.entry₂, h.tuple₂⟩
      · exact ⟨x, (h.stored_old hs hi hj).entry, rfl⟩
  mated := by
    intro k x hs
    -- the entries have changed, but not the tuples under which their mates look for them
    have ht : p.tuple = e.tuple.reverse := by rw [← h.tuple₁, ← h.tuple₂, h.mates.tuple]
    rcases h.stored_cases hs with ⟨rfl, rfl⟩ | ⟨rfl, rfl⟩ | ⟨hi, hj, hs⟩
    · exact ⟨j, b, h.new₂, h.mates⟩
    · exact ⟨i, a, h.new₁, h.mates.symm⟩
    · obtain ⟨n, y, hy, hni, hnj, hm⟩ := hp.mated_outside h.stored₁ h.stored₂ ht hs hi hj
      exact ⟨n, y, h.stored_old hy hni hnj, hm⟩
  strays := by
    intro k x hx hn
    rcases h.entry_cases hx with ⟨-, rfl⟩ | ⟨-, rfl⟩ | ⟨hi, hj, hx⟩
    · exact absurd h.offloaded hn
    · exact absurd (h.mates.together.mp h.offloaded) hn
    · exact h.stored_old (hp.strays hx hn) hi hj
  idle := by
    intro k x hx hn
    rcases h.entry_cases hx with ⟨-, rfl⟩ | ⟨-, rfl⟩ | ⟨-, -, hx⟩
    · exact absurd h.offloaded hn
    · exact absurd (h.mates.together.mp h.offloaded) hn
    · exact hp.idle hx hn

/-- An offloaded pair leaves. -/
theorem Paired.parted (hp : t.Paired nat) (h : t.Parted u i j e p a b)
    (ht : p.tuple = e.tuple.reverse) (ha : a.status = .offloaded) (hb : b.status = .offloaded) :
    u.Paired nat where
  filed := by
    intro k n hl
    obtain ⟨hl, hi, hj⟩ := h.lookup_old hp.filed hl
    obtain ⟨x, hs, rfl⟩ := hp.filed.stored hl
    exact ⟨x, (h.stored_iff.mpr ⟨hs, hi, hj⟩).entry, rfl⟩
  mated := by
    intro k x hs
    obtain ⟨hs, hi, hj⟩ := h.stored_iff.mp hs
    obtain ⟨n, y, hy, hni, hnj, hm⟩ := hp.mated_outside h.stored₁ h.stored₂ ht hs hi hj
    exact ⟨n, y, h.stored_iff.mpr ⟨hy, hni, hnj⟩, hm⟩
  strays := by
    intro k x hx hn
    rcases h.entry_cases hx with ⟨-, rfl⟩ | ⟨-, rfl⟩ | ⟨hi, hj, hx⟩
    · exact absurd ha hn
    · exact absurd hb hn
    · exact h.stored_iff.mpr ⟨hp.strays hx hn, hi, hj⟩
  idle := by
    intro k x hx hn
    rcases h.entry_cases hx with ⟨-, rfl⟩ | ⟨-, rfl⟩ | ⟨-, -, hx⟩
    · exact absurd ha hn
    · exact absurd hb hn
    · exact hp.idle hx hn

end FlowTable

end FlowOffload
