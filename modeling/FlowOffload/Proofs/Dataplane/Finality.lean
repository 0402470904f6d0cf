import FlowOffload.Proofs.Dataplane.EvictionOrder
import FlowOffload.Proofs.Dataplane.FlowCounts
import FlowOffload.Proofs.Dataplane.Waiting

/-!
# Finality — offloaded until evicted

An attempt that fails late takes `offloaded` back, and claims are given up on entries that may have
passed into other hands.  None of this reaches an entry that was offloaded before.  So in whatever
state a data plane is, its activities leave offloaded entries offloaded, and only an eviction run
takes them out of the table; and an entry becomes offloaded only when an attempt on it or on its
peer is installed (`Dataplane.offloaded_until_evicted`).

An attempt never gets to its work if the peer is offloaded (`Dataplane.begins_offloadPair`), so what
it works on are two entries that are not.
-/

namespace FlowOffload

/-- What the activities of a data plane do to it. -/
inductive Operation where
  /-- A packet is handled by itself. -/
  | process (frame : Frame)
  /-- A burst is received, handled and transmitted. -/
  | poll (port : PortId) (queue : QueueId)
  /-- A batch of the handoff queue is installed. -/
  | drainBatch
  /-- An entry and its peer are offloaded, whether the entry is on the handoff queue or not. -/
  | offloadPair (i : EntryId)
  /-- The flows of aged rules are evicted. -/
  | evictAged (port : PortId)

/-- What of an entry does not change when it leaves the table. -/
def Entry.face (e : Entry) : FiveTuple × Status := (e.tuple, e.status)

namespace FlowTable

variable {t : FlowTable} {i : EntryId}

/-- An entry that leaves the table is still held under its identity. -/
theorem entry?_removeExact (t : FlowTable) (i k : EntryId) :
    entry? (t.removeExact i).2 k = t.entry? k := by
  rw [removeExact]
  split
  · rfl
  · split <;> rfl

/-- Removing an entry can end the look-ups of its tuple, and of no other. -/
theorem lookup_removeExact (t : FlowTable) (i : EntryId) (u : FiveTuple) :
    (t.removeExact i).2.lookup u = t.lookup u ∨
      (t.removeExact i).2.lookup u = none ∧ (t.entry? i).map Entry.tuple = some u := by
  rw [removeExact]
  split
  · exact .inl rfl
  · next e he =>
      split
      · simp only [lookup, FiniteMap.get?_erase]
        split
        · next hu => exact .inr ⟨rfl, by rw [he, hu]; rfl⟩
        · exact .inl rfl
      · exact .inl rfl

end FlowTable

namespace Dataplane

variable {d d' d'' : Dataplane} {i j k : EntryId} {e p : Entry} {t u : FiveTuple}

/-- The data plane after an operation. -/
def perform (d : Dataplane) : Operation → Dataplane
  | .process frame => (d.process frame).2.2
  | .poll port queue => (d.poll port queue).2
  | .drainBatch => d.drainBatch.2
  | .offloadPair i => (d.offloadPair i).2
  | .evictAged port => (d.evictAged port).2

/-- The attempts on entries, one after the other, each with the state in which it is made. -/
def attemptsEach (d : Dataplane) : List EntryId → List (Dataplane × EntryId)
  | [] => []
  | i :: is => (d, i) :: (d.offloadPair i).2.attemptsEach is

/-- The attempts on a batch of the handoff queue. -/
def drainAttempts (d : Dataplane) : List (Dataplane × EntryId) :=
  let batch := d.handoff.take d.settings.engineBatchSize.toNat
  { d with handoff := d.handoff.drop batch.length }.attemptsEach batch

/-- The attempts that an operation comes to. -/
def attempts (d : Dataplane) : Operation → List (Dataplane × EntryId)
  | .drainBatch => d.drainAttempts
  | .offloadPair i => [(d, i)]
  | .process _ | .poll _ _ | .evictAged _ => []

/-! ### What stays offloaded -/

/-- The tuple and the status of the entry with an identity. -/
def face? (d : Dataplane) (k : EntryId) : Option (FiveTuple × Status) :=
  (d.entry? k).map Entry.face

/-- Every entry of `d` is in `d'` with its tuple, and offloaded if it was. -/
def Retains (d d' : Dataplane) : Prop :=
  ∀ k e, d.entry? k = some e → ∃ e', d'.entry? k = some e' ∧ e'.tuple = e.tuple ∧
    (e.status = .offloaded → e'.status = .offloaded)

namespace Retains

theorem refl (d : Dataplane) : d.Retains d := fun _ e he => ⟨e, he, rfl, id⟩

theorem trans (h : d.Retains d') (h' : d'.Retains d'') : d.Retains d'' := by
  intro k e he
  obtain ⟨e₁, he₁, ht₁, ho₁⟩ := h k e he
  obtain ⟨e₂, he₂, ht₂, ho₂⟩ := h' k e₁ he₁
  exact ⟨e₂, he₂, ht₂.trans ht₁, ho₂ ∘ ho₁⟩

/-- What is offloaded stays offloaded. -/
theorem hasStatus (h : d.Retains d') (hk : d.HasStatus k .offloaded) :
    d'.HasStatus k .offloaded := by
  obtain ⟨e, he, hs⟩ := Option.map_eq_some_iff.mp hk
  obtain ⟨e', he', -, ho⟩ := h k e he
  exact (hasStatus_iff he').mpr (ho hs)

/-- One entry changes, which keeps its tuple. -/
theorem modify (d : Dataplane) (i : EntryId) {f : Entry → Entry}
    (ht : ∀ e : Entry, (f e).tuple = e.tuple)
    (ho : ∀ e : Entry, e.status = .offloaded → d.HasStatus i .offloaded →
      (f e).status = .offloaded) : d.Retains (d.modify i f) := by
  intro k e he
  by_cases hk : k = i
  · subst hk
    refine ⟨f e, ?_, ht e, fun hs => ho e hs ((hasStatus_iff he).mpr hs)⟩
    exact (FlowTable.entry?_modify_self _ _ _).trans (congrArg _ he)
  · exact ⟨e, (FlowTable.entry?_modify_of_ne _ _ hk).trans he, rfl, id⟩

/-- A table that is alike retains what is offloaded. -/
theorem alike (h : d.table.Alike d'.table) : d.Retains d' := by
  intro k e he
  obtain ⟨e', he', ha⟩ := h.entry he
  exact ⟨e', he', ha.tuple, ha.offloaded.mpr⟩

theorem of_face (h : ∀ k, d'.face? k = d.face? k) :
    d.Retains d' := by
  intro k e he
  obtain ⟨e', he', hx⟩ := Option.map_eq_some_iff.mp ((h k).trans (congrArg _ he))
  obtain ⟨ht, hs⟩ := Prod.mk.inj hx
  exact ⟨e', he', ht, hs.trans⟩

theorem fail (h : d.Retains d') : d.Retains d'.fail := h

/-- A packet changes no entry's tuple, and ends no offload. -/
theorem handles (h : d.Handles d') : d.Retains d' := by
  cases h with
  | calm h => exact alike h.table
  | returned _ _ ht _ => exact alike (ht ▸ .refl _)
  | opened _ _ hj _ =>
      intro k e he
      refine ⟨e, (hj.entry_other ?_ ?_).trans he, rfl, id⟩
      · rintro rfl
        cases hj.new₁.symm.trans he
      · rintro rfl
        cases hj.new₂.symm.trans he

end Retains

/-! ### How an attempt begins -/

/-- What an attempt on `i` comes to, as far as its beginning decides it. -/
inductive Begins (d : Dataplane) (i : EntryId) : OffloadResult × Dataplane → Prop where
  | unclaimed : ¬ d.HasStatus i .offloading → Begins d i (.ok .skipped, d)
  | alone (t : FiveTuple) : d.HasStatus i .offloading →
      Begins d i (.error (.peerMissing t), (d.change i .revert).fail)
  | served : d.HasStatus i .offloading → Begins d i (.ok .skipped, d.change i .revert)
  | claimed (j : EntryId) (e p : Entry) : d.HasStatus i .offloading →
      d.table.peerOf i = some j → ¬ d.HasStatus j .offloaded →
      Begins d i ((d.change j .claim).installPair i j e p)

/-- **How an attempt begins**, and how it ends if nothing was claimed or there is no peer. -/
theorem begins_offloadPair (d : Dataplane) (i : EntryId) : d.Begins i (d.offloadPair i) := by
  rw [offloadPair]
  split
  · next he =>
      refine .unclaimed ?_
      rw [HasStatus, he]
      rintro ⟨⟩
  · next e he =>
      have hi := hasStatus_iff (s := .offloading) he
      split
      · next hs => exact .unclaimed (mt hi.mp hs)
      · next hs =>
          have hs := hi.mpr (Decidable.not_not.mp hs)
          split
          · exact .alone _ hs
          · next j hl =>
              have hp : d.table.peerOf i = some j := by
                rw [FlowTable.peerOf, show d.table.entry? i = some e from he]
                exact hl
              split
              · exact .alone _ hs
              · next p hj =>
                  split
                  · exact .served hs
                  · next ho => exact .claimed j e p hs hp (mt (hasStatus_iff hj).mp ho)

/-- A claim does not give up what is offloaded. -/
theorem not_offloaded_of_offloading (h : d.HasStatus i .offloading) :
    ¬ d.HasStatus i .offloaded := by
  intro h'
  cases h.symm.trans h'

/-! ### What an attempt leaves offloaded -/

/-- Fair interference ends no offload. -/
theorem retains_disturb (hf : d.Fair) : d.Retains d.disturb := .alike (alike_disturb hf)

/-- Work on entries that are not offloaded ends no offload. -/
theorem outlasts_retains (d : Dataplane) :
    Outlasts (fun x => x.Fair ∧ d.Retains x) fun n => ¬ d.HasStatus n .offloaded where
  change := by
    intro x n c hn h
    refine ⟨h.1, fun k e he => ?_⟩
    obtain ⟨e', he', ht, ho⟩ := h.2 k e he
    by_cases hk : k = n
    · subst hk
      refine ⟨e'.change c, (FlowTable.entry?_modify_self _ _ _).trans (congrArg _ he'), ?_, ?_⟩
      · rw [Entry.change_eq]
        exact ht
      · exact fun hs => absurd ((hasStatus_iff he).mpr hs) hn
    · exact ⟨e', (FlowTable.entry?_modify_of_ne _ _ hk).trans he', ht, ho⟩
  setRule := fun r _ h => ⟨h.1, h.2.trans (.modify _ _ (fun _ => rfl) fun _ hs _ => hs)⟩
  install := fun _ _ h => h
  scrap := fun _ _ h => h
  disturb := fun h => ⟨fair_disturb h.1, h.2.trans (retains_disturb h.1)⟩

/-- **An attempt**, on whatever entry, ends no offload. -/
theorem retains_offloadPair (hf : d.Fair) (i : EntryId) :
    (d.offloadPair i).2.Fair ∧ d.Retains (d.offloadPair i).2 := by
  have hd : d.Fair ∧ d.Retains d := ⟨hf, .refl d⟩
  have hb := d.begins_offloadPair i
  generalize d.offloadPair i = x at hb ⊢
  cases hb with
  | unclaimed => exact hd
  | alone _ hs =>
      have hx := (outlasts_retains d).change .revert (not_offloaded_of_offloading hs) hd
      exact ⟨hx.1, hx.2.fail⟩
  | served hs => exact (outlasts_retains d).change .revert (not_offloaded_of_offloading hs) hd
  | claimed j e p hs hp ho =>
      have hc := (outlasts_retains d).change .claim ho hd
      have hx := (outlasts_retains d).installPair (not_offloaded_of_offloading hs) ho hc e p
      generalize installPair _ i j e p = y at hx ⊢
      cases hx with
      | skipped h | failed _ h | installed h => exact h

/-! ### Who becomes offloaded -/

theorem hasStatus_setRule (d : Dataplane) (i : EntryId) (r : Option Handle) {s : Status} :
    (d.modify i fun e => { e with rule := r }).HasStatus k s ↔ d.HasStatus k s := by
  by_cases hk : k = i
  · subst hk
    rw [hasStatus_modify_self]
    exact Option.map_eq_some_iff.symm
  · exact hasStatus_modify_of_ne d _ hk

theorem hasStatus_dropRule (d : Dataplane) (i : EntryId) {s : Status} :
    (d.dropRule i).HasStatus k s ↔ d.HasStatus k s := by
  rw [dropRule]
  split
  · exact Iff.rfl
  · rw [destroyRule_eq]
    exact hasStatus_setRule d i none

/-- Only finishing a claim leads to `offloaded`. -/
theorem offloaded_change {c : Transition} (h : (d.change i c).HasStatus k .offloaded) :
    d.HasStatus k .offloaded ∨ k = i ∧ c = .finish ∧ d.HasStatus i .offloading := by
  by_cases hk : k = i
  · subst hk
    obtain ⟨e, he, hs⟩ := (hasStatus_modify_self _ _ _).mp h
    rw [hasStatus_iff he, hasStatus_iff he]
    rw [Entry.change_eq] at hs
    revert hs
    cases c <;> cases e.status <;> simp [Status.step, Transition.source, Transition.target]
  · exact .inl ((hasStatus_modify_of_ne _ _ hk).mp h)

/-- Whoever withdraws is not offloaded then. -/
theorem not_offloaded_withdraw (d : Dataplane) (i : EntryId) :
    ¬ (d.change i .withdraw).fail.HasStatus i .offloaded := by
  intro h
  obtain ⟨e, -, hs⟩ := (hasStatus_modify_self d i (·.change .withdraw)).mp h
  rw [Entry.change_eq] at hs
  revert hs
  cases e.status <;> simp [Status.step, Transition.source, Transition.target]

/-- Work on other entries does not make an entry offloaded. -/
theorem outlasts_not_offloaded (k : EntryId) :
    Outlasts (fun x => x.Fair ∧ ¬ x.HasStatus k .offloaded) (· ≠ k) where
  change := by
    intro x n c hn h
    refine ⟨h.1, fun hk => ?_⟩
    rcases offloaded_change hk with hk | ⟨rfl, -, -⟩
    · exact h.2 hk
    · exact hn rfl
  setRule := fun r _ h => ⟨h.1, mt (hasStatus_setRule _ _ r).mp h.2⟩
  install := fun _ _ h => h
  scrap := fun _ _ h => h
  disturb := by
    intro x h
    refine ⟨fair_disturb h.1, fun hk => h.2 ?_⟩
    obtain ⟨e', he', hs⟩ := Option.map_eq_some_iff.mp hk
    obtain ⟨e, he, ha⟩ := (alike_disturb h.1).entry_rev he'
    exact (hasStatus_iff he).mpr (ha.offloaded.mp hs)

/-- A change applies in its own status. -/
theorem transition_of_hasStatus {c : Transition} (h : d.HasStatus i c.source) :
    d.transition i c = (true, d.change i c) :=
  congrArg (·, _) (decide_eq_true h)

/-- In any other status it does not. -/
theorem transition_of_not_hasStatus {c : Transition} (h : ¬ d.HasStatus i c.source) :
    d.transition i c = (false, d.change i c) :=
  congrArg (·, _) (decide_eq_false h)

theorem hasStatus_fail (d : Dataplane) {s : Status} : d.fail.HasStatus k s ↔ d.HasStatus k s :=
  Iff.rfl

/-- Neither taking rules away nor giving up a claim makes anybody offloaded. -/
theorem offloaded_of_dropRules {n : EntryId} {c : Transition}
    (h : (((d.dropRule i).dropRule j).change n c).fail.HasStatus k .offloaded)
    (hc : c ≠ .finish) : d.HasStatus k .offloaded := by
  rw [hasStatus_fail] at h
  rcases offloaded_change h with h | ⟨-, h, -⟩
  · exact (hasStatus_dropRule _ _).mp ((hasStatus_dropRule _ _).mp h)
  · exact absurd h hc

/-- If the claims cannot be finished, nobody is offloaded in the end who was not. -/
theorem not_offloaded_finishPair (hk : ¬ d.HasStatus k .offloaded)
    (hr : (d.finishPair i j e p).1 ≠ .ok .installed) :
    ¬ (d.finishPair i j e p).2.HasStatus k .offloaded := by
  intro h
  by_cases hj : d.HasStatus j .offloading
  · have hj' := transition_of_hasStatus (c := .finish) hj
    by_cases hi : (d.change j .finish).HasStatus i .offloading
    · have hi' := transition_of_hasStatus (c := .finish) hi
      simp only [finishPair, hj', hi', ne_eq, not_true_eq_false] at hr
    · -- the peer is finished before this turns out, and is withdrawn
      have hi' := transition_of_not_hasStatus (c := .finish) hi
      simp only [finishPair, hj', hi'] at h
      by_cases hkj : k = j
      · subst hkj
        exact not_offloaded_withdraw _ _ h
      · have h' := offloaded_of_dropRules h (by rintro ⟨⟩)
        rcases offloaded_change h' with h | ⟨-, -, h⟩
        · rcases offloaded_change h with h | ⟨h, -, -⟩
          · exact hk h
          · exact hkj h
        · exact hi h
  · have hj' := transition_of_not_hasStatus (c := .finish) hj
    simp only [finishPair, hj'] at h
    have h' := offloaded_of_dropRules h (by rintro ⟨⟩)
    rcases offloaded_change h' with h | ⟨-, -, h⟩
    · exact hk h
    · exact hj h

/-- If the rules cannot be installed, nobody is offloaded in the end who was not. -/
theorem not_offloaded_installPair (hf : d.Fair) (hk : ¬ d.HasStatus k .offloaded)
    (hr : (d.installPair i j e p).1 ≠ .ok .installed) :
    ¬ (d.installPair i j e p).2.HasStatus k .offloaded := by
  have hrevert {x : Dataplane} (hx : ¬ x.HasStatus k .offloaded) :
      ¬ (x.revertPair i j).fail.HasStatus k .offloaded := by
    intro h
    rw [hasStatus_fail] at h
    rcases offloaded_change h with h | ⟨-, h, -⟩
    · rcases offloaded_change h with h | ⟨-, h, -⟩
      · exact hx h
      · cases h
    · cases h
  have h₁ := (outlasts_not_offloaded k).installEntry ⟨hf, hk⟩ e
  rw [installPair] at hr ⊢
  generalize d.installEntry e = x at h₁ hr ⊢
  obtain ⟨err | f, d₁⟩ := x
  · exact hrevert h₁.2
  · have h₂ := (outlasts_not_offloaded k).installEntry h₁ p
    simp only at hr ⊢
    generalize d₁.installEntry p = y at h₂ hr ⊢
    obtain ⟨err | b, d₂⟩ := y
    · exact hrevert ((outlasts_not_offloaded k).destroyRule h₂ f).2
    · -- both rules are installed, so it is the claims that were not finished
      refine not_offloaded_finishPair (fun h => h₂.2 ?_) hr
      exact (hasStatus_setRule _ _ _).mp ((hasStatus_setRule _ _ _).mp h)

/-- An attempt on `i` is installed and makes `k` offloaded, which is `i` or its peer. -/
structure Finishes (d : Dataplane) (i k : EntryId) : Prop where
  installed : (d.offloadPair i).1 = .ok .installed
  before : ¬ d.HasStatus k .offloaded
  after : (d.offloadPair i).2.HasStatus k .offloaded
  pair : k = i ∨ d.table.peerOf i = some k

/-- **Whoever an attempt makes offloaded**, the attempt is installed for it or for its peer. -/
theorem finishes_of_offloadPair (hf : d.Fair) (hk : ¬ d.HasStatus k .offloaded)
    (hk' : (d.offloadPair i).2.HasStatus k .offloaded) : d.Finishes i k := by
  have hrevert (h : (d.change i .revert).HasStatus k .offloaded) : False := by
    rcases offloaded_change h with h | ⟨-, h, -⟩
    · exact hk h
    · cases h
  obtain ⟨hr, hp⟩ : (d.offloadPair i).1 = .ok .installed ∧
      (k = i ∨ d.table.peerOf i = some k) := by
    have hb := d.begins_offloadPair i
    generalize d.offloadPair i = x at hb hk' ⊢
    cases hb with
    | unclaimed => exact absurd hk' hk
    | alone | served => exact (hrevert hk').elim
    | claimed j e p hs hp ho =>
        have hc : ¬ (d.change j .claim).HasStatus k .offloaded := by
          intro h
          rcases offloaded_change h with h | ⟨-, h, -⟩
          · exact hk h
          · cases h
        refine ⟨Decidable.byContradiction fun hr => ?_, Decidable.byContradiction fun hn => ?_⟩
        · exact not_offloaded_installPair (d := d.change j .claim) hf hc hr hk'
        · -- the attempt works on neither `k` nor its peer
          obtain ⟨hki, hkj⟩ := not_or.mp hn
          have hkj : j ≠ k := fun h => hkj (hp.trans (congrArg some h))
          have hx := (outlasts_not_offloaded k).installPair (Ne.symm hki) hkj
            (d := d.change j .claim) ⟨hf, hc⟩ e p
          generalize installPair _ i j e p = y at hx hk'
          cases hx with
          | skipped h | failed _ h | installed h => exact h.2 hk'
  exact ⟨hr, hk, hk', hp⟩

/-! ### What evictions leave alone -/

/-- Retiring an entry changes neither its tuple nor its status. -/
theorem face_retire (d : Dataplane) (port : PortId) (i k : EntryId) :
    face? (d.retire port i).2 k = d.face? k := by
  cases he : d.entry? i with
  | none => rw [retire, he]
  | some e =>
      obtain ⟨a, hr⟩ := retires_retire port he
      rw [face?, face?, hr.entry]
      split
      · next hk => rw [hk, he, Option.map_some, Option.map_some, Entry.face, Entry.face,
          hr.retired.tuple, hr.retired.status]
      · rfl

theorem face_retireAndRemove (d : Dataplane) (port : PortId) (i k : EntryId) :
    face? (d.retireAndRemove port i).2.2 k = d.face? k := by
  have ht : (d.retireAndRemove port i).2.2.table =
      ((d.retire port i).2.table.removeExact i).2 := rfl
  rw [← face_retire d port i k, face?, face?, entry?, entry?, ht, FlowTable.entry?_removeExact]

/-- Settling an eviction leaves the table alone. -/
theorem table_settle (d : Dataplane) (ids : List EntryId) (n : Nat) :
    (d.settle ids n).table = d.table := by
  rw [settle_eq]

theorem face_settle (d : Dataplane) (ids : List EntryId) (n : Nat) (k : EntryId) :
    face? (d.settle ids n) k = d.face? k := by
  rw [face?, face?, entry?, entry?, table_settle]

/-- Evicting a flow leaves every entry with its tuple and its status. -/
theorem face_evictOne (d : Dataplane) (port : PortId) (t : FiveTuple) (r : EvictionReport)
    (k : EntryId) : face? (d.evictOne port t r).2 k = d.face? k := by
  rw [evictOne]
  split
  · rfl
  · next i _ =>
      have hi := face_retireAndRemove d port i k
      generalize d.retireAndRemove port i = x at hi ⊢
      obtain ⟨es, n, d₁⟩ := x
      split
      · exact (face_settle d₁ [i] n k).trans hi
      · next j _ =>
          have hj := face_retireAndRemove d₁ port j k
          simp only
          generalize d₁.retireAndRemove port j = y at hj ⊢
          obtain ⟨fs, m, d₂⟩ := y
          exact (face_settle d₂ [i, j] (n + m) k).trans (hj.trans hi)

/-- Every tuple leads in `d'` where it leads in `d`, but that those in `S` may lead nowhere. -/
def Sheds (d d' : Dataplane) (S : FiveTuple → Prop) : Prop :=
  ∀ u, d'.table.lookup u = d.table.lookup u ∨ d'.table.lookup u = none ∧ S u

variable {S : FiveTuple → Prop} {port : PortId}

namespace Sheds

theorem refl (d : Dataplane) : d.Sheds d S := fun _ => .inl rfl

theorem trans (h : d.Sheds d' S) (h' : d'.Sheds d'' S) : d.Sheds d'' S := by
  intro u
  rcases h' u with h' | h'
  · rw [h']
    exact h u
  · exact .inr h'

/-- So what is shed stays the same. -/
theorem settle (h : d.Sheds d' S) (ids : List EntryId) (n : Nat) :
    d.Sheds (d'.settle ids n) S := by
  rwa [Sheds, table_settle]

/-- Entries that keep their tuples are filed still. -/
theorem filed (h : d.Sheds d' S)
    (he : ∀ k, d'.face? k = d.face? k) (hf : d.table.Filed) :
    d'.table.Filed := by
  intro u k hl
  rcases h u with hu | ⟨hu, -⟩
  · obtain ⟨e, hk, rfl⟩ := hf u k (hu.symm.trans hl)
    obtain ⟨e', hk', hx⟩ := Option.map_eq_some_iff.mp ((he k).trans (congrArg _ hk))
    exact ⟨e', hk', congrArg Prod.fst hx⟩
  · cases hu.symm.trans hl

end Sheds

/-- An entry that is retired takes its own tuple out of the table at most. -/
theorem sheds_retireAndRemove (hS : ∀ e, d.entry? i = some e → S e.tuple) :
    d.Sheds (d.retireAndRemove port i).2.2 S := by
  intro u
  have hx : (d.retire port i).2.table.index = d.table.index := by
    cases he : d.entry? i with
    | none => rw [retire, he]
    | some e =>
        obtain ⟨a, hr⟩ := retires_retire port he
        exact hr.index
  rcases FlowTable.lookup_removeExact (d.retire port i).2.table i u with h | ⟨h, hu⟩
  · exact .inl (h.trans (congrArg (FiniteMap.get? · u) hx))
  · -- the entry had the tuple before its rule was taken from it
    obtain ⟨a, ha, rfl⟩ := Option.map_eq_some_iff.mp hu
    have hface := face_retire d port i i
    unfold face? entry? at hface
    rw [ha] at hface
    obtain ⟨e, he, hea⟩ := Option.map_eq_some_iff.mp hface.symm
    refine .inr ⟨h, ?_⟩
    rw [← show e.tuple = a.tuple from congrArg Prod.fst hea]
    exact hS e he

/-- Evicting the flow of a tuple ends the look-ups of the tuple and of its reverse, and no other. -/
theorem sheds_evictOne (hf : d.table.Filed) (ht : S t) (ht' : S t.reverse) (port : PortId)
    (r : EvictionReport) : d.Sheds (d.evictOne port t r).2 S := by
  rw [evictOne]
  split
  · exact .refl d
  · next i hi =>
      obtain ⟨e, he, rfl⟩ := hf.stored (agedEntry?_eq_some hi).1
      have h₁ : d.Sheds (d.retireAndRemove port i).2.2 S := by
        refine sheds_retireAndRemove fun x hx => ?_
        rw [Option.some.inj (hx.symm.trans he.entry)]
        exact ht
      have hface := face_retireAndRemove d port i
      generalize d.retireAndRemove port i = x at h₁ hface ⊢
      obtain ⟨es, n, d₁⟩ := x
      split
      · exact h₁.settle [i] n
      · next j hj =>
          rw [FlowTable.peerOf, he.entry, Option.bind_some] at hj
          obtain ⟨p, hp, htp⟩ := hf.stored hj
          have h₂ : d₁.Sheds (d₁.retireAndRemove port j).2.2 S := by
            refine sheds_retireAndRemove fun x hx => ?_
            have hj := hface j
            rw [face?, face?, hx, entry?, hp.entry] at hj
            rw [show x.tuple = p.tuple from congrArg Prod.fst (Option.some.inj hj), htp]
            exact ht'
          simp only
          generalize d₁.retireAndRemove port j = y at h₂ ⊢
          obtain ⟨fs, m, d₂⟩ := y
          exact (h₁.trans h₂).settle [i, j] (n + m)

/-- Evicting flows ends the look-ups of their tuples and of the reverse ones, and no other. -/
theorem sheds_evictEach (hf : d.table.Filed) (port : PortId) (r : EvictionReport)
    (ts : List FiveTuple) (hS : ∀ t ∈ ts, S t ∧ S t.reverse) :
    (d.evictEach port r ts).2.table.Filed ∧ d.Sheds (d.evictEach port r ts).2 S := by
  induction ts generalizing d r with
  | nil => exact ⟨hf, .refl d⟩
  | cons t ts ih =>
      obtain ⟨ht, ht'⟩ := hS t List.mem_cons_self
      have h₁ := sheds_evictOne hf ht ht' port r
      obtain ⟨hf₂, h₂⟩ := ih (h₁.filed (d.face_evictOne port t r) hf) (d.evictOne port t r).1
        fun u hu => hS u (List.mem_cons_of_mem t hu)
      exact ⟨hf₂, h₁.trans h₂⟩

/-- So does an eviction run, of the tuples that have aged. -/
theorem sheds_evictBatches (hf : d.table.Filed) (port : PortId) (r : EvictionReport)
    (hS : port = d.device.port → ∀ t ∈ d.device.aged, S t ∧ S t.reverse) :
    d.Sheds (d.evictBatches port r).2 S := by
  fun_induction evictBatches d port r with
  | case1 d => exact .refl d
  | case2 d r size batch v hv next hb =>
      obtain ⟨hp, -⟩ := FlowDevice.takeAged_eq_ok hv
      rw [FlowDevice.takeAged_of_port hp] at hv
      cases hv
      obtain ⟨-, h⟩ := sheds_evictEach (d := d.withAged (d.device.aged.drop size)) hf port r
        (d.device.aged.take size) fun t ht => hS hp t (List.mem_of_mem_take ht)
      exact h
  | case3 d r size batch v hv next hb ih =>
      obtain ⟨hp, -⟩ := FlowDevice.takeAged_eq_ok hv
      rw [FlowDevice.takeAged_of_port hp] at hv
      cases hv
      obtain ⟨hf', h⟩ := sheds_evictEach (d := d.withAged (d.device.aged.drop size)) hf port r
        (d.device.aged.take size) fun t ht => hS hp t (List.mem_of_mem_take ht)
      refine h.trans (ih hf' fun _ t ht => ?_)
      -- what the rest of the run fetches was pending from the beginning
      rw [aged_evictEach] at ht
      exact hS hp t (List.mem_of_mem_drop ht)

/-! ### Operations -/

/-- No step of a run ends an offload. -/
theorem stable_retains (d : Dataplane) :
    Stable (fun _ => True) fun x => x.Fair ∧ d.Retains x where
  packet := fun frame h =>
    have hd := handles_process _ frame
    ⟨by rw [Fair, hd.keeps.interference]; exact h.1, h.2.trans (.handles hd)⟩
  attempt := fun i h =>
    have hx := retains_offloadPair h.1 i
    ⟨hx.1, h.2.trans hx.2⟩
  evict := by
    intro x t r h
    obtain ⟨_, _, _, _, hx⟩ := x.evictOne_eq x.device.port t r
    refine ⟨?_, h.2.trans (.of_face (face_evictOne x x.device.port t r))⟩
    rw [hx]
    exact h.1
  fetch := fun _ h => h
  interfere := fun _ hx h => ⟨fair_interfere h.1 hx, h.2⟩
  tweak := fun _ _ h => h
  other := fun _ _ _ h => h

/-- An operation ends no offload. -/
theorem retains_perform (hf : d.Fair) (op : Operation) : d.Retains (d.perform op) := by
  have h := stable_retains d
  have hd : d.Fair ∧ d.Retains d := ⟨hf, .refl d⟩
  cases op with
  | process frame => exact (h.packet frame hd).2
  | poll port queue => exact (h.steady.poll port queue hd).2
  | drainBatch => exact (h.steady.drain hd).2
  | offloadPair i => exact (h.attempt i hd).2
  | evictAged port => exact (h.steady.evictAged port hd).2

/-- A packet takes no tuple out of the table. -/
theorem Handles.lookup (h : d.Handles d') (hl : d.table.lookup u = some k) :
    d'.table.lookup u = some k := by
  cases h with
  | calm h => exact (h.table.lookup u).trans hl
  | returned _ _ ht _ => rw [ht, hl]
  | opened _ _ hj _ => exact hj.lookup_old hl

/-- An operation takes nothing out of the table, unless it is an eviction run that gets to know of
an aged rule of the pair. -/
theorem lookup_perform (ht : d.table.Filed) (op : Operation) (hl : d.table.lookup u = some k) :
    (d.perform op).table.lookup u = some k ∨
      op = .evictAged d.device.port ∧ (u ∈ d.device.aged ∨ u.reverse ∈ d.device.aged) := by
  cases op with
  | process frame => exact .inl ((handles_process d frame).lookup hl)
  | poll port queue =>
      exact .inl (pollBurst_keeps (P := fun x => x.table.lookup u = some k)
        (fun frame h => (handles_process _ frame).lookup h) (fun _ _ h => h) port queue _ hl)
  | drainBatch => exact .inl ((FlowTable.lookup_eq_of_bare_eq (bare_offloadEach _ _) u).trans hl)
  | offloadPair i =>
      exact .inl ((FlowTable.lookup_eq_of_bare_eq (d.concludes_offloadPair i).bare u).trans hl)
  | evictAged port =>
      have hs := sheds_evictBatches ht port {}
        (S := fun u => port = d.device.port ∧ (u ∈ d.device.aged ∨ u.reverse ∈ d.device.aged))
        fun hp t h => ⟨⟨hp, .inl h⟩, hp, .inr (t.reverse_reverse.symm ▸ h)⟩
      rcases hs u with h | ⟨-, rfl, h⟩
      · exact .inl (h.trans hl)
      · exact .inr ⟨rfl, h⟩

/-- A packet makes nobody offloaded. -/
theorem Handles.not_offloaded (h : d.Handles d') (hk : ¬ d.HasStatus k .offloaded) :
    ¬ d'.HasStatus k .offloaded := by
  intro hk'
  obtain ⟨e', he', hs⟩ := Option.map_eq_some_iff.mp hk'
  have halike (ht : d.table.Alike d'.table) : d.HasStatus k .offloaded := by
    obtain ⟨e, he, ha⟩ := ht.entry_rev he'
    exact (hasStatus_iff he).mpr (ha.offloaded.mp hs)
  cases h with
  | calm h => exact hk (halike h.table)
  | returned _ _ ht _ => exact hk (halike (ht ▸ .refl _))
  | opened _ _ hj _ =>
      rcases hj.entry_cases he' with ⟨-, rfl⟩ | ⟨-, rfl⟩ | ⟨-, -, he⟩
      · cases hs
      · cases hs
      · exact hk ((hasStatus_iff he).mpr hs)

/-- If attempts one after the other make an entry offloaded, one of them is installed for it or for
its peer. -/
theorem finishes_of_offloadEach (hf : d.Fair) (ids : List EntryId)
    (hk : ¬ d.HasStatus k .offloaded) (hk' : (d.offloadEach ids).HasStatus k .offloaded) :
    ∃ x ∈ d.attemptsEach ids, x.1.Finishes x.2 k := by
  induction ids generalizing d with
  | nil => exact absurd hk' hk
  | cons i ids ih =>
      by_cases h : (d.offloadPair i).2.HasStatus k .offloaded
      · exact ⟨(d, i), List.mem_cons_self, finishes_of_offloadPair hf hk h⟩
      · obtain ⟨x, hx, hxk⟩ := ih (retains_offloadPair hf i).1 h hk'
        exact ⟨x, List.mem_cons_of_mem _ hx, hxk⟩

/-- An operation makes nobody offloaded but by attempts. -/
theorem finishes_of_perform (hf : d.Fair) (op : Operation) (hk : ¬ d.HasStatus k .offloaded)
    (hk' : (d.perform op).HasStatus k .offloaded) : ∃ x ∈ d.attempts op, x.1.Finishes x.2 k := by
  cases op with
  | process frame => exact absurd hk' ((handles_process d frame).not_offloaded hk)
  | poll port queue =>
      refine absurd hk' ?_
      exact pollBurst_keeps (P := fun x => ¬ x.HasStatus k .offloaded)
        (fun frame h => (handles_process _ frame).not_offloaded h) (fun _ _ h => h) port queue _ hk
  | drainBatch =>
      rw [perform, drainBatch] at hk'
      exact finishes_of_offloadEach (d := { d with handoff := d.handoff.drop _ }) hf _ hk hk'
  | offloadPair i => exact ⟨(d, i), List.mem_singleton.mpr rfl, finishes_of_offloadPair hf hk hk'⟩
  | evictAged port =>
      refine absurd hk' ?_
      refine evictAged_keeps (P := fun x => ¬ x.HasStatus k .offloaded) (fun _ h => h)
        (fun t r h h' => h ?_) port hk
      exact (Retains.of_face fun n => (face_evictOne _ _ t r n).symm).hasStatus h'

/-- **Offloaded is final until eviction.**  In whatever state a data plane is whose table files
entries under their tuples and whose other workers take claims and give them up, an operation does
not end an offload; it leaves an entry in the table where it is, unless it is an eviction run that
fetches an aged context of the pair; and an entry becomes offloaded only through an attempt on it
or on its peer that is installed. -/
theorem offloaded_until_evicted (hf : d.Fair) (ht : d.table.Filed) (op : Operation) (k : EntryId) :
    (d.HasStatus k .offloaded → (d.perform op).HasStatus k .offloaded ∧
      ∀ t, d.table.lookup t = some k → (d.perform op).table.lookup t = some k ∨
        op = .evictAged d.device.port ∧ (t ∈ d.device.aged ∨ t.reverse ∈ d.device.aged)) ∧
    (¬ d.HasStatus k .offloaded → (d.perform op).HasStatus k .offloaded →
      ∃ x ∈ d.attempts op, (x.1.offloadPair x.2).1 = .ok .installed ∧
        ¬ x.1.HasStatus k .offloaded ∧ (x.1.offloadPair x.2).2.HasStatus k .offloaded ∧
        (k = x.2 ∨ x.1.table.peerOf x.2 = some k)) := by
  refine ⟨fun hk => ⟨(retains_perform hf op).hasStatus hk, fun t => lookup_perform ht op⟩,
    fun hk hk' => ?_⟩
  obtain ⟨x, hx, hxk⟩ := finishes_of_perform hf op hk hk'
  exact ⟨x, hx, hxk.installed, hxk.before, hxk.after, hxk.pair⟩

/-- A flow is claimed, and another worker plans to give the claim of its first direction up for a
while during the installation. -/
def claimedRun : List Event :=
  [.process (Replay.packet (Replay.tcpFlow 1)), .process (Replay.packet (Replay.tcpFlow 1)),
    .interfere ⟨1, 1, .revert⟩ .revert, .interfere ⟨2, 1, .claim⟩ .claim]

theorem offloaded_until_evicted_claimed : ∃ x ∈ (small.run claimedRun).attempts .drainBatch,
    (x.1.offloadPair x.2).1 = .ok .installed ∧
    ¬ x.1.HasStatus 0 .offloaded ∧ (x.1.offloadPair x.2).2.HasStatus 0 .offloaded ∧
    (0 = x.2 ∨ x.1.table.peerOf x.2 = some 0) := by
  have hc := (stable_coupled smallSettings).run claimedRun (fun _ _ => trivial)
    (coupled_create create_small)
  exact (offloaded_until_evicted hc.fair hc.paired.filed .drainBatch 0).2 (by decide +kernel)
    (by decide +kernel)

end Dataplane

end FlowOffload
