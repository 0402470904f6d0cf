import FlowOffload.Proofs.Dataplane.Equipment
import FlowOffload.Proofs.Dataplane.EvictionOrder
import FlowOffload.Proofs.Settings

/-!
# Eviction runs — what a run comes to

A run evicts the flows of the pending contexts one after the other.  A context that finds an
offloaded entry takes both directions of the flow out of the table, adds to each what its own rule
has counted and destroys the rules, as far as the device allows (`Dataplane.Holds.evictOne`).  Later
contexts of the same flow find nothing and are reported.  What such steps come to together is that
the flows with a pending context are gone, each with its own counts, while nobody else is touched
(`Dataplane.Swept`, `Dataplane.clears_evictEach`).

* `Dataplane.eviction_effect`: a run in any state a new data plane can get into.
-/

namespace FlowOffload

/-- What can be read of what the rule of a tuple has counted. -/
def FlowDevice.counted (v : FlowDevice) (t : FiveTuple) (r : InstalledRule) : RuleCounters :=
  if t ∈ v.failQuery then {} else r.counters

/-- What goes wrong when the rule of a tuple is read and destroyed. -/
def FlowDevice.troubles (v : FlowDevice) (t : FiveTuple) : List AgingError :=
  (if t ∈ v.failQuery then [.query t .queryFailed] else []) ++
    if t ∈ v.failDestroy then [.destroy t .destroyFailed] else []

/-- The entry after its rule has been taken from it, with what the rule has counted. -/
def Entry.spent (e : Entry) (c : RuleCounters) : Entry := merge { e with rule := none } c.hits c.bytes

namespace Dataplane

/-- The entry `e` is stored at `i` and offloaded, and `r` is its rule, under the handle `h`. -/
structure Holds (d : Dataplane) (i : EntryId) (e : Entry) (h : Handle) (r : InstalledRule) : Prop
    where
  stored : d.table.Stored i e
  offloaded : e.status = .offloaded
  handle : e.rule = some h
  rule : d.device.rules.get? h = some r
  pattern : r.rule.pattern = .exact e.tuple

variable {s : Settings} {d d' d'' : Dataplane} {i j : EntryId} {e p : Entry} {h k : Handle}
  {r q : InstalledRule}

/-- An offloaded entry in the table holds a rule. -/
theorem Equipped.holds (hd : d.Equipped) (hs : d.table.Stored i e) (ho : e.status = .offloaded) :
    ∃ h r, d.Holds i e h r := by
  obtain ⟨h, rule, hh, hr, hrule⟩ := hd.served hs ho
  obtain ⟨r, hr', rfl⟩ := Option.map_eq_some_iff.mp hr
  exact ⟨h, r, hs, ho, hh, hr', Rule.pattern_offload hrule⟩

namespace Holds

theorem ruleAt (hi : d.Holds i e h r) : d.device.ruleAt h = some r.rule := by
  rw [FlowDevice.ruleAt, hi.rule]
  rfl

/-- An identity is held by one entry, which has one rule. -/
theorem unique (hi : d.Holds i e h r) (hi' : d.Holds i p k q) : e = p ∧ h = k ∧ r = q := by
  obtain rfl := hi.stored.unique hi'.stored
  obtain rfl := Option.some.inj (hi.handle.symm.trans hi'.handle)
  exact ⟨rfl, rfl, Option.some.inj (hi.rule.symm.trans hi'.rule)⟩

/-- A rule is for the tuple of one entry. -/
theorem tuple_eq (hi : d.Holds i e h r) (hj : d.Holds j p h q) : e.tuple = p.tuple := by
  obtain rfl := Option.some.inj (hi.rule.symm.trans hj.rule)
  exact Pattern.exact.inj (hi.pattern.symm.trans hj.pattern)

/-! ### One direction -/

/-- The counters of such a rule can be read, unless that is made to fail. -/
theorem query (hi : d.Holds i e h r) : d.device.query d.device.port h =
    if e.tuple ∈ d.device.failQuery then .error .queryFailed else .ok r.counters := by
  simp only [FlowDevice.query, FlowDevice.checkPort, if_pos, hi.rule, hi.pattern, Pattern.tuple?,
    Option.any_some, decide_eq_true_eq, bind, Except.bind]

/-- Such a rule can be destroyed, unless that is made to fail. -/
theorem destroy (hi : d.Holds i e h r) : d.device.destroy d.device.port h =
    if e.tuple ∈ d.device.failDestroy then .error .destroyFailed
    else .ok { d.device with
      rules := d.device.rules.erase h, byTuple := d.device.byTuple.erase e.tuple } :=
  FlowDevice.destroy_eq_of_ruleAt hi.ruleAt hi.pattern

/-- What the rule has counted is added to the entry, as far as it can be read. -/
theorem collect {u : Dataplane} {a : Entry} (hi : d.Holds i e h r) (hd : u.device = d.device)
    (ha : u.entry? i = some a) :
    (u.collect d.device.port i e.tuple h).1 =
        (if e.tuple ∈ d.device.failQuery then [.query e.tuple .queryFailed] else []) ∧
      entry? (u.collect d.device.port i e.tuple h).2 i =
        some (a.merge (d.device.counted e.tuple r).hits (d.device.counted e.tuple r).bytes) ∧
      (u.collect d.device.port i e.tuple h).2.device = d.device := by
  rw [Dataplane.collect, hd, hi.query, FlowDevice.counted]
  by_cases hq : e.tuple ∈ d.device.failQuery
  · simp only [if_pos hq, true_and]
    refine ⟨ha.trans ?_, hd⟩
    simp [Entry.merge]
  · simp only [if_neg hq, true_and]
    exact ⟨(entry?_modify_of ha _ i).trans (if_pos rfl), hd⟩

theorem discard {u : Dataplane} (hi : d.Holds i e h r) (hd : u.device = d.device) :
    (u.discard d.device.port e.tuple h).1 =
      if e.tuple ∈ d.device.failDestroy then [.destroy e.tuple .destroyFailed] else [] := by
  rw [Dataplane.discard, hd, hi.destroy]
  by_cases hf : e.tuple ∈ d.device.failDestroy
  · rw [if_pos hf, if_pos hf]
  · rw [if_neg hf, if_neg hf]

/-- Retiring an entry that has its rule. -/
theorem retire (hi : d.Holds i e h r) :
    (d.retire d.device.port i).1 = d.device.troubles e.tuple ∧
      entry? (d.retire d.device.port i).2 i = some (e.spent (d.device.counted e.tuple r)) := by
  have he : d.entry? i = some e := hi.stored.entry
  have h₁ := (entry?_modify_of he (fun e => { e with rule := none }) i).trans (if_pos rfl)
  obtain ⟨hc, ha, hv⟩ := hi.collect (u := d.modify i fun e => { e with rule := none }) rfl h₁
  have hx := hi.discard hv
  simp only [Dataplane.retire, he, hi.handle, hc, hx, discard_eq]
  exact ⟨rfl, ha⟩

/-! ### Both directions -/

/-- **An entry with its rule leaves**: the rule's counts are added if they can be read, and what
fails is reported. -/
theorem leaves (hi : d.Holds i e h r) :
    (d.retireAndRemove d.device.port i).1 = d.device.troubles e.tuple ∧
      (d.retireAndRemove d.device.port i).2.1 = 1 ∧
      d.Leaves (d.retireAndRemove d.device.port i).2.2 d.device.port i e
        (e.spent (d.device.counted e.tuple r)) := by
  obtain ⟨hx, ha⟩ := hi.retire
  obtain ⟨a, hr⟩ := retires_retire d.device.port hi.stored.entry
  obtain rfl := Option.some.inj (((hr.entry i).trans (if_pos rfl)).symm.trans ha)
  exact ⟨hx, hr.leaves hi.stored⟩

/-- No two entries have the same rule. -/
theorem handle_ne (hi : d.Holds i e h r) (hj : d.Holds j p k q) (ht : p.tuple ≠ e.tuple) :
    k ≠ h := by
  rintro rfl
  exact ht (hj.tuple_eq hi)

/-- What remains of an entry when another one has left. -/
theorem left {a : Entry} {port : PortId} (hj : d.Holds j p k q) (hi : d.Holds i e h r)
    (hl : d.Leaves d' port i e a) (ht : p.tuple ≠ e.tuple) : d'.Holds j p k q where
  stored := hl.removed.stored_other hj.stored ht
  offloaded := hj.offloaded
  handle := hj.handle
  rule := by
    rw [hl.device, hi.handle, FlowDevice.scrapRule,
      FlowDevice.rules_scrap_of_ne _ _ (hi.handle_ne hj ht), hj.rule]
  pattern := hj.pattern

/-- **Evicting one flow** whose two directions have their rules. -/
theorem evictOne (hi : d.Holds i e h r) (hj : d.Holds j p k q) (ht : p.tuple = e.peer)
    (hne : p.tuple ≠ e.tuple) (rep : EvictionReport) :
    (d.evictOne d.device.port e.tuple rep).1 =
        { evicted := rep.evicted + 1,
          errors := rep.errors ++ d.device.troubles e.tuple ++ d.device.troubles p.tuple } ∧
      d.Evicts (d.evictOne d.device.port e.tuple rep).2 d.device.port i j e p
        (e.spent (d.device.counted e.tuple r)) (p.spent (d.device.counted p.tuple q)) := by
  have ha : d.agedEntry? e.tuple = some i := by
    unfold agedEntry?
    rw [hi.stored.lookup, Option.filter_some, if_pos]
    exact decide_eq_true ((hasStatus_iff hi.stored.entry).mpr hi.offloaded)
  have hpeer : d.table.peerOf i = some j := by
    rw [FlowTable.peerOf, hi.stored.entry, Option.bind_some, ← ht, hj.stored.lookup]
  obtain ⟨hx, hn, hl⟩ := hi.leaves
  -- the mate has its rule still, in a device in which the same operations fail
  have hj₁ := hj.left hi hl hne
  have hv : (d.retireAndRemove d.device.port i).2.2.device.port = d.device.port ∧
      (d.retireAndRemove d.device.port i).2.2.device.counted = d.device.counted ∧
      (d.retireAndRemove d.device.port i).2.2.device.troubles = d.device.troubles := by
    obtain ⟨_, _, hs⟩ := d.device.scrap_eq d.device.port h
    rw [hl.device, hi.handle, FlowDevice.scrapRule, hs]
    exact ⟨rfl, rfl, rfl⟩
  obtain ⟨hy, hm, hl'⟩ := hj₁.leaves
  rw [hv.1, hv.2.2] at hy
  rw [hv.1] at hm
  rw [hv.1, hv.2.1] at hl'
  rw [evictOne_of_pair ha hpeer]
  simp only [hx, hy, hn, hm]
  exact ⟨trivial, evicts_of_leaves hl hj.stored hne hl'⟩

end Holds

/-! ### The flows of a list of tuples -/

/-- `d'` is `d` without the entries of `gone` and without their rules, as far as these could be
destroyed. -/
structure Swept (d d' : Dataplane) (gone : List FiveTuple) : Prop where
  lookup : ∀ t, d'.table.lookup t = if t ∈ gone then none else d.table.lookup t
  count : d'.table.count = d.table.count - gone.length
  spent : ∀ {i e h r}, d.Holds i e h r → e.tuple ∈ gone →
    d'.entry? i = some (e.spent (d.device.counted e.tuple r))
  kept : ∀ {i}, (∀ e h r, d.Holds i e h r → e.tuple ∉ gone) → d'.entry? i = d.entry? i
  destroyed : ∀ {i e h r}, d.Holds i e h r → e.tuple ∈ gone → e.tuple ∉ d.device.failDestroy →
    d'.device.rules.get? h = none
  left : ∀ {h}, (∀ i e r, d.Holds i e h r → e.tuple ∈ gone → e.tuple ∈ d.device.failDestroy) →
    d'.device.rules.get? h = d.device.rules.get? h
  byTuple : ∀ t, d'.device.byTuple.get? t =
    if t ∈ gone ∧ t ∉ d.device.failDestroy then none else d.device.byTuple.get? t
  device : ∃ rules byTuple, d'.device = { d.device with rules, byTuple }
  counters : d'.counters =
    { d.counters with flowsEvicted := d.counters.flowsEvicted + .ofNat gone.length }
  others : ∃ table device pool counters, d' = { d with table, device, pool, counters }

namespace Swept

variable {gone gone' : List FiveTuple}

theorem refl (d : Dataplane) : d.Swept d [] where
  lookup := fun t => by rw [if_neg List.not_mem_nil]
  count := rfl
  spent := fun _ ht => nomatch ht
  kept := fun _ => rfl
  destroyed := fun _ ht => nomatch ht
  left := fun _ => rfl
  byTuple := fun t => by rw [if_neg fun h => nomatch h.1]
  device := ⟨_, _, rfl⟩
  counters := by simp
  others := ⟨_, _, _, _, rfl⟩

theorem counted (h : d.Swept d' gone) : d'.device.counted = d.device.counted := by
  obtain ⟨_, _, hv⟩ := h.device
  rw [hv]
  rfl

theorem failDestroy (h : d.Swept d' gone) : d'.device.failDestroy = d.device.failDestroy := by
  obtain ⟨_, _, hv⟩ := h.device
  rw [hv]

/-- Whoever has a rule now had it before, and has not been evicted. -/
theorem holds (h : d.Swept d' gone) (hf : d.table.Filed) {n : Handle} (hi : d'.Holds i e n r) :
    d.Holds i e n r ∧ e.tuple ∉ gone := by
  have hl := hi.stored.lookup
  rw [h.lookup] at hl
  split at hl
  · cases hl
  · next hg =>
      obtain ⟨e₀, hs, ht⟩ := hf.stored hl
      have he : d'.entry? i = d.entry? i := h.kept fun e' _ _ hi' => by
        rw [hi'.stored.unique hs, ht]
        exact hg
      obtain rfl : e₀ = e := Option.some.inj (hs.entry.symm.trans (he.symm.trans hi.stored.entry))
      have hr : d'.device.rules.get? n = d.device.rules.get? n := h.left fun _ e' _ hi' hg' =>
        Decidable.byContradiction fun hd => nomatch hi.rule.symm.trans (h.destroyed hi' hg' hd)
      exact ⟨⟨hs, hi.offloaded, hi.handle, hr.symm.trans hi.rule, hi.pattern⟩, hg⟩

/-- Whoever has not been evicted has its rule still. -/
theorem holds_of_not_mem (h : d.Swept d' gone) {n : Handle} (hi : d.Holds i e n r)
    (hg : e.tuple ∉ gone) : d'.Holds i e n r where
  stored := by
    refine ⟨(h.kept fun e' _ _ hi' => ?_).trans hi.stored.entry, ?_⟩
    · rw [hi'.stored.unique hi.stored]
      exact hg
    · rw [h.lookup, if_neg hg, hi.stored.lookup]
  offloaded := hi.offloaded
  handle := hi.handle
  rule := by
    refine (h.left fun _ _ _ hi' hg' => absurd ?_ hg).trans hi.rule
    rw [hi.tuple_eq hi']
    exact hg'
  pattern := hi.pattern

/-- Evicting flows after others have been evicted. -/
theorem trans (h : d.Swept d' gone) (hf : d.table.Filed) (h' : d'.Swept d'' gone') :
    d.Swept d'' (gone ++ gone') where
  lookup := by
    intro t
    rw [h'.lookup, h.lookup]
    by_cases hg : t ∈ gone <;> by_cases hg' : t ∈ gone' <;> simp [hg, hg']
  count := by rw [h'.count, h.count, List.length_append, Nat.sub_sub]
  spent := by
    intro i e n r hi hg
    by_cases hg₁ : e.tuple ∈ gone
    · -- it went with the first flows, and the others do not touch it again
      refine (h'.kept fun e' _ _ hi' => absurd ?_ (h.holds hf hi').2).trans (h.spent hi hg₁)
      rw [(h.holds hf hi').1.stored.unique hi.stored]
      exact hg₁
    · rw [← h.counted]
      exact h'.spent (h.holds_of_not_mem hi hg₁) ((List.mem_append.mp hg).resolve_left hg₁)
  kept := by
    intro i hi
    refine (h'.kept fun e n r hi' hg' => ?_).trans (h.kept fun e n r hi' hg' => ?_)
    · exact hi e n r (h.holds hf hi').1 (List.mem_append_right _ hg')
    · exact hi e n r hi' (List.mem_append_left _ hg')
  destroyed := by
    intro i e n r hi hg hd
    by_cases hg₁ : e.tuple ∈ gone
    · have hn := h.destroyed hi hg₁ hd
      exact (h'.left fun _ _ _ hi' _ => nomatch hn.symm.trans hi'.rule).trans hn
    · refine h'.destroyed (h.holds_of_not_mem hi hg₁) ((List.mem_append.mp hg).resolve_left hg₁) ?_
      rw [h.failDestroy]
      exact hd
  left := by
    intro n hn
    refine (h'.left fun i e r hi' hg' => ?_).trans (h.left fun i e r hi' hg' => ?_)
    · rw [h.failDestroy]
      exact hn i e r (h.holds hf hi').1 (List.mem_append_right _ hg')
    · exact hn i e r hi' (List.mem_append_left _ hg')
  byTuple := by
    intro t
    rw [h'.byTuple, h.byTuple, h.failDestroy]
    by_cases hd : t ∈ d.device.failDestroy <;> by_cases hg : t ∈ gone <;>
      by_cases hg' : t ∈ gone' <;> simp [hd, hg, hg']
  device := by
    obtain ⟨_, _, hv⟩ := h.device
    obtain ⟨_, _, hv'⟩ := h'.device
    rw [hv] at hv'
    exact ⟨_, _, hv'⟩
  counters := by
    rw [h'.counters, h.counters, List.length_append, UInt64.ofNat_add, UInt64.add_assoc]
  others := by
    obtain ⟨_, _, _, _, hd⟩ := h.others
    obtain ⟨_, _, _, _, hd'⟩ := h'.others
    rw [hd] at hd'
    exact ⟨_, _, _, _, hd'⟩

end Swept

/-- Whoever has one of the tuples of two entries is one of the two. -/
theorem Holds.eq_of_mem {n : EntryId} {x : Entry} {m : Handle} {y : InstalledRule}
    (hn : d.Holds n x m y) (hi : d.Holds i e h r) (hj : d.Holds j p k q)
    (hm : x.tuple ∈ [e.tuple, p.tuple]) :
    (n = i ∧ x = e ∧ m = h ∧ y = r) ∨ (n = j ∧ x = p ∧ m = k ∧ y = q) := by
  rcases List.mem_cons.mp hm with hm | hm
  · obtain ⟨rfl, -⟩ := hn.stored.eq_of_tuple_eq hi.stored hm
    exact .inl ⟨rfl, hn.unique hi⟩
  · obtain ⟨rfl, -⟩ := hn.stored.eq_of_tuple_eq hj.stored (List.mem_singleton.mp hm)
    exact .inr ⟨rfl, hn.unique hj⟩

/-- One flow has been evicted. -/
theorem Holds.swept (hi : d.Holds i e h r) (hj : d.Holds j p k q) (ht : p.tuple = e.peer)
    (hne : p.tuple ≠ e.tuple) (rep : EvictionReport) :
    d.Swept (d.evictOne d.device.port e.tuple rep).2 [e.tuple, p.tuple] := by
  obtain ⟨-, hx⟩ := hi.evictOne hj ht hne rep
  have ho := d.evictOne_eq d.device.port e.tuple rep
  generalize (d.evictOne d.device.port e.tuple rep).2 = d' at hx ho
  have hv := hx.device
  rw [hi.handle, hj.handle, FlowDevice.scrapRule, FlowDevice.scrapRule] at hv
  have hw := FlowDevice.scrappedTwo hi.ruleAt hi.pattern hj.ruleAt hj.pattern
    (hi.handle_ne hj hne)
  rw [← hv] at hw
  -- `hx` says what becomes of the table, `hw` what becomes of the device
  refine {
    lookup := ?lookup, count := ?count, spent := ?spent, kept := ?kept, destroyed := ?destroyed
    left := ?left, byTuple := ?byTuple, device := hw.others, counters := hx.counters
    others := ho }
  case lookup =>
    intro t
    rw [hx.table.lookup]
    by_cases hp : t = p.tuple <;> by_cases he : t = e.tuple <;> simp [hp, he]
  case count =>
    rw [hx.table.count]
    rfl
  case spent =>
    intro n x m y hn hm
    rcases hn.eq_of_mem hi hj hm with ⟨rfl, rfl, rfl, rfl⟩ | ⟨rfl, rfl, rfl, rfl⟩
    · exact hx.table.entry₁
    · exact hx.table.entry₂
  case kept =>
    intro n hn
    refine hx.table.entry_other ?_ ?_
    · rintro rfl
      exact hn e h r hi List.mem_cons_self
    · rintro rfl
      exact hn p k q hj (List.mem_cons_of_mem _ List.mem_cons_self)
  case destroyed =>
    intro n x m y hn hm hd
    rw [hw.rules]
    rcases hn.eq_of_mem hi hj hm with ⟨rfl, rfl, rfl, rfl⟩ | ⟨rfl, rfl, rfl, rfl⟩
    · split
      · rfl
      · rw [if_pos ⟨rfl, hd⟩]
    · rw [if_pos ⟨rfl, hd⟩]
  case left =>
    intro n hn
    rw [hw.rules, if_neg, if_neg]
    · rintro ⟨rfl, hd⟩
      exact hd (hn i e r hi List.mem_cons_self)
    · rintro ⟨rfl, hd⟩
      exact hd (hn j p q hj (List.mem_cons_of_mem _ List.mem_cons_self))
  case byTuple =>
    intro u
    rw [hw.byTuple]
    by_cases hp : u = p.tuple
    · subst hp
      simp [hne]
    · by_cases he : u = e.tuple
      · subst he
        simp [hp]
      · simp [hp, he]

/-! ### One context after the other -/

/-- An offloaded entry is stored under a tuple. -/
def isLive (d : Dataplane) (t : FiveTuple) : Bool :=
  (d.table.lookup t).any fun i => decide (d.HasStatus i .offloaded)

/-- The contexts among `ts` that find no offloaded entry when their turn comes, where `live` tells
which tuples have one at first.  A context that finds one takes both directions of the flow away. -/
def unmet (live : FiveTuple → Bool) : List FiveTuple → List FiveTuple
  | [] => []
  | t :: ts =>
    if live t then unmet (fun u => live u && decide (u ≠ t) && decide (u ≠ t.reverse)) ts
    else t :: unmet live ts

/-- `x` comes from `d` and the report `rep` by evicting the flows of `ts`, one after the other: the
entries of `gone` leave. -/
structure Clears (d : Dataplane) (rep : EvictionReport) (ts gone : List FiveTuple)
    (x : EvictionReport × Dataplane) : Prop where
  swept : d.Swept x.2 gone
  held : ∀ t ∈ gone, ∃ i e h r, d.Holds i e h r ∧ e.tuple = t
  nodup : gone.Nodup
  mem_gone : ∀ t, t ∈ gone ↔ d.isLive t = true ∧ (t ∈ ts ∨ t.reverse ∈ ts)
  evicted : 2 * x.1.evicted = 2 * rep.evicted + gone.length
  errors : x.1.errors.Perm (rep.errors ++ gone.flatMap d.device.troubles
    ++ (unmet d.isLive ts).map .missingContext)

theorem isLive_iff_holds (hc : d.Coupled s) (he : d.Equipped) {t : FiveTuple} :
    d.isLive t = true ↔ ∃ i e h r, d.Holds i e h r ∧ e.tuple = t := by
  rw [isLive, Option.any_eq_true]
  constructor
  · rintro ⟨i, hl, ho⟩
    obtain ⟨e, hs, rfl⟩ := hc.paired.filed.stored hl
    obtain ⟨h, r, hi⟩ := he.holds hs ((hasStatus_iff hs.entry).mp (of_decide_eq_true ho))
    exact ⟨i, e, h, r, hi, rfl⟩
  · rintro ⟨i, e, h, r, hi, rfl⟩
    exact ⟨i, hi.stored.lookup,
      decide_eq_true ((hasStatus_iff hi.stored.entry).mpr hi.offloaded)⟩

/-- The mate of an offloaded entry has its rule as well. -/
theorem Holds.mate (hi : d.Holds i e h r) (hc : d.Coupled s) (he : d.Equipped) :
    ∃ j p k q, d.Holds j p k q ∧ p.tuple = e.peer ∧ p.tuple ≠ e.tuple := by
  obtain ⟨j, p, hj, hm⟩ := hc.paired.mated hi.stored
  obtain ⟨k, q, hj⟩ := he.holds hj (hm.together.mp hi.offloaded)
  exact ⟨j, p, k, q, hj, hm.tuple, hm.distinct⟩

/-- A tuple is live if its reverse is. -/
theorem isLive_of_reverse (hc : d.Coupled s) (he : d.Equipped) {t : FiveTuple}
    (ht : d.isLive t.reverse = true) : d.isLive t = true := by
  obtain ⟨i, e, h, r, hi, htu⟩ := (isLive_iff_holds hc he).mp ht
  obtain ⟨j, p, k, q, hj, hp, -⟩ := hi.mate hc he
  refine (isLive_iff_holds hc he).mpr ⟨j, p, k, q, hj, ?_⟩
  rw [hp, Entry.peer, htu, FiveTuple.reverse_reverse]

/-- After flows have been evicted, their tuples are the ones that have no offloaded entry any
more. -/
theorem Swept.isLive_iff {gone : List FiveTuple} (hs : d.Swept d' gone) (hc : d.Coupled s)
    (he : d.Equipped) (hc' : d'.Coupled s) (he' : d'.Equipped) {t : FiveTuple} :
    d'.isLive t = true ↔ d.isLive t = true ∧ t ∉ gone := by
  rw [isLive_iff_holds hc he, isLive_iff_holds hc' he']
  constructor
  · rintro ⟨i, e, h, r, hi, rfl⟩
    obtain ⟨hi, hg⟩ := hs.holds hc.paired.filed hi
    exact ⟨⟨i, e, h, r, hi, rfl⟩, hg⟩
  · rintro ⟨⟨i, e, h, r, hi, rfl⟩, hg⟩
    exact ⟨i, e, h, r, hs.holds_of_not_mem hi hg, rfl⟩

/-- A context without an offloaded entry is reported. -/
theorem evictOne_of_not_live {t : FiveTuple} (ht : d.isLive t = false) (port : PortId)
    (rep : EvictionReport) : d.evictOne port t rep =
      ({ rep with errors := rep.errors ++ [.missingContext t] }, d) := by
  have ha : d.agedEntry? t = none := by
    refine Option.filter_eq_none_iff.mpr fun i hl ho => ?_
    rw [isLive, hl] at ht
    exact nomatch ht.symm.trans ho
  rw [Dataplane.evictOne, ha]

namespace Clears

variable {t : FiveTuple} {ts gone : List FiveTuple} {rep : EvictionReport}
  {x : EvictionReport × Dataplane}

theorem nil (d : Dataplane) (rep : EvictionReport) : d.Clears rep [] [] (rep, d) where
  swept := .refl d
  held := fun _ ht => nomatch ht
  nodup := .nil
  mem_gone := fun t => by simp
  evicted := rfl
  errors := by simp [unmet]

/-- First a context that finds nothing. -/
theorem skip (hc : d.Coupled s) (he : d.Equipped) (ht : d.isLive t = false)
    (h : d.Clears { rep with errors := rep.errors ++ [.missingContext t] } ts gone x) :
    d.Clears rep (t :: ts) gone x where
  swept := h.swept
  held := h.held
  nodup := h.nodup
  mem_gone := by
    intro u
    rw [h.mem_gone]
    refine and_congr_right fun hu => ?_
    have h₁ : u ≠ t := by
      rintro rfl
      exact nomatch ht.symm.trans hu
    have h₂ : u.reverse ≠ t := by
      rintro rfl
      exact nomatch ht.symm.trans (isLive_of_reverse hc he hu)
    simp [h₁, h₂]
  evicted := h.evicted
  errors := by
    refine h.errors.trans (List.perm_iff_count.mpr fun a => ?_)
    rw [unmet, ht]
    simp only [List.count_append, List.count_cons, List.count_nil, List.map_cons, if_neg,
      Bool.false_eq_true, not_false_eq_true]
    omega

/-- First a context that takes a flow away. -/
theorem take (hc : d.Coupled s) (he : d.Equipped) (hi : d.Holds i e h r) (hj : d.Holds j p k q)
    (ht : p.tuple = e.peer) (hne : p.tuple ≠ e.tuple)
    (hr : (d.evictOne d.device.port e.tuple rep).2.Clears
      (d.evictOne d.device.port e.tuple rep).1 ts gone x) :
    d.Clears rep (e.tuple :: ts) ([e.tuple, p.tuple] ++ gone) x := by
  have hs := hi.swept hj ht hne rep
  obtain ⟨hx, -⟩ := hi.evictOne hj ht hne rep
  have hlive {u : FiveTuple} := hs.isLive_iff (t := u) hc he (hc.evict _ _ rep)
    (he.evict hc.paired _ _ rep)
  have hl₁ : d.isLive e.tuple = true := (isLive_iff_holds hc he).mpr ⟨i, e, _, r, hi, rfl⟩
  have hl₂ : d.isLive p.tuple = true := (isLive_iff_holds hc he).mpr ⟨j, p, k, q, hj, rfl⟩
  have htr : (d.evictOne d.device.port e.tuple rep).2.device.troubles = d.device.troubles := by
    obtain ⟨_, _, hv⟩ := hs.device
    rw [hv]
    rfl
  -- `hlive` turns what is said of the rest of `ts` into what was live at first
  refine {
    swept := hs.trans hc.paired.filed hr.swept, held := ?held, nodup := ?nodup
    mem_gone := ?mem_gone, evicted := ?evicted, errors := ?errors }
  case held =>
    intro u hu
    rcases List.mem_append.mp hu with hu | hu
    · rcases List.mem_cons.mp hu with rfl | hu
      · exact ⟨i, e, h, r, hi, rfl⟩
      · exact ⟨j, p, k, q, hj, (List.mem_singleton.mp hu).symm⟩
    · obtain ⟨n, x, m, y, hn, rfl⟩ := hr.held u hu
      exact ⟨n, x, m, y, (hs.holds hc.paired.filed hn).1, rfl⟩
  case nodup =>
    refine List.nodup_append.mpr ⟨by simp [hne.symm], hr.nodup, ?_⟩
    rintro a ha b hb rfl
    exact (hlive.mp ((hr.mem_gone a).mp hb).1).2 ha
  case mem_gone =>
    intro u
    rw [List.mem_append, hr.mem_gone, hlive]
    rw [ht, Entry.peer] at hl₂ ⊢
    by_cases h₁ : u = e.tuple
    · simp [h₁, hl₁]
    · by_cases h₂ : u = e.tuple.reverse
      · simp [h₂, hl₂]
      · -- a tuple of another flow is met by the contexts behind the first one
        have h₃ : u.reverse ≠ e.tuple := fun h₃ => h₂ (by rw [← h₃]; rfl)
        simp [h₁, h₂, h₃]
  case evicted =>
    have hv := hr.evicted
    rw [hx] at hv
    simp only [List.length_append, List.length_cons, List.length_nil] at hv ⊢
    omega
  case errors =>
    refine hr.errors.trans (List.perm_iff_count.mpr fun a => ?_)
    have hu : (d.evictOne d.device.port e.tuple rep).2.isLive =
        fun u => d.isLive u && decide (u ≠ e.tuple) && decide (u ≠ e.tuple.reverse) := by
      funext u
      rw [Bool.eq_iff_iff, hlive, ht]
      simp [Entry.peer, and_assoc]
    rw [hx, htr, hu, unmet, hl₁, if_pos rfl]
    simp only [List.count_append, List.flatMap_append, List.flatMap_cons, List.flatMap_nil,
      List.append_nil]
    omega

end Clears

/-- **Evicting the flows of tuples one after the other.** -/
theorem clears_evictEach (hc : d.Coupled s) (he : d.Equipped) (rep : EvictionReport)
    (ts : List FiveTuple) : ∃ gone, d.Clears rep ts gone (d.evictEach d.device.port rep ts) := by
  induction ts generalizing d rep with
  | nil => exact ⟨[], .nil d rep⟩
  | cons t ts ih =>
      by_cases hl : d.isLive t = true
      · obtain ⟨i, e, h, r, hi, rfl⟩ := (isLive_iff_holds hc he).mp hl
        obtain ⟨j, p, k, q, hj, ht, hne⟩ := hi.mate hc he
        obtain ⟨gone, hg⟩ := ih (hc.evict d.device.port e.tuple rep)
          (he.evict hc.paired d.device.port e.tuple rep) (d.evictOne d.device.port e.tuple rep).1
        rw [port_evictOne] at hg
        exact ⟨_, hg.take hc he hi hj ht hne⟩
      · have hl := Bool.eq_false_iff.mpr hl
        obtain ⟨gone, hg⟩ := ih hc he { rep with errors := rep.errors ++ [.missingContext t] }
        refine ⟨gone, .skip hc he hl ?_⟩
        rw [evictEach, evictOne_of_not_live hl]
        exact hg

/-! ### Runs -/

/-- The data plane with other contexts pending in its device, where reading counters and destroying
rules fails for the tuples of two lists. -/
def facing (d : Dataplane) (aged failQuery failDestroy : List FiveTuple) : Dataplane :=
  { d with device := { d.device with aged, failQuery, failDestroy } }

/-- A run clears the pending contexts. -/
theorem clears_evictAged (hc : d.Coupled s) (he : d.Equipped)
    (hs : 0 < d.settings.agedBatchSize.toNat) : ∃ gone,
      (d.withAged []).Clears {} d.device.aged gone (d.evictAged d.device.port) := by
  rw [d.evictAged_eq hs]
  exact clears_evictEach (d := d.withAged []) ((stable_coupled s).fetch [] hc)
    (he.sameRules ⟨fun _ => rfl, rfl, rfl⟩) {} d.device.aged

/-- **What an eviction run comes to.**  Whatever has happened to a new data plane, whichever
contexts are pending and whichever reads and destructions fail: a run on the device's port takes out
exactly the offloaded flows that have a pending context in either direction.  Each entry that leaves
has been given what its own rule has counted, once; its rule is gone unless it could not be
destroyed; and the report names every failed operation once, and every context that found nothing.
-/
theorem eviction_effect {settings : Settings} {nic : Nic} {port : PortId} {d : Dataplane}
    (h : create settings nic { port } = .ok d) (evs : List Event)
    (aged failQuery failDestroy : List FiveTuple) : ∃ gone,
      (facing (d.run evs) [] failQuery failDestroy).Clears {} aged gone
        ((facing (d.run evs) aged failQuery failDestroy).evictAged (d.run evs).device.port) := by
  obtain ⟨hc, he⟩ := (stable_equipped settings).run evs (fun _ _ => trivial)
    ⟨coupled_create h, equipped_create h⟩
  refine clears_evictAged (s := settings) (d := facing (d.run evs) aged failQuery failDestroy)
    ⟨hc.settings, hc.paired, hc.fair⟩ (he.sameRules ⟨fun _ => rfl, rfl, rfl⟩) ?_
  obtain ⟨hs, -⟩ := create_eq_ok h
  exact (congrArg (0 < ·.agedBatchSize.toNat) hc.settings).mpr (Settings.agedBatchSize_pos hs)

theorem eviction_effect_small : ∃ gone,
    (facing (small.run smallRun) [] [Replay.tcpFlow 1] [(Replay.tcpFlow 1).reverse]).Clears {}
      [Replay.udpFlow 1, (Replay.tcpFlow 1).reverse, Replay.tcpFlow 1] gone
      ((facing (small.run smallRun)
          [Replay.udpFlow 1, (Replay.tcpFlow 1).reverse, Replay.tcpFlow 1]
          [Replay.tcpFlow 1] [(Replay.tcpFlow 1).reverse]).evictAged
        (small.run smallRun).device.port) ∧
    Replay.tcpFlow 1 ∈ gone := by
  obtain ⟨gone, h⟩ := eviction_effect create_small smallRun
    [Replay.udpFlow 1, (Replay.tcpFlow 1).reverse, Replay.tcpFlow 1]
    [Replay.tcpFlow 1] [(Replay.tcpFlow 1).reverse]
  refine ⟨gone, h, (h.mem_gone _).mpr ⟨by decide +kernel, .inl ?_⟩⟩
  exact List.mem_cons_of_mem _ (List.mem_cons_of_mem _ List.mem_cons_self)

end Dataplane

end FlowOffload
