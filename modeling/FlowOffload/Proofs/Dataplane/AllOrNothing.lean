import FlowOffload.Proofs.Dataplane.Installing

/-!
# All or nothing — what an attempt leaves behind

An attempt on a whole pair either gives both directions a rule, or leaves the rules as they were and
both directions unclaimed, whatever the device refuses and whatever other workers do to the claims
meanwhile.
-/

namespace FlowOffload.Dataplane

variable {d d' : Dataplane} {i j : EntryId} {e p : Entry}

/-- An attempt succeeds exactly if the pair is claimed, the device takes both rules, and the claims
hold. -/
theorem Attempt.installed_iff {r : OffloadResult × Dataplane} (h : d.Attempt i j e p r) :
    r.1 = .ok .installed ↔
      e.status = .offloading ∧ d.Accepts e ∧ d.Accepts p ∧ d.HoldsClaims i j := by
  cases h with
  | skipped hn => exact ⟨nofun, fun h => absurd h.1 hn⟩
  | failed err he hn hf => exact ⟨nofun, fun h => absurd h.2 hn⟩
  | installed he hc hi =>
      exact ⟨fun _ => ⟨he, accepts_iff.mpr ⟨_, hi.grants₁⟩, accepts_iff.mpr ⟨_, hi.grants₂⟩, hc⟩,
        fun _ => rfl⟩

/-- **Offloading a pair is all or nothing.**  Let both directions of a flow be in the table,
offloaded together or not at all, and let nothing fail to be destroyed.  Whichever claims other
workers take and give up before either installation takes effect:

* the pair is installed exactly if the direction is claimed, the device accepts both rules, and both
  claims are held after the second installation.  Then both directions are offloaded, each under a
  handle of its own, and the device has gained their two rules;
* after an error both directions are unclaimed and without rules, the device has the rules that it
  had before, and one more failure is counted;
* if the attempt is skipped, nothing changes. -/
theorem offloadPair_all_or_nothing (h : d.table.Whole i j e p) (hf : d.Fair)
    (hv : d.device.Arises) (hd : d.device.failDestroy = []) :
    ((d.offloadPair i).1 = .ok .installed ↔
      e.status = .offloading ∧ d.Accepts e ∧ d.Accepts p ∧ d.HoldsClaims i j) ∧
    ((d.offloadPair i).1 = .ok .installed → ∃ f b re rp, f ≠ b ∧
      d.device.rules.get? f = none ∧ d.device.rules.get? b = none ∧
      d.offloadRule? e = .ok re ∧ d.offloadRule? p = .ok rp ∧
      entry? (d.offloadPair i).2 i = some { e with status := .offloaded, rule := some f } ∧
      entry? (d.offloadPair i).2 j = some { p with status := .offloaded, rule := some b } ∧
      (d.offloadPair i).2.device.rules =
        (d.device.rules.insert f { rule := re }).insert b { rule := rp }) ∧
    (∀ err, (d.offloadPair i).1 = .error err →
      entry? (d.offloadPair i).2 i = some { e with status := .notOffloaded, rule := none } ∧
      entry? (d.offloadPair i).2 j = some { p with status := .notOffloaded, rule := none } ∧
      (d.offloadPair i).2.device.rules = d.device.rules ∧
      (d.offloadPair i).2.device.byTuple = d.device.byTuple ∧
      (d.offloadPair i).2.counters.offloadFailed = d.counters.offloadFailed + 1) ∧
    ((d.offloadPair i).1 = .ok .skipped → (d.offloadPair i).2 = d) := by
  have ha := attempt_offloadPair h hf
  refine ⟨ha.installed_iff, ?_⟩
  have hc := hv.consistent
  generalize d.offloadPair i = r at ha
  cases ha with
  | skipped hn => exact ⟨nofun, nofun, fun _ => rfl⟩
  | failed err he hn hx =>
      -- the device has used up handles, and is the same otherwise
      have he' : e.status ≠ .offloaded := by rw [he]; exact nofun
      refine ⟨nofun, fun _ _ => ⟨?_, ?_, ?_, ?_, ?_⟩, nofun⟩
      · rw [hx.entry₁, ← h.idle₁ he']
      · rw [hx.entry₂, ← h.idle₂ (mt h.together.mpr he')]
      · obtain ⟨n, hw⟩ := hx.device.eq hc hd h.distinct
        rw [hw]
      · obtain ⟨n, hw⟩ := hx.device.eq hc hd h.distinct
        rw [hw]
      · rw [hx.counters]
  | @installed _ re rp he hl hx =>
      obtain ⟨t, -, hu⟩ := hx.table
      refine ⟨fun _ => ⟨d.device.lastHandle + 1, d.device.lastHandle + 1 + 1, re, rp,
        (Nat.succ_ne_self _).symm, hc.rules_fresh Nat.one_pos, hc.rules_fresh Nat.two_pos,
        hx.grants₁.offloads, hx.grants₂.offloads, hu.entry₁, hu.entry₂, ?_⟩, nofun, nofun⟩
      rw [hx.device]
      rfl

/-- The first packet of a flow that is to be offloaded. -/
def contestedTuple : FiveTuple := ⟨FiveTuple.tcp, 1, 2, 3, 4⟩

/-- A claimed flow whose claims are given up and taken again while its rules are installed. -/
def contested : Dataplane :=
  let opening := Entry.opening contestedTuple (some (9, 7)) 60
  { settings := {}
    table :=
      { capacity := 2, count := 2
        index := FiniteMap.insert (FiniteMap.insert ∅ contestedTuple 0) contestedTuple.reverse 1
        arena := #[opening.change .claim, .answering contestedTuple (some (9, 7))] }
    pool := .ofRange 7 0
    latency := { limit := 1 }
    nic := .withQueues 0 1
    device := { port := 0 }
    interference := [⟨1, 1, .revert⟩, ⟨2, 0, .revert⟩, ⟨2, 1, .claim⟩, ⟨2, 0, .claim⟩] }

theorem contested_installed : (contested.offloadPair 0).1 = .ok .installed := by
  have hw : contested.table.Whole 0 1
      ((Entry.opening contestedTuple (some (9, 7)) 60).change .claim)
      (.answering contestedTuple (some (9, 7))) :=
    ⟨⟨rfl, rfl⟩, ⟨rfl, rfl⟩, rfl, by decide, by decide, fun _ => rfl, fun _ => rfl⟩
  have hi := offloadPair_all_or_nothing hw (by decide) (.new 0) rfl
  exact hi.1.mpr ⟨rfl, ⟨_, _, rfl, rfl⟩, ⟨_, _, rfl, rfl⟩, by decide, by decide⟩

end FlowOffload.Dataplane
