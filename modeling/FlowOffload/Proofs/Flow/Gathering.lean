import Mathlib.Data.List.Basic
import FlowOffload.Proofs.Flow.Pairing

/-!
# Gathering — one thing of every stored entry

A list with one thing of every stored entry that has it, such as the NAT port that it owns, or its
tuple if it is offloaded.  Such a list changes only with what is gathered: a pair that goes in
brings its things along, a pair that leaves takes them away, and a pair that is replaced does both.
-/

namespace FlowOffload.FlowTable

variable {α : Type} {t u : FlowTable} {i j : EntryId} {e p a b : Entry} {g : Entry → Option α}

/-- What `g` finds in the stored entries. -/
def gather (t : FlowTable) (g : Entry → Option α) : List α :=
  t.index.pairs.filterMap fun x => (t.entry? x.2).bind g

/-- What `g` finds in the entries that are stored under other tuples than `k` and `l`. -/
def gatherBut (t : FlowTable) (k l : FiveTuple) (g : Entry → Option α) : List α :=
  ((t.index.erase k).erase l).pairs.filterMap fun x => (t.entry? x.2).bind g

theorem gather_congr (hx : u.index = t.index)
    (h : ∀ k, (u.entry? k).bind g = (t.entry? k).bind g) : u.gather g = t.gather g := by
  simp only [gather, hx, h]

/-- Tables that are alike differ only in what their entries have counted and in claims. -/
theorem Alike.gather_eq (h : t.Alike u) (hg : ∀ {e e' : Entry}, e.Alike e' → g e' = g e) :
    u.gather g = t.gather g := by
  refine gather_congr h.index fun k => ?_
  cases ht : t.entry? k with
  | none =>
      cases hu : u.entry? k with
      | none => rfl
      | some e' =>
          obtain ⟨e, he, -⟩ := h.entry_rev hu
          exact nomatch ht.symm.trans he
  | some e =>
      obtain ⟨e', he', ha⟩ := h.entry ht
      rw [he']
      exact hg ha

/-- Other tuples lead to other identities. -/
theorem outside_of_mem (hf : t.Filed) (hi : t.Stored i e) (hj : t.Stored j p)
    {x : FiveTuple × EntryId} (hx : x ∈ ((t.index.erase e.tuple).erase p.tuple).pairs) :
    x.2 ≠ i ∧ x.2 ≠ j := by
  obtain ⟨k, n⟩ := x
  have hl := FiniteMap.mem_pairs_iff.mp hx
  rw [FiniteMap.get?_erase, FiniteMap.get?_erase] at hl
  split at hl
  · cases hl
  · next hp =>
      split at hl
      · cases hl
      · next he =>
          obtain ⟨y, hy, rfl⟩ := hf.stored hl
          refine ⟨?_, ?_⟩
          · rintro rfl
            exact he (congrArg _ (hy.unique hi))
          · rintro rfl
            exact hp (congrArg _ (hy.unique hj))

/-- The pairs of two stored entries, and the others. -/
theorem perm_pairs_of_stored (hi : t.Stored i e) (hj : t.Stored j p) (ht : e.tuple ≠ p.tuple) :
    t.index.pairs.Perm
      ((e.tuple, i) :: (p.tuple, j) :: ((t.index.erase e.tuple).erase p.tuple).pairs) := by
  have hp : (t.index.erase e.tuple).get? p.tuple = some j := by
    rw [FiniteMap.get?_erase, if_neg ht.symm]
    exact hj.lookup
  exact (FiniteMap.perm_pairs hi.lookup).trans ((FiniteMap.perm_pairs hp).cons _)

/-- A pair that leaves takes two tuples out of the index. -/
theorem Parted.size_index (h : t.Parted u i j e p a b) : t.index.size = u.index.size + 2 := by
  rw [h.index]
  exact (perm_pairs_of_stored h.stored₁ h.stored₂ h.distinct).length_eq

/-- A stored pair is replaced: what is gathered of it is, too. -/
theorem Updated.gather_perm (h : t.Updated u i j a b) (hf : t.Filed) (hi : t.Stored i e)
    (hj : t.Stored j p) (ht : e.tuple ≠ p.tuple) :
    (u.gather g).Perm ((g a).toList ++ ((g b).toList ++ t.gatherBut e.tuple p.tuple g)) := by
  have hrest : ((t.index.erase e.tuple).erase p.tuple).pairs.filterMap
      (fun x => (u.entry? x.2).bind g) = t.gatherBut e.tuple p.tuple g := by
    refine List.filterMap_congr fun x hx => ?_
    obtain ⟨hxi, hxj⟩ := outside_of_mem hf hi hj hx
    rw [h.entry_other hxi hxj]
  rw [gather, h.index]
  refine ((perm_pairs_of_stored hi hj ht).filterMap _).trans (List.Perm.of_eq ?_)
  rw [List.filterMap_cons_toList, List.filterMap_cons_toList, h.entry₁, h.entry₂, hrest]
  rfl

/-- A stored pair and the rest. -/
theorem gather_perm_of_stored (hf : t.Filed) (hi : t.Stored i e) (hj : t.Stored j p)
    (ht : e.tuple ≠ p.tuple) :
    (t.gather g).Perm ((g e).toList ++ ((g p).toList ++ t.gatherBut e.tuple p.tuple g)) := by
  have hij : i ≠ j := by
    rintro rfl
    exact ht (congrArg _ (hi.unique hj))
  exact (Updated.self hij hi.entry hj.entry).gather_perm hf hi hj ht

/-- A pair that goes in brings its things. -/
theorem Joined.gather_perm (h : t.Joined u i j a b) (hf : t.Filed) :
    (u.gather g).Perm ((g a).toList ++ ((g b).toList ++ t.gather g)) := by
  have hold : t.index.pairs.filterMap (fun x => (u.entry? x.2).bind g) = t.gather g := by
    refine List.filterMap_congr fun x hx => ?_
    obtain ⟨e, hs, -⟩ := hf.stored (FiniteMap.mem_pairs_iff.mp hx)
    rw [h.entry_other (hs.ne_of_new h.new₁) (hs.ne_of_new h.new₂)]
  refine (h.pairs.filterMap _).trans (List.Perm.of_eq ?_)
  rw [List.filterMap_cons_toList, List.filterMap_cons_toList, h.entry₁, h.entry₂, hold]
  rfl

/-- A pair that leaves takes its things along. -/
theorem Parted.gather_perm (h : t.Parted u i j e p a b) (hf : t.Filed) :
    (t.gather g).Perm ((g e).toList ++ ((g p).toList ++ u.gather g)) := by
  have hold : t.gatherBut e.tuple p.tuple g = u.gather g := by
    rw [gatherBut, ← h.index]
    refine List.filterMap_congr fun x hx => ?_
    obtain ⟨-, hxi, hxj⟩ := h.lookup_old hf (FiniteMap.mem_pairs_iff.mp hx)
    rw [h.entry_other hxi hxj]
  exact hold ▸ gather_perm_of_stored hf h.stored₁ h.stored₂ h.distinct

end FlowOffload.FlowTable
