import FlowOffload.Dataplane.Basic
import FlowOffload.Proofs.Flow.Pairing

/-!
# Interference — what other workers can do during an installation

Interference is *fair* when all it does is to take claims and to give them up.  Then it is alike
before and after: no entry comes or goes, none becomes offloaded or ceases to be, and no rule
changes hands (`Dataplane.alike_disturb`).  What it does to one entry is a run of its status through
the planned changes (`Dataplane.entry?_disturb`).
-/

namespace FlowOffload

/-! ### A status under transitions -/

namespace Status

/-- The status after a transition, which may not apply. -/
def step (s : Status) (c : Transition) : Status := if s = c.source then c.target else s

/-- The status after transitions, one after the other. -/
def after (s : Status) (cs : List Transition) : Status := cs.foldl step s

/-- A claim that is taken or given up neither begins nor ends at an offloaded status. -/
theorem step_eq_offloaded_iff (s : Status) {c : Transition} (hc : c.Tentative) :
    s.step c = .offloaded ↔ s = .offloaded := by
  rcases hc with rfl | rfl <;> cases s <;> simp [step, Transition.source, Transition.target]

/-- So a status that goes through such changes is offloaded in the end if it was before. -/
theorem after_eq_offloaded_iff (s : Status) {cs : List Transition} (hc : ∀ c ∈ cs, c.Tentative) :
    s.after cs = .offloaded ↔ s = .offloaded := by
  induction cs generalizing s with
  | nil => exact Iff.rfl
  | cons c cs ih =>
      refine (ih (s.step c) fun c h => hc c (List.mem_cons_of_mem _ h)).trans ?_
      exact step_eq_offloaded_iff s (hc c List.mem_cons_self)

end Status

theorem Entry.change_eq (e : Entry) (c : Transition) :
    e.change c = { e with status := e.status.step c } := by
  rw [change, Status.step]
  by_cases h : e.Admits c
  · rw [if_pos h, if_pos (show e.status = c.source from h)]
  · rw [if_neg h, if_neg (show ¬ e.status = c.source from h)]

/-- A status that is not `offloaded` may come and go. -/
theorem Entry.alike_status (e : Entry) {s : Status} (h : s = .offloaded ↔ e.status = .offloaded) :
    e.Alike { e with status := s } :=
  ⟨rfl, rfl, rfl, rfl, h⟩

namespace Dataplane

/-- All that other workers will do is to take claims and to give them up. -/
def Fair (d : Dataplane) : Prop := ∀ x ∈ d.interference, x.change.Tentative

instance (d : Dataplane) : Decidable d.Fair :=
  inferInstanceAs (Decidable (∀ x ∈ d.interference, x.change.Tentative))

/-- The transitions planned for an entry during the next installation call. -/
def changesDue (d : Dataplane) (i : EntryId) : List Transition :=
  ((due d.interference).filter fun x => x.entry = i).map Interference.change

/-- It stays fair to plan one more claim, or the end of one. -/
theorem fair_interfere {d : Dataplane} (hf : d.Fair) {x : Interference}
    (hx : x.change.Tentative) : (d.interfere x).Fair := by
  intro y hy
  rcases List.mem_append.mp hy with hy | hy
  · exact hf y hy
  · rw [List.mem_singleton.mp hy]
    exact hx

theorem tentative_due {d : Dataplane} (hf : d.Fair) {x : Interference}
    (hx : x ∈ due d.interference) : x.change.Tentative :=
  hf x (List.mem_filter.mp hx).1

/-- What is due for an entry is fair. -/
theorem tentative_changesDue {d : Dataplane} (hf : d.Fair) {i : EntryId} {c : Transition}
    (hc : c ∈ d.changesDue i) : c.Tentative := by
  obtain ⟨x, hx, rfl⟩ := List.mem_map.mp hc
  exact tentative_due hf (List.mem_filter.mp hx).1

/-! ### One call's interference -/

/-- Changes of entries change the table only. -/
theorem fold_change (d : Dataplane) (xs : List Interference) :
    xs.foldl (fun d x => d.change x.entry x.change) d =
      { d with table := xs.foldl (fun t x => t.modify x.entry (·.change x.change)) d.table } := by
  induction xs generalizing d with
  | nil => rfl
  | cons x xs ih => exact ih (d.change x.entry x.change)

/-- Interference changes the table and the plan, and nothing else. -/
theorem disturb_eq (d : Dataplane) :
    d.disturb = { d with
      table := d.disturb.table
      interference := later d.interference } := by
  rw [disturb, fold_change]

theorem device_disturb (d : Dataplane) : d.disturb.device = d.device := by rw [disturb_eq]

theorem settings_disturb (d : Dataplane) : d.disturb.settings = d.settings := by rw [disturb_eq]

/-- The device takes no part in interference. -/
theorem disturb_device (d : Dataplane) (v : FlowDevice) :
    disturb { d with device := v } = { d.disturb with device := v } := by
  rw [disturb, disturb, fold_change, fold_change]

/-- Interference that is due changes the table, one entry after the other. -/
theorem disturb_table (d : Dataplane) : d.disturb.table =
    (due d.interference).foldl (fun t x => t.modify x.entry (·.change x.change)) d.table := by
  rw [disturb, fold_change]

/-- **One entry under interference**: its status runs through the changes planned for it. -/
theorem entry?_disturb (d : Dataplane) (i : EntryId) : d.disturb.entry? i =
    (d.entry? i).map fun e => { e with status := e.status.after (d.changesDue i) } := by
  unfold entry?
  rw [disturb_table, changesDue]
  generalize due d.interference = xs
  induction xs generalizing d with
  | nil => simp [Status.after]
  | cons x xs ih =>
      -- the first change is made to the table, the others are planned for it
      rw [List.foldl_cons, ih { d with table := d.table.modify x.entry (·.change x.change) }]
      rw [FlowTable.entry?_modify, List.filter_cons]
      by_cases hi : x.entry = i
      · rw [if_pos hi.symm, if_pos (decide_eq_true hi), Option.map_map]
        refine congrArg (Option.map · _) (funext fun e => ?_)
        simp only [Function.comp, Entry.change_eq, List.map_cons, Status.after, List.foldl_cons]
      · rw [if_neg (Ne.symm hi), if_neg (by simp [hi])]

/-- What is planned for later stays fair. -/
theorem fair_disturb {d : Dataplane} (hf : d.Fair) : d.disturb.Fair := by
  rw [Fair, disturb_eq]
  intro x hx
  obtain ⟨y, hy, rfl⟩ := List.mem_map.mp hx
  exact hf y (List.mem_filter.mp hy).1

theorem index_disturb (d : Dataplane) : d.disturb.table.index = d.table.index := by
  rw [disturb_table]
  generalize due d.interference = xs
  induction xs generalizing d with
  | nil => rfl
  | cons x xs ih => exact ih (d.change x.entry x.change)

/-- **Fair interference** leaves the table alike. -/
theorem alike_disturb {d : Dataplane} (hf : d.Fair) : d.table.Alike d.disturb.table :=
  .of_map (index_disturb d) d.entry?_disturb fun _ e =>
    e.alike_status (e.status.after_eq_offloaded_iff fun _ => tentative_changesDue hf)

end Dataplane

end FlowOffload
