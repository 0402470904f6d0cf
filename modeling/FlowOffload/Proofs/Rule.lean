import FlowOffload.Rule

/-!
# Hardware rules — what the rule of an entry does

The rule of one direction of a flow turns the direction's tuple into the one that its packets leave
with (`Rule.translate_serving`), and reports the direction's own tuple when it ages
(`Rule.ageContext_serving`).  The rules of the two directions of a flow are mirror images of one
another: source and destination change places (`Rule.mirror_serving`).
-/

namespace FlowOffload

/-- The tuple of a packet after an action. -/
def Action.apply (t : FiveTuple) : Action → FiveTuple
  | .setSrcAddr a => { t with srcAddr := a }
  | .setDstAddr a => { t with dstAddr := a }
  | .setSrcPort p => { t with srcPort := p }
  | .setDstPort p => { t with dstPort := p }
  | _ => t

/-- The action with source and destination in each other's place. -/
def Action.mirror : Action → Action
  | .setSrcAddr a => .setDstAddr a
  | .setDstAddr a => .setSrcAddr a
  | .setSrcPort p => .setDstPort p
  | .setDstPort p => .setSrcPort p
  | .age seconds context => .age seconds context.reverse
  | a => a

/-- The packets of the opposite directions. -/
def Pattern.mirror : Pattern → Pattern
  | .anyIpv4 => .anyIpv4
  | .exact t => .exact t.reverse

namespace Rule

/-- The tuple of a packet after the actions of a rule, in their order. -/
def translate (r : Rule) (t : FiveTuple) : FiveTuple := r.actions.foldl Action.apply t

/-- The rule that does to the opposite direction what this one does. -/
def mirror (r : Rule) : Rule :=
  { r with pattern := r.pattern.mirror, actions := r.actions.map Action.mirror }

variable {t u : FiveTuple} {e : Entry} {rule : Rule} {seconds : UInt32} {hairpin : QueueId}

/-! ### Setting fields -/

/-- Setting what differs makes the one tuple into the other. -/
theorem foldl_setActions (h : u.protocol = t.protocol) :
    (setActions t u).foldl Action.apply t = u := by
  obtain ⟨p, a, b, x, y⟩ := t
  obtain ⟨q, c, d, z, w⟩ := u
  obtain rfl : q = p := h
  rw [setActions]
  by_cases h₁ : c = a <;> by_cases h₂ : d = b <;> by_cases h₃ : z = x <;> by_cases h₄ : w = y <;>
    simp [h₁, h₂, h₃, h₄, Action.apply]

/-- Setting fields reports nothing. -/
theorem findSome?_setActions {f : Action → Option FiveTuple}
    (hf : ∀ a : Action, (∀ seconds context, a ≠ .age seconds context) → f a = none) :
    (setActions t u).findSome? f = none := by
  refine List.findSome?_eq_none_iff.mpr fun a ha => hf a fun seconds context => ?_
  rintro rfl
  simp only [setActions, List.mem_append] at ha
  rcases ha with ((ha | ha) | ha) | ha <;> split at ha <;> simp at ha

/-- Where only the destination changes, the opposite direction has its source changed. -/
theorem map_mirror_setActions (ha : u.srcAddr = t.srcAddr) (hp : u.srcPort = t.srcPort) :
    (setActions t u).map Action.mirror = setActions t.reverse u.reverse := by
  rw [setActions, setActions, if_pos ha, if_pos hp, FiveTuple.reverse, FiveTuple.reverse,
    if_pos ha, if_pos hp]
  by_cases h : u.dstAddr = t.dstAddr <;> by_cases h' : u.dstPort = t.dstPort <;>
    simp [h, h', Action.mirror]

/-! ### The rule of an entry -/

/-- The rule that handles the direction of an entry. -/
def serving (e : Entry) (seconds : UInt32) (hairpin : QueueId) : Rule :=
  { group := mainGroup, priority := offloadPriority, ingress := true, pattern := .exact e.tuple
    actions := setActions e.tuple (e.egress.getD e.tuple)
      ++ [.count, .age seconds e.tuple, .queue hairpin] }

/-- Entries of TCP and UDP, and only those, have a rule. -/
theorem offload?_eq_ok : offload? e seconds hairpin = .ok rule ↔
    FiveTuple.Portful e.tuple.protocol ∧ serving e seconds hairpin = rule := by
  rw [offload?, serving]
  split
  · next h => rw [Except.ok.injEq, and_iff_right h]
  · next h => exact ⟨nofun, fun hr => absurd hr.1 h⟩

/-- The rule of an entry reports the entry's tuple. -/
theorem ageContext_serving (e : Entry) (seconds : UInt32) (hairpin : QueueId) :
    (serving e seconds hairpin).ageContext = some e.tuple := by
  rw [ageContext, serving, List.findSome?_append, findSome?_setActions]
  · rfl
  · intro a ha
    cases a <;> first | rfl | exact absurd rfl (ha _ _)

/-- The rule of an entry makes the entry's tuple into the one that packets leave with. -/
theorem translate_serving (seconds : UInt32) (hairpin : QueueId)
    (h : (e.egress.getD e.tuple).protocol = e.tuple.protocol) :
    (serving e seconds hairpin).translate e.tuple = e.egress.getD e.tuple := by
  rw [translate, serving, List.foldl_append, foldl_setActions h]
  rfl

/-- The rule of the answering direction is the mirror image of the opening direction's. -/
theorem mirror_serving (t : FiveTuple) (nat : Option (UInt32 × UInt16)) (len : UInt64)
    (seconds : UInt32) (hairpin : QueueId) :
    (serving (.opening t nat len) seconds hairpin).mirror =
      serving (.answering t nat) seconds hairpin := by
  have hu : ∃ u, (Entry.opening t nat len).egress.getD t = u ∧ u.srcAddr = t.srcAddr ∧
      u.srcPort = t.srcPort ∧ (Entry.answering t nat).egress.getD t.reverse = u.reverse := by
    cases nat <;> exact ⟨_, rfl, rfl, rfl, rfl⟩
  obtain ⟨u, h₁, ha, hp, h₂⟩ := hu
  rw [serving, serving]
  simp only [mirror, Pattern.mirror, List.map_append,
    show (Entry.opening t nat len).tuple = t from rfl,
    show (Entry.answering t nat).tuple = t.reverse from rfl, h₁, h₂, map_mirror_setActions ha hp]
  rfl

end Rule

end FlowOffload
