import FlowOffload.Proofs.Rule
import FlowOffload.Proofs.Frame.Readdressing

/-!
# Translation — one for hardware and software

The rule of one direction of a flow sets the fields in which the tuple that its packets leave with
differs from their own; software overwrites the half-words that differ.  Both turn the packets of
an entry into packets of the same tuple, and the rules of the two directions are mirror images of
one another (`Rule.translations_agree`).
-/

namespace FlowOffload

/-- An entry's packets leave with the protocol that they came with. -/
def Entry.KeepsProtocol (e : Entry) : Prop := (e.egress.getD e.tuple).protocol = e.tuple.protocol

/-- Source NAT leaves the protocol of a flow alone. -/
theorem Entry.keepsProtocol_opening (t : FiveTuple) (nat : Option (UInt32 × UInt16))
    (len : UInt64) : (opening t nat len).KeepsProtocol := by
  cases nat <;> rfl

theorem Entry.keepsProtocol_answering (t : FiveTuple) (nat : Option (UInt32 × UInt16)) :
    (answering t nat).KeepsProtocol := by
  cases nat <;> rfl

namespace Rule

/-- A rule is for the packets of an entry, reports them, and takes them to the tuple that software
takes them to. -/
structure Translates (rule : Rule) (e : Entry) : Prop where
  pattern : rule.pattern = .exact e.tuple
  ageContext : rule.ageContext = some e.tuple
  translate : rule.translate e.tuple = e.egress.getD e.tuple
  readdress : ∀ frame f, Frame.classify frame = .ok e.tuple →
    Frame.readdress frame Frame.etherHeader e.tuple (e.egress.getD e.tuple) = .ok f →
      Frame.classify f = .ok (rule.translate e.tuple)

/-- The rule of a direction translates as software does. -/
theorem translates_serving {e : Entry} (h : e.KeepsProtocol) (seconds : UInt32)
    (hairpin : QueueId) : (serving e seconds hairpin).Translates e where
  pattern := rfl
  ageContext := ageContext_serving e seconds hairpin
  translate := translate_serving seconds hairpin h
  readdress := by
    intro _ _ hc hr
    rw [translate_serving seconds hairpin h]
    exact Frame.classify_readdress hc hr h

/-- **Hardware and software translate alike.**  Both directions of a flow over TCP or UDP have a
rule, whether and wherever the flow is sent on to.  Each rule is for the tuple of its direction,
reports it, and makes it into the tuple that packets leave with; software makes the packets of the
direction into packets of the same tuple.  The two rules are mirror images of one another. -/
theorem translations_agree {t : FiveTuple} (h : FiveTuple.Portful t.protocol)
    (nat : Option (UInt32 × UInt16)) (len : UInt64) (seconds : UInt32) (hairpin : QueueId) :
    ∃ rule, offload? (.opening t nat len) seconds hairpin = .ok rule ∧
      rule.Translates (.opening t nat len) ∧
      offload? (.answering t nat) seconds hairpin = .ok rule.mirror ∧
      rule.mirror.Translates (.answering t nat) := by
  refine ⟨serving (.opening t nat len) seconds hairpin, offload?_eq_ok.mpr ⟨h, rfl⟩, ?_, ?_, ?_⟩
  · exact translates_serving (Entry.keepsProtocol_opening t nat len) _ _
  · rw [mirror_serving]
    exact offload?_eq_ok.mpr ⟨h, rfl⟩
  · rw [mirror_serving]
    exact translates_serving (Entry.keepsProtocol_answering t nat) _ _

theorem translations_agree_udp :
    ∃ rule, offload? (.opening ⟨FiveTuple.udp, 0x0A000001, 0x0A000002, 5000, 53⟩
        (some (0x05050505, 1024)) 60) 30 3 = .ok rule ∧
      rule.Translates (.opening ⟨FiveTuple.udp, 0x0A000001, 0x0A000002, 5000, 53⟩
        (some (0x05050505, 1024)) 60) ∧
      offload? (.answering ⟨FiveTuple.udp, 0x0A000001, 0x0A000002, 5000, 53⟩
        (some (0x05050505, 1024))) 30 3 = .ok rule.mirror ∧
      rule.mirror.Translates (.answering ⟨FiveTuple.udp, 0x0A000001, 0x0A000002, 5000, 53⟩
        (some (0x05050505, 1024))) :=
  translations_agree (.inr rfl) (some (0x05050505, 1024)) 60 30 3

end Rule

end FlowOffload
