import FlowOffload.Nic

/-!
# The NIC — what is received and what is transmitted

A reception takes frames from the front of the queue on which they wait and leaves the rest there; a
transmission leaves what waits alone.  If the NIC accepts a burst, all of it is transmitted.
-/

namespace FlowOffload

/-! ### Receiving and transmitting -/

namespace Nic

variable (n : Nic) (port : PortId) (queue : QueueId)

/-- What is received has waited, and the rest goes on waiting. -/
theorem length_receive_add_pending (max : Nat) :
    (n.receive port queue max).1.length + (n.receive port queue max).2.pending queue =
      n.pending queue := by
  rw [receive]
  split
  · exact Nat.zero_add _
  · split
    · exact Nat.zero_add _
    · next q hq =>
        simp only [pending, Array.getElem?_modify, if_pos, hq, Option.map_some, Option.getD_some,
          Fifo.take, Fifo.ofList, ← Fifo.length_toList q]
        rw [← List.length_append, List.take_append_drop]

/-- A queue of the NIC gives what is in front of it. -/
theorem receive_eq {n : Nic} {queue : QueueId} {q : Fifo Frame} {max : Nat}
    (h : n.rx[queue.toNat]? = some q) : n.receive n.port queue max =
      ((q.take max).1, { n with rx := n.rx.modify queue.toNat fun _ => (q.take max).2 }) := by
  simp only [receive, ne_eq, not_true_eq_false, if_false, h]

/-- A burst that the NIC accepts is transmitted to its last frame. -/
theorem transmit_eq {n : Nic} {queue : QueueId} {burst : List Frame} (h : queue.toNat < n.tx.size)
    (ha : n.accepts burst.length = burst.length) : n.transmit n.port queue burst =
      ([], { n with tx := n.tx.modify queue.toNat (·.pushAll burst) }) := by
  have hp : ¬ (n.port ≠ n.port ∨ n.tx.size ≤ queue.toNat) := by simp [h]
  simp only [transmit, if_neg hp, ha, List.drop_length, List.take_length]

/-- Transmitting takes nothing from the receive queues. -/
theorem pending_transmit (burst : List Frame) :
    (n.transmit port queue burst).2.pending queue = n.pending queue := by
  rw [transmit]
  split <;> rfl

/-- A transmission that accepts a burst accepts every smaller one. -/
theorem accepts_of_le {n : Nic} {j k : Nat} (h : n.accepts k = k) (hj : j ≤ k) :
    n.accepts j = j := by
  rw [accepts] at h ⊢
  split
  · rfl
  · next limit hl =>
      rw [hl] at h
      simp only at h
      omega

theorem length_transmit_le (burst : List Frame) :
    (n.transmit port queue burst).1.length ≤ burst.length := by
  rw [transmit]
  split
  · exact Nat.le_refl _
  · rw [List.length_drop]
    exact Nat.sub_le _ _

end Nic

end FlowOffload
