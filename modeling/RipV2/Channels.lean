import Mathlib.Data.List.Nodup

namespace RipV2.Channels

/-- All that was sent, and how much of it was received. -/
structure Channel (α : Type) (capacity : ℕ) where
  sent : List α
  received : ℕ
  received_le : received ≤ sent.length
  sent_le : sent.length ≤ received + capacity

namespace Channel

variable {α β : Type} {capacity : ℕ}

def empty : Channel α capacity where
  sent := []
  received := 0
  received_le := Nat.le_refl _
  sent_le := Nat.zero_le _

/-- What was received, oldest first. -/
def taken (channel : Channel α capacity) : List α :=
  channel.sent.take channel.received

/-- What is still in the channel, oldest first. -/
def pending (channel : Channel α capacity) : List α :=
  channel.sent.drop channel.received

/-- A sender waits while the channel is full. -/
def send (channel : Channel α capacity) (a : α) : Option (Channel α capacity) :=
  if h : channel.sent.length < channel.received + capacity then
    some {
      sent := channel.sent ++ [a]
      received := channel.received
      received_le := by
        have hle := channel.received_le
        rw [List.length_append]
        omega
      sent_le := by
        rw [List.length_append, List.length_singleton]
        omega }
  else none

/-- The receiver waits while the channel is empty. -/
def receive (channel : Channel α capacity) : Option (α × Channel α capacity) :=
  if h : channel.received < channel.sent.length then
    some (channel.sent[channel.received], {
      sent := channel.sent
      received := channel.received + 1
      received_le := h
      sent_le := by
        have hle := channel.sent_le
        omega })
  else none

variable {channel channel' : Channel α capacity} {a : α}

theorem taken_append_pending (channel : Channel α capacity) :
    channel.taken ++ channel.pending = channel.sent :=
  List.take_append_drop _ _

theorem taken_subset (channel : Channel α capacity) : channel.taken ⊆ channel.sent :=
  List.take_subset _ _

theorem pending_subset (channel : Channel α capacity) : channel.pending ⊆ channel.sent :=
  List.drop_subset _ _

theorem pending_length_le (channel : Channel α capacity) : channel.pending.length ≤ capacity := by
  have hle := channel.sent_le
  rw [pending, List.length_drop]
  omega

theorem send_isSome_iff : (channel.send a).isSome = true ↔ channel.pending.length < capacity := by
  have hle := channel.received_le
  rw [send, pending, List.length_drop]
  split_ifs with h
  · exact iff_of_true rfl (by omega)
  · exact iff_of_false (by simp) (by omega)

theorem taken_of_send (h : channel.send a = some channel') : channel'.taken = channel.taken := by
  rw [send] at h
  split_ifs at h
  obtain rfl := Option.some.inj h
  exact List.take_append_of_le_length channel.received_le

theorem pending_of_send (h : channel.send a = some channel') :
    channel'.pending = channel.pending ++ [a] := by
  rw [send] at h
  split_ifs at h
  obtain rfl := Option.some.inj h
  exact List.drop_append_of_le_length channel.received_le

theorem sent_of_send (h : channel.send a = some channel') :
    channel'.sent = channel.sent ++ [a] := by
  rw [← taken_append_pending, taken_of_send h, pending_of_send h, ← List.append_assoc,
    taken_append_pending]

theorem taken_of_receive (h : channel.receive = some (a, channel')) :
    channel'.taken = channel.taken ++ [a] := by
  rw [receive] at h
  split_ifs at h
  obtain ⟨rfl, rfl⟩ := Prod.mk.inj (Option.some.inj h)
  simp [taken]

theorem pending_of_receive (h : channel.receive = some (a, channel')) :
    channel.pending = a :: channel'.pending := by
  rw [receive] at h
  split_ifs at h
  obtain ⟨rfl, rfl⟩ := Prod.mk.inj (Option.some.inj h)
  exact List.drop_eq_getElem_cons _

theorem sent_of_receive (h : channel.receive = some (a, channel')) :
    channel'.sent = channel.sent := by
  rw [← taken_append_pending, taken_of_receive h, List.append_assoc, List.singleton_append,
    ← pending_of_receive h, taken_append_pending]

theorem receive_isSome_iff : channel.receive.isSome = true ↔ channel.pending ≠ [] := by
  rw [receive, pending, Ne, List.drop_eq_nil_iff]
  split_ifs with h
  · exact iff_of_true rfl (by omega)
  · exact iff_of_false (by simp) (by omega)

theorem disjoint_of_nodup {f : α → β} (h : (channel.sent.map f).Nodup) {b : β}
    (htaken : b ∈ channel.taken.map f) : b ∉ channel.pending.map f := by
  rw [← taken_append_pending, List.map_append] at h
  exact List.disjoint_of_nodup_append h htaken

end Channel

end RipV2.Channels
