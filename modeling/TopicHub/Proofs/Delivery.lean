/-
  Proofs/Delivery.lean --- what a broadcast does, case by case.

  A broadcast to a topic without members hands over nothing and answers at
  once, whatever the payload: the payload is not even written, so one that
  cannot be written, by its serializer or for two keys with one camel-case
  name, answers the same.  To a topic with members, a payload that cannot be
  written as a frame stops the broadcast before any frame is handed over.  Otherwise every frame carries the one text the payload was written
  as, each available registered connection of a member is handed it once and
  no other connection is, and the count is of the frames that were taken; a
  frame refused by one connection keeps no later member from its own.  No
  broadcast changes the broker.
-/
import TopicHub.Proofs.Interleaving

set_option autoImplicit false

namespace TopicHub.Hub

open TopicHub.Json

/-- What a broadcast of the frame `text` to `topic` hands over: what `Fanned`
owes, every frame with the text `text`, and each taken exactly when its
connection takes frames. -/
structure Delivers (b : Broker) (links : ConnId → Link) (topic text : String) (sends : List Send) :
    Prop where
  fanned : Fanned b links topic sends
  text_eq : ∀ s ∈ sends, s.text = text
  accepted_eq : ∀ s ∈ sends, s.accepted = (links s.conn).accepts

namespace Broker

variable {b : Broker} {links : ConnId → Link} {topic text : String} {α : Type}
  {toValue : α → Except Mismatch Json} {payload : α}

/-- A broadcast reads the broker and leaves it as it was. -/
@[simp] theorem perform_broadcast : b.perform (.request (.broadcast links topic toValue payload)) = b :=
  rfl

/-- A topic without members is answered before the payload is written. -/
theorem broadcast_of_isEmpty (h : (b.topics.membersOf topic).isEmpty = true) :
    b.broadcast links topic toValue payload = .ok [] := by
  simp [broadcast, h]

/-- To a topic with members, a payload that cannot be written is the
broadcast's fault. -/
theorem broadcast_of_frame_error {m : Mismatch} (h : (b.topics.membersOf topic).isEmpty = false)
    (hframe : Naming.camelCaseJson toValue payload = .error m) :
    b.broadcast links topic toValue payload = .error (.serialization m.message) := by
  simp [broadcast, h, hframe]

/-- To a topic with members, a written payload is fanned out over them. -/
theorem broadcast_of_frame_ok (h : (b.topics.membersOf topic).isEmpty = false)
    (hframe : Naming.camelCaseJson toValue payload = .ok text) :
    b.broadcast links topic toValue payload = .ok (b.fanOut links text (b.topics.membersOf topic).toList) := by
  simp [broadcast, h, hframe]

/-- Every frame a fan-out hands over carries the fan-out's text. -/
theorem text_of_mem_fanOut {members : List String} {s : Send} (hs : s ∈ b.fanOut links text members) :
    s.text = text := by
  obtain ⟨m, -, hm⟩ := List.mem_filterMap.1 hs
  obtain ⟨c, -, -, rfl⟩ := sendTo_eq_some.1 hm
  rfl

/-- On a mirrored registry, a broadcast of a written payload to a topic with
members hands over what `Delivers` says. -/
theorem delivers_of_frame_ok (hm : b.registry.Mirrored) (h : (b.topics.membersOf topic).isEmpty = false)
    (hframe : Naming.camelCaseJson toValue payload = .ok text) :
    ∃ sends, b.broadcast links topic toValue payload = .ok sends ∧ Delivers b links topic text sends := by
  have hb : b.broadcast links topic toValue payload = .ok _ := broadcast_of_frame_ok h hframe
  exact ⟨_, hb, fanned_of_broadcast hm hb, fun _ hs => text_of_mem_fanOut hs,
    fun _ hs => accepted_of_mem_fanOut hs⟩

/-- On every broker reached from the empty one, a broadcast of any payload
leaves the broker as it was and answers by cases: a topic without members gets
nothing, whatever the payload, even one whose serializer refuses it; a payload
that cannot be written as a frame is a serialization fault and nothing is
sent; otherwise the frame goes once to each available registered connection
of a member and nowhere else, and the frames taken are counted. -/
theorem broadcast_answers_each_case (ops : List Op) (links : ConnId → Link) (topic : String)
    (toValue : α → Except Mismatch Json) (payload : α) :
    let b := empty.run ops
    b.perform (.request (.broadcast links topic toValue payload)) = b ∧
    ((b.topics.membersOf topic).isEmpty = true → b.broadcast links topic toValue payload = .ok []) ∧
    (∀ m, (b.topics.membersOf topic).isEmpty = false → Naming.camelCaseJson toValue payload = .error m →
      b.broadcast links topic toValue payload = .error (.serialization m.message)) ∧
    (∀ text, (b.topics.membersOf topic).isEmpty = false → Naming.camelCaseJson toValue payload = .ok text →
      ∃ sends, b.broadcast links topic toValue payload = .ok sends ∧ Delivers b links topic text sends) :=
  ⟨perform_broadcast, broadcast_of_isEmpty, fun _ => broadcast_of_frame_error,
    fun _ => delivers_of_frame_ok (registry_holds_run Registry.holds_empty ops).mirrored⟩

end Broker

end TopicHub.Hub
