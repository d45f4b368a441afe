/-
  Proofs/Broadcast.lean --- a broadcast reaches each connection once.

  A broadcast walks the members of the topic, not the connections, and hands
  the frame to the registered connection of each member that is available.
  Two members could only share a frame's connection if the registry kept one
  connection for two clients; a mirrored registry never does, since the
  connection's own entry names one client.  So on every registry reached from
  the empty broker each connection gets the frame at most once, exactly the
  available connections of the topic's members get it, and the count of
  frames taken is the number of those connections that took it.
-/
import Mathlib.Data.Finset.Card
import TopicHub.Proofs.Registry

set_option autoImplicit false

namespace TopicHub.Hub

open Std
open TopicHub.Json

/-- What a broadcast to `topic` owes: one frame to each connection that is
registered for a member of the topic and available, none to any other, and
a count of the connections that took it. -/
structure Fanned (b : Broker) (links : ConnId → Link) (topic : String) (sends : List Send) :
    Prop where
  once : (sends.map Send.conn).Nodup
  reach : ∀ conn, conn ∈ sends.map Send.conn ↔
    ∃ member ∈ b.topics.membersOf topic, b.registry.sockets[member]? = some conn ∧
      (links conn).available
  count : delivered sends = ((sends.map Send.conn).toFinset.filter fun conn => (links conn).accepts).card

namespace Broker

variable {b : Broker} {links : ConnId → Link} {text : String} {members : List String}

/-- The connections a fan-out hands frames to: each member's registered
connection, when it is available. -/
theorem fanOut_conns :
    (b.fanOut links text members).map Send.conn =
      members.filterMap fun m => b.registry.sockets[m]?.filter fun conn => (links conn).available := by
  rw [fanOut, List.map_filterMap]
  congr 1
  funext m
  simp only [TreeMap.get?_eq_getElem?]
  cases b.registry.sockets[m]? with
  | none => rfl
  | some conn => by_cases havail : (links conn).available <;> simp [havail, Option.filter]

/-- Every frame handed over is taken exactly when its connection takes frames. -/
theorem accepted_of_mem_fanOut {s : Send} (hs : s ∈ b.fanOut links text members) :
    s.accepted = (links s.conn).accepts := by
  obtain ⟨m, -, hm⟩ := List.mem_filterMap.1 hs
  simp only [TreeMap.get?_eq_getElem?] at hm
  split at hm
  · split at hm
    · cases hm; rfl
    · cases hm
  · cases hm

/-- On a mirrored registry, distinct members never share a connection, so a
fan-out over distinct members reaches each connection once. -/
theorem nodup_fanOut (hm : b.registry.Mirrored) (hmembers : members.Nodup) :
    ((b.fanOut links text members).map Send.conn).Nodup := by
  rw [fanOut_conns]
  refine hmembers.filterMap fun m m' conn hconn hconn' => ?_
  obtain ⟨hget, -⟩ := Option.filter_eq_some_iff.1 hconn
  obtain ⟨hget', -⟩ := Option.filter_eq_some_iff.1 hconn'
  -- both are the client the connection's own entry names
  exact hm.client_eq hget ((hm m' conn).1 hget')

/-- Frames counted once per connection: the count of frames taken is the
number of distinct connections that took one. -/
theorem delivered_eq_card {sends : List Send} (hnd : (sends.map Send.conn).Nodup)
    (hacc : ∀ s ∈ sends, s.accepted = (links s.conn).accepts) :
    delivered sends = ((sends.map Send.conn).toFinset.filter fun conn => (links conn).accepts).card := by
  have hfilter : sends.filter (·.accepted) = sends.filter fun s => (links s.conn).accepts :=
    List.filter_congr fun s hs => by rw [hacc s hs]
  calc delivered sends = (sends.filter fun s => (links s.conn).accepts).length := by
        rw [delivered, hfilter]
    _ = ((sends.map Send.conn).filter fun conn => (links conn).accepts).length := by
        rw [List.filter_map, List.length_map]; rfl
    _ = (((sends.map Send.conn).filter fun conn => (links conn).accepts).toFinset).card :=
        (List.toFinset_card_of_nodup (hnd.filter _)).symm
    _ = _ := by rw [List.toFinset_filter]

/-- A broadcast that goes through hands over the fan-out of the topic's
members, in the order of their names. -/
theorem broadcast_eq_ok {α : Type} {topic : String} {toValue : α → Except Mismatch Json} {payload : α}
    {sends : List Send} (h : b.broadcast links topic toValue payload = .ok sends) :
    ∃ text, sends = b.fanOut links text (b.topics.membersOf topic).toList := by
  simp only [broadcast] at h
  split at h
  · next hempty =>
    cases h
    refine ⟨"", ?_⟩
    have hnil : (b.topics.membersOf topic).toList = [] :=
      List.isEmpty_iff.1 (by rw [TreeSet.isEmpty_toList]; exact hempty)
    rw [hnil]
    rfl
  · split at h
    · cases h
    · next text _ =>
      cases h
      exact ⟨text, rfl⟩

/-- On a mirrored registry, a broadcast that goes through owes nothing. -/
theorem fanned_of_broadcast (hm : b.registry.Mirrored) {α : Type} {topic : String}
    {toValue : α → Except Mismatch Json} {payload : α} {sends : List Send}
    (h : b.broadcast links topic toValue payload = .ok sends) :
    Fanned b links topic sends := by
  obtain ⟨text, rfl⟩ := broadcast_eq_ok h
  have hnd : ((b.fanOut links text (b.topics.membersOf topic).toList).map Send.conn).Nodup :=
    nodup_fanOut hm ((b.topics.membersOf topic).distinct_toList.imp Std.ReflCmp.ne_of_cmp_ne_eq)
  refine ⟨hnd, fun conn => ?_, delivered_eq_card hnd fun s hs => accepted_of_mem_fanOut hs⟩
  rw [fanOut_conns, List.mem_filterMap]
  simp [Option.filter_eq_some_iff, TreeSet.mem_toList]

/-- On every broker reached from the empty one by any calls, re-registering
a connection under another client included, a broadcast of any payload that
goes through hands each connection at most one frame, reaches exactly the
available registered connections of the topic's members, and counts the
distinct connections that took the frame. -/
theorem broadcast_reaches_each_connection_once {α : Type} (ops : List Op) (links : ConnId → Link)
    (topic : String) (toValue : α → Except Mismatch Json) (payload : α) (sends : List Send)
    (h : (empty.run ops).broadcast links topic toValue payload = .ok sends) :
    Fanned (empty.run ops) links topic sends :=
  fanned_of_broadcast (registry_holds_run Registry.holds_empty ops).mirrored h

/-- A connection opened for one client and then for another, both members of
the topic, is handed the frame once. -/
theorem reopened_connection_gets_one_frame :
    let ops : List Op := [.openConnection ⟨"s"⟩ "first", .request (.addToTopic "news" "first"),
      .openConnection ⟨"s"⟩ "second", .request (.addToTopic "news" "second")]
    (empty.run ops).broadcast (fun _ => ⟨true, true⟩) "news" Except.ok Json.null =
        .ok [⟨⟨"s"⟩, "null", true⟩] ∧
      Fanned (empty.run ops) (fun _ => ⟨true, true⟩) "news" [⟨⟨"s"⟩, "null", true⟩] :=
  ⟨rfl, broadcast_reaches_each_connection_once _ _ _ Except.ok Json.null _ rfl⟩

end Broker

end TopicHub.Hub
