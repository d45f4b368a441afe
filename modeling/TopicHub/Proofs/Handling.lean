/-
  Proofs/Handling.lean --- a client message is handled as it reads.

  Handling a text first reads it as a client message.  A text that does not
  read changes nothing and gets one error reply naming why.  Subscribing and
  unsubscribing join or leave every listed topic, so the roster gains or loses
  the client's pair with each of them (`Broker.topics_subscribe`,
  `Broker.topics_unsubscribe`), and the sender gets one confirmation echoing
  the list.  A reading, a clearing and a new interval are handed to the
  publisher, and since a dashboard broadcast never fails (`Server.announce_ok`)
  no error reply is ever sent for them: the frames sent are the broadcast's.
  A batch of thresholds gets an error reply naming its first unknown metric
  exactly when it has one.  No message opens or closes a connection.
-/
import TopicHub.Proofs.Dashboard
import TopicHub.Proofs.Sessions
import TopicHub.Proofs.Topics

set_option autoImplicit false

namespace TopicHub.Hub

open TopicHub.Telemetry
open TopicHub.Protocol

/-! ## Joining and leaving listed topics -/

namespace Broker

theorem subscribe_cons (b : Broker) (client topic : String) (rest : List String) :
    b.subscribe client (topic :: rest) = (b.addToTopic topic client).1.subscribe client rest := rfl

theorem unsubscribe_cons (b : Broker) (client topic : String) (rest : List String) :
    b.unsubscribe client (topic :: rest) = (b.removeFromTopic topic client).1.unsubscribe client rest :=
  rfl

/-- Joining each listed topic adds the client's pair with each to the roster. -/
theorem topics_subscribe (client : String) (topics : List String) :
    ∀ (b : Broker) (S : Roster), b.topics.Holds S →
      (b.subscribe client topics).topics.Holds (S ∪ (topics.map (·, client)).toFinset) := by
  induction topics with
  | nil => intro b S h; simpa [subscribe] using h
  | cons topic rest ih =>
    intro b S h
    have hnext := ih (b.addToTopic topic client).1 _ h.add
    -- the pair joined first is the first of the listed pairs
    simpa only [subscribe_cons, List.map_cons, List.toFinset_cons, Finset.insert_union,
      Finset.union_insert] using hnext

/-- Leaving each listed topic removes the client's pair with each from the
roster. -/
theorem topics_unsubscribe (client : String) (topics : List String) :
    ∀ (b : Broker) (S : Roster), b.topics.Holds S →
      (b.unsubscribe client topics).topics.Holds (S \ (topics.map (·, client)).toFinset) := by
  induction topics with
  | nil => intro b S h; simpa [unsubscribe] using h
  | cons topic rest ih =>
    intro b S h
    have hnext := ih (b.removeFromTopic topic client).1 _ h.remove
    simpa only [unsubscribe_cons, List.map_cons, List.toFinset_cons, Finset.sdiff_insert,
      Finset.erase_sdiff_comm] using hnext

end Broker

/-! ## Each kind of message -/

namespace Server

variable (s : Server) (links : ConnId → Link) (conn : ConnId) (client text id : String)
  (at_ : Timestamp)

/-- An outcome that went through is sent as it is. -/
@[simp] theorem sentOr_ok (sends : List Send) (reason : HubFault → String) :
    sentOr links conn (.ok sends) reason = sends := rfl

theorem handle_of_error {e : Json.Error} (h : ClientMessage.parse text = .error e) :
    s.handle links conn client text id at_ =
      (s, [reply links conn (.error ("invalid message: " ++ e.message))]) := by
  simp [handle, h]

theorem handle_of_subscribe {topics : List String} (h : ClientMessage.parse text = .ok (.subscribe topics)) :
    s.handle links conn client text id at_ =
      ({ s with broker := s.broker.subscribe client topics }, [reply links conn (.subscribed topics)]) := by
  simp [handle, h]

theorem handle_of_unsubscribe {topics : List String}
    (h : ClientMessage.parse text = .ok (.unsubscribe topics)) :
    s.handle links conn client text id at_ =
      ({ s with broker := s.broker.unsubscribe client topics }, [reply links conn (.unsubscribed topics)]) := by
  simp [handle, h]

/-- A reading is stored and the frames sent are those of its broadcast. -/
theorem handle_of_measurement {m : Measurement} (h : ClientMessage.parse text = .ok (.measurement m)) :
    (s.handle links conn client text id at_).1 = (s.recordMeasurement links m id at_).1 ∧
      (s.recordMeasurement links m id at_).2 = .ok (s.handle links conn client text id at_).2 := by
  obtain ⟨sends, hsends⟩ := Server.announce_ok (s.recordMeasurement links m id at_).1 links
    (.liveData (s.recordMeasurement links m id at_).1.dashboard.window)
  have hout : (s.recordMeasurement links m id at_).2 = .ok sends := hsends
  simp [handle, h, hout]

/-- The readings are dropped and the frames sent are those of its broadcast. -/
theorem handle_of_clearData (h : ClientMessage.parse text = .ok .clearData) :
    (s.handle links conn client text id at_).1 = (s.clearData links).1 ∧
      (s.clearData links).2 = .ok (s.handle links conn client text id at_).2 := by
  obtain ⟨sends, hsends⟩ := Server.announce_ok (s.clearData links).1 links .dataCleared
  have hout : (s.clearData links).2 = .ok sends := hsends
  simp [handle, h, hout]

/-- A new interval changes nothing and the frames sent are those of its
broadcast. -/
theorem handle_of_changeInterval {n : Nat} (h : ClientMessage.parse text = .ok (.changeInterval n)) :
    (s.handle links conn client text id at_).1 = s ∧
      s.changeInterval links n = .ok (s.handle links conn client text id at_).2 := by
  obtain ⟨sends, hsends⟩ := Server.announce_ok s links (.intervalChanged n)
  have hout : s.changeInterval links n = .ok sends := hsends
  simp [handle, h, hout]

/-- The reply to a batch refused for the metric `metric`. -/
theorem refusal_text (metric : String) :
    "failed to update thresholds: " ++ (HubFault.unknownMetric metric).message =
      "failed to update thresholds: Unknown metric: " ++ metric := by
  show "failed to update thresholds: " ++ ("Unknown metric: " ++ metric) = _
  rw [← String.append_assoc]
  rfl

/-- A batch with a metric outside `metrics` changes nothing and gets one error
reply naming its first such metric. -/
theorem handle_of_refused {batch pre post : List Threshold} {bad : Threshold}
    (h : ClientMessage.parse text = .ok (.updateThresholds batch)) (hsplit : batch = pre ++ bad :: post)
    (hpre : ∀ t ∈ pre, t.metric ∈ metrics) (hbad : bad.metric ∉ metrics) :
    s.handle links conn client text id at_ =
      (s, [reply links conn (.error ("failed to update thresholds: Unknown metric: " ++ bad.metric))]) := by
  simp only [handle, h, updateThresholds_of_unknown hsplit hpre hbad links, sentOr,
    refusal_text bad.metric]

/-- On a consistent dashboard a batch of metrics in `metrics` is put in force,
and the frames sent are those of its broadcast. -/
theorem handle_of_accepted {batch : List Threshold} (hc : s.dashboard.Consistent)
    (h : ClientMessage.parse text = .ok (.updateThresholds batch))
    (hknown : ∀ t ∈ batch, t.metric ∈ metrics) :
    (s.handle links conn client text id at_).1 = (s.updateThresholds links batch).1 ∧
      (s.updateThresholds links batch).2 = .ok (s.handle links conn client text id at_).2 := by
  obtain ⟨evs, sends, hupd, -⟩ := updateThresholds_of_known hc hknown links
  simp [handle, h, hupd]

end Server

/-! ## Any message -/

/-- What handling the text `text` from `client` on connection `conn` owes,
kind of message by kind of message. -/
structure Handled (s : Server) (links : ConnId → Link) (conn : ConnId) (client text id : String)
    (at_ : Timestamp) : Prop where
  /-- no message opens or closes a connection -/
  registry : (s.handle links conn client text id at_).1.broker.registry = s.broker.registry
  /-- a text that does not read changes nothing and gets one error reply saying why -/
  invalid : ∀ e, ClientMessage.parse text = .error e →
    s.handle links conn client text id at_ =
      (s, [Server.reply links conn (.error ("invalid message: " ++ e.message))])
  /-- joining topics adds the client's pair with each to the roster, and is
  confirmed with the same list -/
  subscribe : ∀ topics, ClientMessage.parse text = .ok (.subscribe topics) →
    (s.handle links conn client text id at_).1.dashboard = s.dashboard ∧
      (∀ S : Roster, s.broker.topics.Holds S →
        (s.handle links conn client text id at_).1.broker.topics.Holds
          (S ∪ (topics.map (·, client)).toFinset)) ∧
      (s.handle links conn client text id at_).2 = [Server.reply links conn (.subscribed topics)]
  /-- leaving topics removes the client's pair with each from the roster, and is
  confirmed with the same list -/
  unsubscribe : ∀ topics, ClientMessage.parse text = .ok (.unsubscribe topics) →
    (s.handle links conn client text id at_).1.dashboard = s.dashboard ∧
      (∀ S : Roster, s.broker.topics.Holds S →
        (s.handle links conn client text id at_).1.broker.topics.Holds
          (S \ (topics.map (·, client)).toFinset)) ∧
      (s.handle links conn client text id at_).2 = [Server.reply links conn (.unsubscribed topics)]
  /-- a reading is stored, and only its broadcast's frames are sent -/
  measurement : ∀ m, ClientMessage.parse text = .ok (.measurement m) →
    (s.handle links conn client text id at_).1 = (s.recordMeasurement links m id at_).1 ∧
      (s.recordMeasurement links m id at_).2 = .ok (s.handle links conn client text id at_).2
  /-- the readings are dropped, and only the broadcast's frames are sent -/
  clearData : ClientMessage.parse text = .ok .clearData →
    (s.handle links conn client text id at_).1 = (s.clearData links).1 ∧
      (s.clearData links).2 = .ok (s.handle links conn client text id at_).2
  /-- a new interval changes nothing, and only its broadcast's frames are sent -/
  changeInterval : ∀ n, ClientMessage.parse text = .ok (.changeInterval n) →
    (s.handle links conn client text id at_).1 = s ∧
      s.changeInterval links n = .ok (s.handle links conn client text id at_).2
  /-- a batch with a metric outside `metrics` changes nothing and gets one error
  reply naming the first such metric -/
  refused : ∀ batch pre bad post, ClientMessage.parse text = .ok (.updateThresholds batch) →
    batch = pre ++ bad :: post → (∀ t ∈ pre, t.metric ∈ metrics) →
    bad.metric ∉ metrics →
    s.handle links conn client text id at_ =
      (s, [Server.reply links conn (.error ("failed to update thresholds: Unknown metric: " ++ bad.metric))])
  /-- any other batch is put in force, and only its broadcast's frames are sent -/
  accepted : ∀ batch, ClientMessage.parse text = .ok (.updateThresholds batch) →
    (∀ t ∈ batch, t.metric ∈ metrics) →
    (s.handle links conn client text id at_).1 = (s.updateThresholds links batch).1 ∧
      (s.updateThresholds links batch).2 = .ok (s.handle links conn client text id at_).2

/-- On every server whose thresholds are consistent (as every call keeps
them), handling a text from any client on any connection does what the
message it reads as says, and nothing else: a text that does not read changes
nothing and gets one error reply; subscribing and unsubscribing change the
roster by the client's pairs with the listed topics and are confirmed with the
list as sent; a reading, a clearing and a new interval go to the publisher and
never get an error reply, the frames sent being the broadcast's; a batch of
thresholds gets an error reply naming its first unknown metric exactly when it
has one; and no connection is opened or closed. -/
theorem message_handled_as_parsed (s : Server) (hc : s.dashboard.Consistent) (links : ConnId → Link)
    (conn : ConnId) (client text id : String) (at_ : Timestamp) :
    Handled s links conn client text id at_ where
  registry := Server.registry_handle s links conn client text id at_
  invalid _ h := Server.handle_of_error s links conn client text id at_ h
  subscribe topics h := by
    rw [Server.handle_of_subscribe s links conn client text id at_ h]
    exact ⟨rfl, fun S hS => Broker.topics_subscribe client topics _ S hS, rfl⟩
  unsubscribe topics h := by
    rw [Server.handle_of_unsubscribe s links conn client text id at_ h]
    exact ⟨rfl, fun S hS => Broker.topics_unsubscribe client topics _ S hS, rfl⟩
  measurement _ h := Server.handle_of_measurement s links conn client text id at_ h
  clearData h := Server.handle_of_clearData s links conn client text id at_ h
  changeInterval _ h := Server.handle_of_changeInterval s links conn client text id at_ h
  refused _ _ _ _ h hsplit hpre hbad :=
    Server.handle_of_refused s links conn client text id at_ h hsplit hpre hbad
  accepted _ h hknown := Server.handle_of_accepted s links conn client text id at_ hc h hknown

/-- A text that does not read, sent to a server just started, is handled as
the theorem says. -/
theorem unreadable_text_handled_on_empty_server :
    (Server.empty 2).dashboard.Consistent ∧
      Handled (Server.empty 2) (fun _ => ⟨true, true⟩) ⟨"conn-0"⟩ "ada" "null" "log-1" ⟨0, 0⟩ :=
  ⟨Dashboard.consistent_empty 2,
    message_handled_as_parsed _ (Dashboard.consistent_empty 2) _ _ _ _ _ _⟩

end TopicHub.Hub
