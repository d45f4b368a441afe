/-
  Proofs/Sessions.lean --- the registry follows the latest sessions.

  The log of opened and closed sessions is all the registry depends on:
  handling a message and another caller's request open and close nothing, so
  a run of the hub leaves the registry holding the pairing that the log's
  openings and closings build (`Tracked.registry`).  Every session gets a
  connection identity no earlier session had, and closes at most once, after
  it opened (`Lifecycle.Proper`).  On such a log the pairing pairs each client
  with the connection of the session it opened last for it, while that
  session is open (`Lifecycle.Proper.mem_run_iff`).  So at every point the
  registry maps a client to its latest open session, the close of an older
  session never removes a newer one's registration, and once every session
  has closed the registry is empty.
-/
import TopicHub.Proofs.Registry
import TopicHub.Hub.Session

set_option autoImplicit false

namespace TopicHub.Hub

open Std
open TopicHub.Telemetry

/-! ## What handling a message leaves alone -/

namespace Broker

/-- Joining topics leaves the registry as it was. -/
@[simp] theorem registry_subscribe (b : Broker) (client : String) (topics : List String) :
    (b.subscribe client topics).registry = b.registry := by
  induction topics generalizing b with
  | nil => rfl
  | cons topic rest ih => exact ih _

/-- Leaving topics leaves the registry as it was. -/
@[simp] theorem registry_unsubscribe (b : Broker) (client : String) (topics : List String) :
    (b.unsubscribe client topics).registry = b.registry := by
  induction topics generalizing b with
  | nil => rfl
  | cons topic rest ih => exact ih _

end Broker

/-- Handling a client message opens and closes no connection. -/
@[simp] theorem Server.registry_handle (s : Server) (links : ConnId → Link) (conn : ConnId)
    (client text id : String) (at_ : Timestamp) :
    (s.handle links conn client text id at_).1.broker.registry = s.broker.registry := by
  unfold Server.handle
  split
  · rfl
  · exact Broker.registry_subscribe _ _ _
  · exact Broker.registry_unsubscribe _ _ _
  · rfl
  · rfl
  · rfl
  · simp only [Server.updateThresholds]
    split <;> rfl

/-- A read loop that goes on leaves the registry as it was. -/
theorem Session.registry_receive {sess : Session} {s s' : Server} {links : ConnId → Link}
    {id : String} {at_ : Timestamp} {next : Option Incoming}
    (h : sess.receive s links id at_ next = some s') : s'.broker.registry = s.broker.registry := by
  cases next with
  | none => cases h
  | some incoming =>
    cases incoming with
    | text text => cases h; exact Server.registry_handle ..
    | skipped => cases h; rfl
    | close => cases h
    | failure => cases h

/-- The supply never hands out one identity twice. -/
theorem IdSupply.fresh_injective {i j : Nat}
    (h : (IdSupply.fresh ⟨i⟩).1 = (IdSupply.fresh ⟨j⟩).1) : i = j := by
  have htext : toString i = toString j := (String.append_right_inj "conn-").1 (ConnId.mk.inj h)
  -- decimal digits determine the number
  have hdigits : Nat.toDigits 10 i = Nat.toDigits 10 j := by
    rw [← Nat.toList_repr, ← Nat.toList_repr, ← Nat.toString_eq_repr, ← Nat.toString_eq_repr, htext]
  calc i = Nat.ofDigitChars 10 (Nat.toDigits 10 i) 0 := Nat.ofDigitChars_ten_toDigits.symm
    _ = Nat.ofDigitChars 10 (Nat.toDigits 10 j) 0 := by rw [hdigits]
    _ = j := Nat.ofDigitChars_ten_toDigits

/-! ## The log of sessions -/

namespace Lifecycle

/-- The broker call a log line stands for. -/
def op : Lifecycle → Op
  | .opened s => .openConnection s.conn s.client
  | .closed s => .closeConnection s.conn s.client

/-- The session the log opened last for `client`. -/
def lastOpened (log : List Lifecycle) (client : String) : Option Session :=
  log.foldl (fun last e =>
    match e with
    | .opened s => if s.client = client then some s else last
    | .closed _ => last) none

/-- The connection of the session the log opened last for `client`, while
that session has not closed. -/
def current (log : List Lifecycle) (client : String) : Option ConnId :=
  match lastOpened log client with
  | some s => if .closed s ∈ log then none else some s.conn
  | none => none

/-- A log in which each session opened has a connection no earlier line
names, and each session closed is open. -/
inductive Proper : List Lifecycle → Prop
  | nil : Proper []
  | opened {log : List Lifecycle} {s : Session} :
      Proper log → (∀ e ∈ log, e.session.conn ≠ s.conn) → Proper (log ++ [.opened s])
  | closed {log : List Lifecycle} {s : Session} :
      Proper log → .opened s ∈ log → .closed s ∉ log → Proper (log ++ [.closed s])

variable {log : List Lifecycle} {s : Session} {client : String} {conn : ConnId}

@[simp] theorem lastOpened_nil : lastOpened [] client = none := rfl

theorem lastOpened_append_opened :
    lastOpened (log ++ [.opened s]) client =
      if s.client = client then some s else lastOpened log client := by
  simp [lastOpened, List.foldl_append]

theorem lastOpened_append_closed : lastOpened (log ++ [.closed s]) client = lastOpened log client := by
  simp [lastOpened, List.foldl_append]

/-- The session opened last for a client was opened, for that client. -/
theorem lastOpened_spec {s' : Session} (h : lastOpened log client = some s') :
    .opened s' ∈ log ∧ s'.client = client := by
  induction log using List.reverseRecOn generalizing s' with
  | nil => cases h
  | append_singleton log e ih =>
    cases e with
    | opened s =>
      rw [lastOpened_append_opened] at h
      split at h
      · cases h; exact ⟨by simp, ‹_›⟩
      · exact ⟨by simp [(ih h).1], (ih h).2⟩
    | closed s =>
      rw [lastOpened_append_closed] at h
      exact ⟨by simp [(ih h).1], (ih h).2⟩

/-- A client's current connection is that of its last opened session, which
has not closed. -/
theorem current_spec (h : current log client = some conn) :
    ∃ s', lastOpened log client = some s' ∧ .closed s' ∉ log ∧ s'.conn = conn := by
  unfold current at h
  split at h
  · next s' hlast =>
    split at h
    · cases h
    · cases h; exact ⟨s', hlast, ‹_›, rfl⟩
  · cases h

/-- Once every session opened has closed, no client has a current
connection. -/
theorem current_eq_none_of_closed (hall : ∀ s, .opened s ∈ log → .closed s ∈ log) :
    current log client = none := by
  unfold current
  split
  · next s' hlast => simp [hall s' (lastOpened_spec hlast).1]
  · rfl

/-- A new session becomes its client's current one. -/
theorem current_append_opened (hfresh : ∀ e ∈ log, e.session.conn ≠ s.conn) :
    current (log ++ [.opened s]) client =
      if s.client = client then some s.conn else current log client := by
  -- no line of the log closes the new session
  have hclosed : .closed s ∉ log := fun hs => hfresh _ hs rfl
  unfold current
  rw [lastOpened_append_opened]
  by_cases hc : s.client = client
  · simp [hc, hclosed]
  · simp [hc]

/-- Closing a session ends its client's current connection only when it is
the session opened last for that client. -/
theorem current_append_closed :
    current (log ++ [.closed s]) client =
      if lastOpened log client = some s then none else current log client := by
  unfold current
  rw [lastOpened_append_closed]
  cases hlast : lastOpened log client with
  | none => rfl
  | some s' =>
    by_cases hs : s' = s
    · simp [hs]
    · simp [hs]

theorem run_map_append (e : Lifecycle) :
    Pairing.run ∅ ((log ++ [e]).map op) = (Pairing.run ∅ (log.map op)).perform e.op := by
  simp [Pairing.run, List.foldl_append]

/-- On a proper log, the pairing its openings and closings build pairs each
client with its current connection. -/
theorem Proper.mem_run_iff (hp : Proper log) :
    (client, conn) ∈ Pairing.run ∅ (log.map op) ↔ current log client = some conn := by
  induction hp generalizing client conn with
  | nil => simp [Pairing.run, current]
  | @opened log s _ hfresh ih =>
    rw [run_map_append, current_append_opened hfresh]
    simp only [op, Pairing.perform, Pairing.mem_link, Prod.mk.injEq]
    by_cases hc : s.client = client
    · subst hc
      simp [eq_comm]
    · -- another client keeps its pair, whose connection cannot be the new one
      have hother : current log client = some conn → conn ≠ s.conn := by
        intro hcur
        obtain ⟨s', hlast, -, rfl⟩ := current_spec hcur
        exact hfresh _ (lastOpened_spec hlast).1
      simp only [hc, if_false, ih, Ne.symm hc, ne_eq, not_false_eq_true, true_and, false_and,
        false_or]
      exact ⟨And.left, fun hcur => ⟨hcur, hother hcur⟩⟩
  | @closed log s _ hopen hnot ih =>
    rw [run_map_append, current_append_closed]
    simp only [op, Pairing.perform, Pairing.mem_unlink, ih]
    by_cases hlast : lastOpened log client = some s
    · -- the closed session was the client's current one
      have hcur : current log client = some s.conn := by simp [current, hlast, hnot]
      have hclient : s.client = client := (lastOpened_spec hlast).2
      simp only [hlast, if_true, hcur, Option.some.injEq, reduceCtorEq, iff_false, not_and]
      rintro hne rfl
      exact hne (by rw [hclient])
    · simp only [hlast, if_false]
      refine ⟨And.right, fun hcur => ⟨?_, hcur⟩⟩
      -- the current session is another one, so its pair is another pair
      rintro hpair
      obtain ⟨hc, hk⟩ := Prod.mk.inj hpair
      obtain ⟨s', hlast', -, hconn⟩ := current_spec hcur
      have hclient' : s'.client = client := (lastOpened_spec hlast').2
      have hs' : s' = s := calc
        s' = ⟨conn, client⟩ := by rw [← hconn, ← hclient']
        _ = s := by rw [hk, hc]
      exact hlast (hs' ▸ hlast')

/-- On a proper log, a connection was opened for one session only. -/
theorem Proper.opened_inj (hp : Proper log) {s₁ s₂ : Session} (h₁ : .opened s₁ ∈ log)
    (h₂ : .opened s₂ ∈ log) (hconn : s₁.conn = s₂.conn) : s₁ = s₂ := by
  induction hp with
  | nil => cases h₁
  | @opened log s _ hfresh ih =>
    simp only [List.mem_append, List.mem_singleton, Lifecycle.opened.injEq] at h₁ h₂
    rcases h₁ with h₁ | rfl <;> rcases h₂ with h₂ | rfl
    · exact ih h₁ h₂
    · exact absurd hconn (hfresh _ h₁)
    · exact absurd hconn.symm (hfresh _ h₂)
    · rfl
  | closed _ _ _ ih =>
    simp only [List.mem_append, List.mem_singleton, reduceCtorEq, or_false] at h₁ h₂
    exact ih h₁ h₂

end Lifecycle

/-! ## What a run of the hub keeps -/

section Steps

variable (h : Gateway) (query : Option String) (drawn : String) (sess : Session)

/-- The session a connection arriving now gets. -/
def arrival : Session := ⟨h.supply.fresh.1, Gateway.clientOf query drawn⟩

@[simp] theorem connect_log : (h.connect query drawn).2 = [.opened (arrival h query drawn)] := rfl

@[simp] theorem connect_live :
    (h.connect query drawn).1.live = h.live ++ [arrival h query drawn] := rfl

@[simp] theorem connect_given : (h.connect query drawn).1.supply.given = h.supply.given + 1 := rfl

@[simp] theorem connect_registry :
    (h.connect query drawn).1.server.broker.registry =
      (h.server.broker.registry.register (arrival h query drawn).conn
        (arrival h query drawn).client).1 := rfl

@[simp] theorem disconnect_log : (h.disconnect sess).2 = [.closed sess] := rfl

@[simp] theorem disconnect_live : (h.disconnect sess).1.live = h.live.erase sess := rfl

@[simp] theorem disconnect_supply : (h.disconnect sess).1.supply = h.supply := rfl

@[simp] theorem disconnect_registry :
    (h.disconnect sess).1.server.broker.registry =
      (h.server.broker.registry.unregister sess.conn sess.client).1 := rfl

end Steps

/-- What a hub and the log of its sessions keep: the log is proper and names
only identities the supply has handed out, the handlers running are the
sessions opened and not closed, and the registry holds the pairing of the
log. -/
structure Tracked (h : Gateway) (log : List Lifecycle) : Prop where
  proper : Lifecycle.Proper log
  issued : ∀ e ∈ log, ∃ i < h.supply.given, e.session.conn = (IdSupply.fresh ⟨i⟩).1
  live_iff : ∀ s, s ∈ h.live ↔ .opened s ∈ log ∧ .closed s ∉ log
  live_nodup : h.live.Nodup
  registry : h.server.broker.registry.Holds (Pairing.run ∅ (log.map Lifecycle.op))

variable {h : Gateway} {log : List Lifecycle}

theorem tracked_start (capacity : Nat) : Tracked (Gateway.start capacity) [] where
  proper := .nil
  issued := by simp
  live_iff := by simp [Gateway.start]
  live_nodup := List.nodup_nil
  registry := Registry.holds_empty

/-- A step that changes the server but not its registry, and logs nothing,
keeps what the hub keeps. -/
theorem Tracked.keep (ht : Tracked h log) {server : Server}
    (hreg : server.broker.registry = h.server.broker.registry) : Tracked { h with server } log where
  proper := ht.proper
  issued := ht.issued
  live_iff := ht.live_iff
  live_nodup := ht.live_nodup
  registry := hreg ▸ ht.registry

/-- The identity an arriving connection gets is one no line of the log
names. -/
theorem Tracked.arrival_fresh (ht : Tracked h log) (query : Option String) (drawn : String) :
    ∀ e ∈ log, e.session.conn ≠ (arrival h query drawn).conn := by
  intro e he hconn
  obtain ⟨i, hi, hei⟩ := ht.issued e he
  have : i = h.supply.given := IdSupply.fresh_injective (hei.symm.trans hconn)
  omega

/-- A connection arriving keeps what the hub keeps. -/
theorem Tracked.connect (ht : Tracked h log) (query : Option String) (drawn : String) :
    Tracked (h.connect query drawn).1 (log ++ (h.connect query drawn).2) := by
  have hfresh := ht.arrival_fresh query drawn
  have hclosed : .closed (arrival h query drawn) ∉ log := fun hs => hfresh _ hs rfl
  refine ⟨ht.proper.opened hfresh, ?_, ?_, ?_, ?_⟩
  · intro e he
    rcases List.mem_append.1 he with he | he
    · obtain ⟨i, hi, hei⟩ := ht.issued e he
      exact ⟨i, by simp only [connect_given]; omega, hei⟩
    · simp only [connect_log, List.mem_singleton] at he
      subst he
      exact ⟨h.supply.given, by simp, rfl⟩
  · intro s
    by_cases hs : s = arrival h query drawn
    · subst hs
      simp [hclosed]
    · simp [ht.live_iff, hs]
  · have hnew : arrival h query drawn ∉ h.live := fun hs => hfresh _ ((ht.live_iff _).1 hs).1 rfl
    simpa using ht.live_nodup.append (List.nodup_singleton _) (List.disjoint_singleton.2 hnew)
  · rw [connect_log, Lifecycle.run_map_append, connect_registry]
    exact ht.registry.register

/-- A handler whose read loop ended keeps what the hub keeps. -/
theorem Tracked.disconnect (ht : Tracked h log) {sess : Session} (hs : sess ∈ h.live) :
    Tracked (h.disconnect sess).1 (log ++ (h.disconnect sess).2) := by
  obtain ⟨hopen, hnot⟩ := (ht.live_iff sess).1 hs
  refine ⟨ht.proper.closed hopen hnot, ?_, ?_, ?_, ?_⟩
  · intro e he
    rcases List.mem_append.1 he with he | he
    · simpa using ht.issued e he
    · simp only [disconnect_log, List.mem_singleton] at he
      subst he
      simpa [Lifecycle.session] using ht.issued _ hopen
  · intro s
    simp only [disconnect_live, ht.live_nodup.mem_erase_iff, disconnect_log,
      List.mem_append, List.mem_singleton, ht.live_iff]
    by_cases hsess : s = sess
    · subst hsess
      simp
    · simp [hsess]
  · simpa using ht.live_nodup.erase sess
  · rw [disconnect_log, Lifecycle.run_map_append, disconnect_registry]
    exact ht.registry.unregister

/-- Every activity keeps what the hub keeps. -/
theorem Tracked.step (ht : Tracked h log) (a : Activity) :
    Tracked (h.step a).1 (log ++ (h.step a).2) := by
  cases a with
  | arrive query drawn => exact ht.connect query drawn
  | read conn next links id at_ =>
    simp only [Gateway.step]
    split
    · simpa using ht
    · next sess hfind =>
      have hs : sess ∈ h.live := List.mem_of_find?_eq_some hfind
      split
      · next server hrecv => simpa using ht.keep (Session.registry_receive hrecv)
      · exact ht.disconnect hs
  | call r =>
    have hreg : ({ h.server with broker := h.server.broker.serve r } : Server).broker.registry =
        h.server.broker.registry := Broker.registry_serve _ _
    simpa [Gateway.step] using ht.keep hreg

/-- Every run keeps what the hub keeps. -/
theorem Tracked.run (ht : Tracked h log) (acts : List Activity) :
    Tracked (h.run acts).1 (log ++ (h.run acts).2) := by
  induction acts generalizing h log with
  | nil => simpa [Gateway.run] using ht
  | cons a rest ih =>
    have hrun : h.run (a :: rest) =
        (((h.step a).1.run rest).1, (h.step a).2 ++ ((h.step a).1.run rest).2) := rfl
    rw [hrun, ← List.append_assoc]
    exact ih (ht.step a)

/-- The handlers running serve distinct connections. -/
theorem Tracked.live_conn_inj (ht : Tracked h log) {s₁ s₂ : Session} (h₁ : s₁ ∈ h.live)
    (h₂ : s₂ ∈ h.live) (hconn : s₁.conn = s₂.conn) : s₁ = s₂ :=
  ht.proper.opened_inj ((ht.live_iff s₁).1 h₁).1 ((ht.live_iff s₂).1 h₂).1 hconn

/-- What a connection yields is read by the handler of its own session. -/
theorem Tracked.find_live (ht : Tracked h log) {sess : Session} (hs : sess ∈ h.live) :
    h.live.find? (·.conn == sess.conn) = some sess := by
  have hsome : (h.live.find? (·.conn == sess.conn)).isSome :=
    List.find?_isSome.2 ⟨sess, hs, by simp⟩
  obtain ⟨other, hfind⟩ := Option.isSome_iff_exists.1 hsome
  have hconn : other.conn = sess.conn := by simpa using List.find?_some hfind
  rw [hfind, ht.live_conn_inj (List.mem_of_find?_eq_some hfind) hs hconn]

/-- A read that ends a running handler's loop (a close frame, a read error or
the end of the stream) closes that handler's session, and only it. -/
theorem Tracked.step_read_ends (ht : Tracked h log) {sess : Session} (hs : sess ∈ h.live)
    {next : Option Incoming} (hend : next = none ∨ next = some .close ∨ next = some .failure)
    (links : ConnId → Link) (id : String) (at_ : Timestamp) :
    (h.step (.read sess.conn next links id at_)).2 = [.closed sess] := by
  simp only [Gateway.step, ht.find_live hs]
  rcases hend with rfl | rfl | rfl <;> rfl

/-- For any interleaving of sessions, client ids repeating, with other
requests to the broker, after every activity: every session got a new
connection and closed at most once, after it opened; the handlers running are
the sessions opened and not closed; the registry maps each client to the
connection of the session opened last for it while that session is open, and
nothing else, from both sides; a read that ends a handler's loop, whichever
way, closes its session; and once every session has closed the registry is
empty. -/
theorem registry_follows_latest_sessions (capacity : Nat) (acts : List Activity) :
    let h := ((Gateway.start capacity).run acts).1
    let log := ((Gateway.start capacity).run acts).2
    Lifecycle.Proper log ∧
      (∀ s, s ∈ h.live ↔ .opened s ∈ log ∧ .closed s ∉ log) ∧
      (∀ client conn, h.server.broker.registry.socketFor client = .ok conn ↔
        Lifecycle.current log client = some conn) ∧
      (∀ client conn, h.server.broker.registry.clientFor conn = .ok client ↔
        Lifecycle.current log client = some conn) ∧
      (∀ sess ∈ h.live, ∀ (next : Option Incoming) links id at_,
        (next = none ∨ next = some .close ∨ next = some .failure) →
          (h.step (.read sess.conn next links id at_)).2 = [.closed sess]) ∧
      ((∀ s, .opened s ∈ log → .closed s ∈ log) →
        h.server.broker.registry.sockets.isEmpty = true ∧
          h.server.broker.registry.clients.isEmpty = true) := by
  intro h log
  have ht : Tracked h log := by simpa using (tracked_start capacity).run acts
  have hiff : ∀ client conn, (client, conn) ∈ Pairing.run ∅ (log.map Lifecycle.op) ↔
      Lifecycle.current log client = some conn := fun _ _ => ht.proper.mem_run_iff
  refine ⟨ht.proper, ht.live_iff, fun client conn => ?_, fun client conn => ?_,
    fun sess hs next links id at_ hend => ht.step_read_ends hs hend links id at_, fun hall => ?_⟩
  · rw [Registry.socketFor_eq_ok, ht.registry.sockets_iff, hiff]
  · rw [Registry.clientFor_eq_ok, ht.registry.clients_iff, hiff]
  · -- no client has a current connection, so no pair is left
    have hnone : ∀ client conn, (client, conn) ∉ Pairing.run ∅ (log.map Lifecycle.op) := by
      intro client conn hmem
      rw [hiff, Lifecycle.current_eq_none_of_closed hall] at hmem
      cases hmem
    constructor
    · refine TreeMap.isEmpty_iff_forall_not_mem.2 fun client hmem => ?_
      rw [TreeMap.mem_iff_isSome_getElem?,
        ht.registry.sockets_eq_none fun conn => hnone client conn] at hmem
      cases hmem
    · refine TreeMap.isEmpty_iff_forall_not_mem.2 fun conn hmem => ?_
      rw [TreeMap.mem_iff_isSome_getElem?,
        ht.registry.clients_eq_none fun client => hnone client conn] at hmem
      cases hmem

end TopicHub.Hub
