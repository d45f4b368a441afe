/-
  Proofs/Registry.lean --- the registry holds a partial bijection.

  A `Pairing` is a finite set of client–connection pairs.  Opening a
  connection for a client `link`s the two: every pair of the client and every
  pair of the connection is dropped, and the new pair added.  Closing a
  connection `unlink`s exactly its pair with the client.  The registry
  `Holds` a pairing when each of its two maps answers from it; the maps then
  read each other backwards.

  The registry's operations are first described key by key on a mirrored
  registry (`register_sockets`, `register_clients`, `unregister_sockets`,
  `unregister_clients`).  Each description gives one refinement step
  (`Holds.register`, `Holds.unregister`), and the broker's calls, run from
  the empty broker, keep the registry holding the pairing that the same calls
  build (`Broker.registry_holds_run`).
-/
import Mathlib.Data.Finset.Basic
import TopicHub.Hub.Operation

set_option autoImplicit false

namespace TopicHub

/-- Connection identities compare as their texts. -/
instance : Std.TransOrd ConnId := inferInstanceAs <| Std.TransCmp (compareOn ConnId.text)

instance : Std.LawfulEqOrd ConnId where
  eq_of_compare {a b} h := by
    cases a; cases b
    exact congrArg ConnId.mk (Std.LawfulEqOrd.eq_of_compare (α := String) h)
  compare_self := Std.ReflOrd.compare_self (α := String)

namespace Hub

open Std

/-- A finite set of client–connection pairs. -/
abbrev Pairing := Finset (String × ConnId)

namespace Pairing

/-- Pairs `client` with `conn`, dropping every other pair of either. -/
def link (R : Pairing) (conn : ConnId) (client : String) : Pairing :=
  insert (client, conn) (R.filter fun p => p.1 ≠ client ∧ p.2 ≠ conn)

/-- Drops the pair of `client` and `conn`. -/
def unlink (R : Pairing) (conn : ConnId) (client : String) : Pairing :=
  R.erase (client, conn)

/-- The pairing after a call on the broker: only opening and closing a
connection change it. -/
def perform (R : Pairing) : Op → Pairing
  | .openConnection conn client => R.link conn client
  | .closeConnection conn client => R.unlink conn client
  | .request _ => R

/-- The pairing after each call of `ops`, in order. -/
def run (R : Pairing) (ops : List Op) : Pairing := ops.foldl perform R

/-- Each client has at most one connection and each connection at most one
client. -/
def Bijective (R : Pairing) : Prop :=
  (∀ client conn conn', (client, conn) ∈ R → (client, conn') ∈ R → conn = conn') ∧
    (∀ client client' conn, (client, conn) ∈ R → (client', conn) ∈ R → client = client')

variable {R : Pairing} {conn : ConnId} {client : String}

@[simp] theorem mem_link {p : String × ConnId} :
    p ∈ R.link conn client ↔ p = (client, conn) ∨ (p ∈ R ∧ p.1 ≠ client ∧ p.2 ≠ conn) := by
  simp [link]

@[simp] theorem mem_unlink {p : String × ConnId} :
    p ∈ R.unlink conn client ↔ p ≠ (client, conn) ∧ p ∈ R := by
  simp [unlink]

end Pairing

namespace Registry

/-- Each map of the registry is the other one read backwards. -/
def Mirrored (r : Registry) : Prop :=
  ∀ (client : String) (conn : ConnId), r.sockets[client]? = some conn ↔ r.clients[conn]? = some client

/-- The registry holds exactly the pairs of `R`, from both sides. -/
structure Holds (r : Registry) (R : Pairing) : Prop where
  sockets_iff : ∀ (client : String) (conn : ConnId), r.sockets[client]? = some conn ↔ (client, conn) ∈ R
  clients_iff : ∀ (client : String) (conn : ConnId), r.clients[conn]? = some client ↔ (client, conn) ∈ R

variable {r : Registry} {R : Pairing} {conn : ConnId} {client : String}

theorem Holds.mirrored (h : r.Holds R) : r.Mirrored := by
  intro client conn
  rw [h.sockets_iff, h.clients_iff]

/-- A held pairing is a partial bijection, since each side is a map. -/
theorem Holds.bijective (h : r.Holds R) : R.Bijective := by
  constructor
  · intro client conn conn' hconn hconn'
    rw [← h.sockets_iff] at hconn hconn'
    exact Option.some.inj (hconn.symm.trans hconn')
  · intro client client' conn hclient hclient'
    rw [← h.clients_iff] at hclient hclient'
    exact Option.some.inj (hclient.symm.trans hclient')

theorem holds_empty : empty.Holds ∅ where
  sockets_iff _ _ := by simp [empty]
  clients_iff _ _ := by simp [empty]

/-- A client without a pair has no connection. -/
theorem Holds.sockets_eq_none (h : r.Holds R) (hnone : ∀ conn, (client, conn) ∉ R) :
    r.sockets[client]? = none :=
  Option.eq_none_iff_forall_ne_some.2 fun conn hc => hnone conn ((h.sockets_iff _ _).1 hc)

/-- A connection without a pair has no client. -/
theorem Holds.clients_eq_none (h : r.Holds R) (hnone : ∀ client, (client, conn) ∉ R) :
    r.clients[conn]? = none :=
  Option.eq_none_iff_forall_ne_some.2 fun client hc => hnone client ((h.clients_iff _ _).1 hc)

/-- On a mirrored registry, a client registered with `conn` is the client of
`conn`. -/
theorem Mirrored.client_eq (h : r.Mirrored) {x prev : String} (hx : r.sockets[x]? = some conn)
    (hprev : r.clients[conn]? = some prev) : x = prev :=
  Option.some.inj (((h x conn).1 hx).symm.trans hprev)

/-! ## Registering and unregistering, key by key -/

/-- After a registration the client has the new connection, and any other
client that had it has lost it. -/
theorem register_sockets (h : r.Mirrored) (x : String) :
    (r.register conn client).1.sockets[x]? =
      if x = client then some conn else if r.sockets[x]? = some conn then none else r.sockets[x]? := by
  simp only [register, TreeMap.get?_eq_getElem?]
  cases hprev : r.clients[conn]? with
  | none =>
    -- the connection is new, so no client is registered with it
    have hfree : r.sockets[x]? ≠ some conn := fun hx => by simp [(h x conn).1 hx] at hprev
    simp only [TreeMap.getElem?_insert, Std.compare_eq_iff_eq]
    by_cases hx : x = client
    · simp [hx]
    · simp [hx, Ne.symm hx, hfree]
  | some prev =>
    have hback : r.sockets[prev]? = some conn := (h prev conn).2 hprev
    have hfree : x ≠ prev → r.sockets[x]? ≠ some conn := fun hne hx => hne (h.client_eq hx hprev)
    by_cases hsame : prev = client
    · -- an exact re-registration: the forward map gains the pair it has
      subst hsame
      simp only [TreeMap.getElem?_insert, Std.compare_eq_iff_eq, ne_eq, not_true_eq_false,
        false_and, if_false]
      by_cases hx : x = prev
      · simp [hx]
      · simp [hx, Ne.symm hx, hfree hx]
    · -- the connection moves from `prev` to `client`, and `prev` loses it
      simp only [TreeMap.getElem?_insert, TreeMap.getElem?_erase, Std.compare_eq_iff_eq, ne_eq,
        hsame, hback, not_false_eq_true, and_self, if_true]
      by_cases hx : x = client
      · simp [hx]
      · by_cases hxp : x = prev
        · subst hxp; simp [hx, Ne.symm hx, hback]
        · simp [hx, Ne.symm hx, Ne.symm hxp, hfree hxp]

/-- After a registration the connection has the client, and the client's
earlier connection has lost it. -/
theorem register_clients (h : r.Mirrored) (y : ConnId) :
    (r.register conn client).1.clients[y]? =
      if y = conn then some client else if r.clients[y]? = some client then none else r.clients[y]? := by
  -- the mirror, read at the two connections a registration can touch
  have hy := h client y
  have hconn := h client conn
  simp only [register, TreeMap.get?_eq_getElem?]
  -- split on the connection's earlier client, then on the connection evicted
  split <;> split <;> grind

/-- A registration evicts the client's earlier connection, unless it is the
same one. -/
theorem register_evicted (h : r.Mirrored) :
    (r.register conn client).2 = r.sockets[client]?.filter (· ≠ conn) := by
  simp only [register, TreeMap.get?_eq_getElem?]
  cases hprev : r.clients[conn]? with
  | none => rfl
  | some prev =>
    by_cases hsame : prev = client
    · subst hsame; simp
    · have hback : r.sockets[prev]? = some conn := (h prev conn).2 hprev
      simp [hsame, hback, TreeMap.getElem?_erase]

/-- Unregistering drops the client's entry only when it is this connection. -/
theorem unregister_sockets (x : String) :
    (r.unregister conn client).1.sockets[x]? =
      if x = client ∧ r.sockets[client]? = some conn then none else r.sockets[x]? := by
  simp only [unregister, TreeMap.get?_eq_getElem?, beq_iff_eq]
  split <;> grind

/-- Unregistering drops the connection's entry only when it is this client. -/
theorem unregister_clients (y : ConnId) :
    (r.unregister conn client).1.clients[y]? =
      if y = conn ∧ r.clients[conn]? = some client then none else r.clients[y]? := by
  simp only [unregister, TreeMap.get?_eq_getElem?, beq_iff_eq]
  split <;> grind

/-! ## One refinement step per operation -/

/-- Registering links the pair in the held pairing. -/
theorem Holds.register (h : r.Holds R) : (r.register conn client).1.Holds (R.link conn client) where
  sockets_iff x k := by
    rw [register_sockets h.mirrored, Pairing.mem_link, ← h.sockets_iff]
    by_cases hx : x = client
    · simp [hx, eq_comm]
    · grind
  clients_iff x k := by
    rw [register_clients h.mirrored, Pairing.mem_link, ← h.clients_iff]
    by_cases hk : k = conn
    · simp [hk, eq_comm]
    · grind

/-- A registration evicts the connection paired with the client, when it is
another one. -/
theorem Holds.evicted_eq_some (h : r.Holds R) {old : ConnId} :
    (r.register conn client).2 = some old ↔ (client, old) ∈ R ∧ old ≠ conn := by
  rw [register_evicted h.mirrored, Option.filter_eq_some_iff, h.sockets_iff]
  simp

/-- Unregistering unlinks exactly the pair. -/
theorem Holds.unregister (h : r.Holds R) :
    (r.unregister conn client).1.Holds (R.unlink conn client) where
  sockets_iff x k := by
    rw [unregister_sockets, Pairing.mem_unlink, ← h.sockets_iff]
    grind
  clients_iff x k := by
    rw [unregister_clients, Pairing.mem_unlink, ← h.clients_iff]
    grind

/-! ## Lookups -/

theorem socketFor_eq_ok : r.socketFor client = .ok conn ↔ r.sockets[client]? = some conn := by
  simp only [socketFor, TreeMap.get?_eq_getElem?]
  split <;> simp_all

theorem clientFor_eq_ok : r.clientFor conn = .ok client ↔ r.clients[conn]? = some client := by
  simp only [clientFor, TreeMap.get?_eq_getElem?]
  split <;> simp_all

/-- A client without a connection is not found. -/
theorem socketFor_eq_error (hnone : r.sockets[client]? = none) :
    r.socketFor client = .error (.socketNotFound client) := by
  simp [socketFor, hnone]

/-- A connection without a client is not found. -/
theorem clientFor_eq_error (hnone : r.clients[conn]? = none) :
    r.clientFor conn = .error (.clientIdNotFound conn) := by
  simp [clientFor, hnone]

end Registry

namespace Broker

variable {b : Broker} {R : Pairing}

/-- A request opens and closes no connection, so the registry is kept. -/
@[simp] theorem registry_serve (b : Broker) (q : Request) : (b.serve q).registry = b.registry := by
  cases q <;> rfl

/-- Each call keeps the registry holding the pairing after the same call. -/
theorem registry_holds_perform (h : b.registry.Holds R) (op : Op) :
    (b.perform op).registry.Holds (R.perform op) := by
  cases op with
  | openConnection conn client => exact h.register
  | closeConnection conn client => exact h.unregister
  | request q => simpa [perform, Pairing.perform] using h

/-- A run of calls keeps the registry holding the pairing after the same
calls. -/
theorem registry_holds_run (h : b.registry.Holds R) (ops : List Op) :
    (b.run ops).registry.Holds (R.run ops) :=
  run_simulates (fun b R => b.registry.Holds R) Pairing.perform
    (fun _ _ op h => registry_holds_perform h op) ops b R h

/-- From the empty broker, every sequence of calls leaves a registry whose two
maps read each other backwards and hold the pairing that only the openings
and closings of the sequence build, one partner at most on either side.
From there, opening a connection links its pair and evicts the client's
other connection, closing one unlinks exactly its pair, and each lookup
answers from the pairing: a client finds a connection exactly when that
connection finds the client, and a key without a pair is not found. -/
theorem registry_refines_pairing (ops : List Op) :
    let r := (empty.run ops).registry
    let R := Pairing.run ∅ ops
    r.Mirrored ∧ r.Holds R ∧ R.Bijective ∧
      (∀ conn client, (r.register conn client).1.Holds (R.link conn client)) ∧
      (∀ conn client old,
        (r.register conn client).2 = some old ↔ (client, old) ∈ R ∧ old ≠ conn) ∧
      (∀ conn client, (r.unregister conn client).1.Holds (R.unlink conn client)) ∧
      (∀ client conn, r.socketFor client = .ok conn ↔ r.clientFor conn = .ok client) ∧
      (∀ client, (∀ conn, (client, conn) ∉ R) →
        ∃ f, r.socketFor client = .error f ∧ f.isNotFound) ∧
      (∀ conn, (∀ client, (client, conn) ∉ R) →
        ∃ f, r.clientFor conn = .error f ∧ f.isNotFound) := by
  intro r R
  have h : r.Holds R := registry_holds_run Registry.holds_empty ops
  refine ⟨h.mirrored, h, h.bijective, fun _ _ => h.register, fun _ _ _ => h.evicted_eq_some,
    fun _ _ => h.unregister, ?_, ?_, ?_⟩
  · intro client conn
    rw [Registry.socketFor_eq_ok, Registry.clientFor_eq_ok]
    exact h.mirrored client conn
  · intro client hnone
    exact ⟨_, Registry.socketFor_eq_error (h.sockets_eq_none hnone), rfl⟩
  · intro conn hnone
    exact ⟨_, Registry.clientFor_eq_error (h.clients_eq_none hnone), rfl⟩

end Broker

end Hub

end TopicHub
