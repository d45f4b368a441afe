/-
  Proofs/Interleaving.lean --- a broadcast whose member turns interleave with
  other calls.

  Between its member turns a broadcast holds no lock, so the registry a turn
  reads may differ from the one the broadcast started on: a member may have
  been reconnected, and a connection may have been reopened for another
  client.  What keeps two frames from one broadcast off one connection is
  then not a fact of one registry but of the history of calls: a client is
  registered with a connection only if some call opened that connection for
  that client (`Broker.opened_of_sockets`), and the members visited are
  distinct.  When no connection is ever opened for two clients, a broadcast
  under way stays `Fanning.Sound` through every turn (`Fanning.Sound.advance`,
  `Fanning.Sound.interleave`).

  Each frame handed over comes from one member turn (`mem_sent_interleave`),
  whose member was pending from the start.  With no call between its turns,
  the broadcast hands over exactly what `Broker.broadcast` does
  (`broadcast_eq_interleave`).
-/
import Mathlib.Data.List.Perm.Basic
import TopicHub.Hub.Fanning
import TopicHub.Proofs.Broadcast

set_option autoImplicit false

namespace TopicHub.Hub

open Std
open TopicHub.Json

/-! ## Who a connection was opened for -/

namespace Pairing

variable {R : Pairing} {p : String × ConnId}

/-- A pair is only ever added by opening its connection for its client. -/
theorem mem_perform {op : Op} (h : p ∈ R.perform op) : p ∈ R ∨ op = .openConnection p.2 p.1 := by
  cases op with
  | openConnection conn client =>
    rcases mem_link.1 h with rfl | ⟨hp, -⟩
    · exact .inr rfl
    · exact .inl hp
  | closeConnection conn client => exact .inl (mem_unlink.1 h).2
  | request q => exact .inl h

/-- Every pair a run adds was opened by one of its calls. -/
theorem mem_run {ops : List Op} (h : p ∈ R.run ops) : p ∈ R ∨ .openConnection p.2 p.1 ∈ ops := by
  induction ops generalizing R with
  | nil => exact .inl h
  | cons op rest ih =>
    have h' : p ∈ (R.perform op).run rest := h
    rcases ih h' with hp | hp
    · rcases mem_perform hp with hp | rfl
      · exact .inl hp
      · exact .inr List.mem_cons_self
    · exact .inr (List.mem_cons_of_mem _ hp)

end Pairing

/-- No connection is ever opened for two clients. -/
def OneClientPerConnection (ops : List Op) : Prop :=
  ∀ (conn : ConnId) (client client' : String),
    .openConnection conn client ∈ ops → .openConnection conn client' ∈ ops → client = client'

namespace Broker

variable {b : Broker} {links : ConnId → Link} {text : String}

/-- From the empty broker, a client is registered with a connection only if
some call opened that connection for that client. -/
theorem opened_of_sockets {ops : List Op} {client : String} {conn : ConnId}
    (h : (empty.run ops).registry.sockets[client]? = some conn) : .openConnection conn client ∈ ops := by
  have hR := ((registry_holds_run Registry.holds_empty ops).sockets_iff client conn).1 h
  rcases Pairing.mem_run hR with hempty | hop
  · simp at hempty
  · exact hop

theorem run_append (ops ops' : List Op) : b.run (ops ++ ops') = (b.run ops).run ops' :=
  List.foldl_append

/-- A member's turn hands its frame to its registered connection, when that
connection is available. -/
theorem sendTo_eq_some {member : String} {s : Send} :
    b.sendTo links text member = some s ↔
      ∃ c, b.registry.sockets[member]? = some c ∧ (links c).available ∧ ⟨c, text, (links c).accepts⟩ = s := by
  simp only [sendTo, TreeMap.get?_eq_getElem?]
  cases b.registry.sockets[member]? with
  | none => simp
  | some c => by_cases havail : (links c).available <;> simp [havail]

/-- A fan-out is every member's turn, in order. -/
theorem fanOut_eq_filterMap (members : List String) :
    b.fanOut links text members = members.filterMap (b.sendTo links text) := rfl

theorem fanOut_cons (m : String) (rest : List String) :
    b.fanOut links text (m :: rest) = (b.sendTo links text m).toList ++ b.fanOut links text rest := by
  rw [fanOut_eq_filterMap, List.filterMap_cons]
  cases b.sendTo links text m <;> rfl

/-- A broadcast that starts visits the members of the topic, in the order of
their names, with nothing handed over yet. -/
theorem startBroadcast_eq_ok {α : Type} {topic : String} {toValue : α → Except Mismatch Json}
    {payload : α} {f : Fanning} (h : b.startBroadcast topic toValue payload = .ok f) :
    f.pending = (b.topics.membersOf topic).toList ∧ f.sent = [] ∧ f.count = 0 := by
  simp only [startBroadcast] at h
  split at h
  · next hempty =>
    cases h
    have hnil : (b.topics.membersOf topic).toList = [] :=
      List.isEmpty_iff.1 (by rw [TreeSet.isEmpty_toList]; exact hempty)
    exact ⟨hnil.symm, rfl, rfl⟩
  · split at h
    · cases h
    · cases h
      exact ⟨rfl, rfl, rfl⟩

/-- The members of a topic are read without repeats. -/
theorem nodup_membersOf (topic : String) : (b.topics.membersOf topic).toList.Nodup :=
  (b.topics.membersOf topic).distinct_toList.imp Std.ReflCmp.ne_of_cmp_ne_eq

end Broker

theorem delivered_append (sends sends' : List Send) :
    delivered (sends ++ sends') = delivered sends + delivered sends' := by
  simp [delivered, List.filter_append]

/-! ## One member turn -/

namespace Fanning

variable {f : Fanning} {b : Broker} {links : ConnId → Link}

/-- The frame the next member turn hands over, against the broker `b`. -/
def nextFrame (f : Fanning) (b : Broker) (links : ConnId → Link) : Option Send :=
  f.pending.head?.bind (b.sendTo links f.text)

/-- A member turn takes the first pending member off the list and hands over
that member's frame, if it has one, counting it when taken. -/
theorem advance_eq (f : Fanning) (b : Broker) (links : ConnId → Link) :
    f.advance b links =
      { f with
        pending := f.pending.tail
        sent := f.sent ++ (f.nextFrame b links).toList
        count := f.count + delivered (f.nextFrame b links).toList } := by
  unfold advance nextFrame
  cases hp : f.pending with
  | nil =>
    simp only [List.head?_nil, Option.bind_none, Option.toList_none, List.append_nil, List.tail_nil]
    rw [← hp]
    rfl
  | cons m rest =>
    simp only [List.head?_cons, Option.bind_some, List.tail_cons]
    cases b.sendTo links f.text m with
    | none => simp [delivered]
    | some s => cases hs : s.accepted <;> simp [delivered, hs]

/-- A broadcast with no member left is over. -/
theorem advance_of_nil (h : f.pending = []) : f.advance b links = f := by
  unfold advance
  rw [h]

@[simp] theorem advance_pending : (f.advance b links).pending = f.pending.tail := by
  rw [advance_eq]

@[simp] theorem advance_sent : (f.advance b links).sent = f.sent ++ (f.nextFrame b links).toList := by
  rw [advance_eq]

/-- The next frame goes to the connection registered for the first pending
member. -/
theorem nextFrame_eq_some {s : Send} (h : f.nextFrame b links = some s) :
    ∃ m, f.pending.head? = some m ∧ b.registry.sockets[m]? = some s.conn ∧ (links s.conn).available := by
  obtain ⟨m, hm, hsend⟩ := Option.bind_eq_some_iff.1 h
  obtain ⟨c, hc, havail, rfl⟩ := Broker.sendTo_eq_some.1 hsend
  exact ⟨m, hm, hc, havail⟩

/-! ## What a broadcast under way keeps -/

/-- What a broadcast under way keeps, for a history `H` of calls: its pending
members are distinct; each frame handed over went to a connection that `H`
opened for a member no longer pending, and no two to one connection; and the
count is the number of frames taken. -/
structure Sound (H : List Op) (f : Fanning) : Prop where
  pending_nodup : f.pending.Nodup
  opened : ∀ s ∈ f.sent, ∃ m, m ∉ f.pending ∧ .openConnection s.conn m ∈ H
  once : (f.sent.map Send.conn).Nodup
  count_eq : f.count = delivered f.sent

variable {H : List Op}

/-- A broadcast that has handed nothing over keeps everything once its
members are distinct. -/
theorem sound_start (hnd : f.pending.Nodup) (hsent : f.sent = []) (hcount : f.count = 0) :
    f.Sound H where
  pending_nodup := hnd
  opened s hs := by simp [hsent] at hs
  once := by simp [hsent]
  count_eq := by simp [hsent, hcount, delivered]

/-- A connection opened for a member still pending has been handed no frame:
every frame so far went to a connection opened for a member already visited,
and a connection is opened for one client only. -/
theorem Sound.conn_not_sent (hone : OneClientPerConnection H) (hf : f.Sound H) {m : String} {c : ConnId}
    (hm : m ∈ f.pending) (hop : .openConnection c m ∈ H) : c ∉ f.sent.map Send.conn := by
  intro hc
  obtain ⟨s, hs, rfl⟩ := List.mem_map.1 hc
  obtain ⟨m', hm', hop'⟩ := hf.opened s hs
  exact hm' (hone _ _ _ hop hop' ▸ hm)

/-- A member turn keeps a broadcast sound when the broker it reads registers
a client only with a connection that `H` opened for it. -/
theorem Sound.advance (hone : OneClientPerConnection H) (hf : f.Sound H)
    (hb : ∀ m c, b.registry.sockets[m]? = some c → .openConnection c m ∈ H) :
    (f.advance b links).Sound H := by
  cases hp : f.pending with
  | nil => rwa [advance_of_nil hp]
  | cons m rest =>
    rw [advance_eq, hp, List.tail_cons]
    obtain ⟨hm, hrest⟩ := List.nodup_cons.1 (hp ▸ hf.pending_nodup)
    -- the new frame, if any, went to a connection opened for `m`
    have hframe : ∀ s ∈ (f.nextFrame b links).toList, .openConnection s.conn m ∈ H := by
      intro s hs
      obtain ⟨m', hm', hc, -⟩ := nextFrame_eq_some (Option.mem_toList.1 hs)
      rw [hp, List.head?_cons, Option.some.injEq] at hm'
      exact hb m s.conn (hm' ▸ hc)
    refine ⟨hrest, fun s hs => ?_, ?_, ?_⟩
    · rcases List.mem_append.1 hs with hs | hs
      · obtain ⟨m', hm', hop⟩ := hf.opened s hs
        exact ⟨m', fun h => hm' (hp ▸ List.mem_cons_of_mem m h), hop⟩
      · exact ⟨m, hm, hframe s hs⟩
    · rw [List.map_append, List.nodup_append]
      refine ⟨hf.once, by cases f.nextFrame b links <;> simp, ?_⟩
      rintro _ hc _ hc' rfl
      obtain ⟨s, hs, rfl⟩ := List.mem_map.1 hc'
      exact hf.conn_not_sent hone (hp ▸ List.mem_cons_self) (hframe s hs) hc
    · simp only [delivered_append, hf.count_eq]

end Fanning

/-! ## Interleavings -/

namespace Broker

variable {b : Broker} {f : Fanning}

@[simp] theorem interleave_nil : b.interleave f [] = (b, f) := rfl

@[simp] theorem interleave_call (op : Op) (turns : List Turn) :
    b.interleave f (.call op :: turns) = (b.perform op).interleave f turns := rfl

@[simp] theorem interleave_next (links : ConnId → Link) (turns : List Turn) :
    b.interleave f (.next links :: turns) = b.interleave (f.advance b links) turns := rfl

theorem interleave_append (turns turns' : List Turn) :
    b.interleave f (turns ++ turns') =
      (b.interleave f turns).1.interleave (b.interleave f turns).2 turns' :=
  List.foldl_append

@[simp] theorem calls_call (op : Op) (turns : List Turn) :
    Turn.calls (.call op :: turns) = op :: Turn.calls turns := rfl

@[simp] theorem calls_next (links : ConnId → Link) (turns : List Turn) :
    Turn.calls (.next links :: turns) = Turn.calls turns := rfl

/-- Between member turns the broker answers the other calls, in order. -/
theorem interleave_fst (turns : List Turn) : (b.interleave f turns).1 = b.run (Turn.calls turns) := by
  induction turns generalizing b f with
  | nil => rfl
  | cons t rest ih =>
    cases t with
    | call op => exact ih
    | next links => exact ih

/-- The members still pending are a tail of those pending at the start. -/
theorem pending_interleave_suffix (turns : List Turn) :
    (b.interleave f turns).2.pending <:+ f.pending := by
  induction turns generalizing b f with
  | nil => exact List.suffix_refl _
  | cons t rest ih =>
    cases t with
    | call op => simpa using ih
    | next links =>
      have htail : (f.advance b links).pending <:+ f.pending := by
        rw [Fanning.advance_pending]
        exact List.tail_suffix f.pending
      exact ih.trans htail

/-- Every frame an interleaving hands over was there at the start or was
handed over by one member turn, with the broker and the pending members as
they were just before that turn. -/
theorem mem_sent_interleave {turns : List Turn} {s : Send} (hs : s ∈ (b.interleave f turns).2.sent) :
    s ∈ f.sent ∨ ∃ before links after, turns = before ++ .next links :: after ∧
      (b.interleave f before).2.nextFrame (b.interleave f before).1 links = some s := by
  induction turns generalizing b f with
  | nil => exact .inl hs
  | cons t rest ih =>
    cases t with
    | call op =>
      rcases ih hs with hs | ⟨before, links, after, rfl, hframe⟩
      · exact .inl hs
      · exact .inr ⟨.call op :: before, links, after, rfl, hframe⟩
    | next links =>
      rcases ih hs with hs | ⟨before, links', after, rfl, hframe⟩
      · rcases List.mem_append.1 (Fanning.advance_sent ▸ hs) with hs | hs
        · exact .inl hs
        · exact .inr ⟨[], links, rest, rfl, Option.mem_toList.1 hs⟩
      · exact .inr ⟨.next links :: before, links', after, rfl, hframe⟩

/-- With no call between its turns, a broadcast visits every pending member
against one broker and hands over that broker's fan-out of them. -/
theorem interleave_nexts (links : ConnId → Link) (f : Fanning) :
    b.interleave f (f.pending.map fun _ => .next links) =
      (b, { f with
        pending := []
        sent := f.sent ++ b.fanOut links f.text f.pending
        count := f.count + delivered (b.fanOut links f.text f.pending) }) := by
  obtain ⟨text, pending, sent, count⟩ := f
  induction pending generalizing sent count with
  | nil => simp [fanOut_eq_filterMap, delivered]
  | cons m rest ih =>
    have hadvance : Fanning.advance ⟨text, m :: rest, sent, count⟩ b links =
        ⟨text, rest, sent ++ (b.sendTo links text m).toList,
          count + delivered (b.sendTo links text m).toList⟩ := by
      rw [Fanning.advance_eq]
      rfl
    rw [List.map_cons, interleave_next, hadvance, ih, fanOut_cons]
    simp [List.append_assoc, delivered_append, Nat.add_assoc]

/-- With no call between its turns, a broadcast hands over exactly what
`Broker.broadcast` reports. -/
theorem broadcast_eq_interleave {α : Type} (links : ConnId → Link) (topic : String)
    (toValue : α → Except Mismatch Json) (payload : α) :
    b.broadcast links topic toValue payload =
      (b.startBroadcast topic toValue payload).map fun f =>
        (b.interleave f (f.pending.map fun _ => .next links)).2.sent := by
  simp only [interleave_nexts, broadcast, startBroadcast]
  cases (b.topics.membersOf topic).isEmpty with
  | true => rfl
  | false =>
    cases Naming.camelCaseJson toValue payload <;> rfl

end Broker

/-! ## Every interleaving -/

open Broker

/-- From the broker some calls build, a broadcast stays sound through every
interleaving whose calls, with those, belong to a history that opens no
connection for two clients.  The induction is on the turns; a call joins the
history the registry is built from. -/
theorem Fanning.Sound.interleave {H : List Op} (hone : OneClientPerConnection H) {f : Fanning}
    (hf : f.Sound H) (ops : List Op) (turns : List Turn) (hsub : ops ++ Turn.calls turns ⊆ H) :
    ((empty.run ops).interleave f turns).2.Sound H := by
  induction turns generalizing ops f with
  | nil => exact hf
  | cons t rest ih =>
    cases t with
    | call op =>
      have hrun : (empty.run ops).perform op = empty.run (ops ++ [op]) := by rw [run_append]; rfl
      rw [interleave_call, hrun]
      exact ih hf (ops ++ [op]) (by simpa using hsub)
    | next links =>
      have hb : ∀ m c, (empty.run ops).registry.sockets[m]? = some c → .openConnection c m ∈ H :=
        fun _ _ hc => hsub (List.mem_append_left _ (opened_of_sockets hc))
      exact ih (hf.advance hone hb) ops (by simpa using hsub)

/-- What a broadcast started on the broker that `ops` build owes when its
member turns interleave with other calls: no connection is handed two
frames; each frame was handed over at one member turn, to the connection
registered at that moment for the member visited, which was a member of the
topic when the broadcast started, and the connection was available then; and
the count is the number of frames taken. -/
structure FannedInterleaved (ops : List Op) (topic : String) (start : Fanning) (turns : List Turn) :
    Prop where
  once : (((empty.run ops).interleave start turns).2.sent.map Send.conn).Nodup
  reach : ∀ s ∈ ((empty.run ops).interleave start turns).2.sent, ∃ before links after member,
    turns = before ++ .next links :: after ∧
      member ∈ (empty.run ops).topics.membersOf topic ∧
      ((empty.run ops).interleave start before).2.pending.head? = some member ∧
      (empty.run (ops ++ Turn.calls before)).registry.sockets[member]? = some s.conn ∧
      (links s.conn).available ∧
      ((empty.run ops).interleave start (before ++ [.next links])).2.sent =
        ((empty.run ops).interleave start before).2.sent ++ [s]
  count : ((empty.run ops).interleave start turns).2.count =
    delivered ((empty.run ops).interleave start turns).2.sent

/-- A broadcast started on any broker the calls `ops` build, visiting the
members of its topic in any order, with any calls interleaved between its
member turns, hands each connection at most one frame, each to the
connection registered at the moment of its lookup for a member of the topic
as read at the start, and counts exactly the frames taken: after every turn,
provided no connection is opened for two clients over the whole history of
calls. -/
theorem interleaved_broadcast_reaches_each_connection_once {α : Type} (ops : List Op) (topic : String)
    (toValue : α → Except Mismatch Json) (payload : α) (f : Fanning)
    (hstart : (empty.run ops).startBroadcast topic toValue payload = .ok f)
    (order : List String) (horder : order.Perm f.pending) (turns : List Turn)
    (hone : OneClientPerConnection (ops ++ Turn.calls turns)) :
    FannedInterleaved ops topic { f with pending := order } turns := by
  obtain ⟨hpending, hsent, hcount⟩ := startBroadcast_eq_ok hstart
  -- the broadcast starts sound: its members are distinct and nothing is handed over
  have hfresh : Fanning.Sound (ops ++ Turn.calls turns) { f with pending := order } :=
    Fanning.sound_start (horder.nodup_iff.2 (hpending ▸ nodup_membersOf topic)) hsent hcount
  have hsound := hfresh.interleave hone ops turns (List.Subset.refl _)
  refine ⟨hsound.once, fun s hs => ?_, hsound.count_eq⟩
  rcases mem_sent_interleave hs with hs | ⟨before, links, after, rfl, hframe⟩
  · simp [hsent] at hs
  · obtain ⟨m, hhead, hreg, havail⟩ := Fanning.nextFrame_eq_some hframe
    -- the member visited was pending from the start, so it is in the snapshot
    have hmem : m ∈ order := (pending_interleave_suffix before).subset (List.mem_of_mem_head? hhead)
    have hsnap : m ∈ (empty.run ops).topics.membersOf topic := by
      rw [← TreeSet.mem_toList, ← hpending]
      exact horder.subset hmem
    refine ⟨before, links, after, m, rfl, hsnap, hhead, ?_, havail, ?_⟩
    · rw [run_append, ← interleave_fst]
      exact hreg
    · rw [interleave_append]
      simp [hframe]

/-- A member that reconnects between two member turns is handed the frame on
its new connection, and no connection is handed two frames. -/
theorem reconnected_member_served_on_new_connection :
    let ops : List Op := [.openConnection ⟨"s1"⟩ "ada", .request (.addToTopic "news" "ada"),
      .openConnection ⟨"s2"⟩ "bob", .request (.addToTopic "news" "bob")]
    let links : ConnId → Link := fun _ => ⟨true, true⟩
    let turns : List Turn := [.next links, .call (.closeConnection ⟨"s1"⟩ "ada"),
      .call (.openConnection ⟨"s3"⟩ "ada"), .next links]
    (empty.run ops).startBroadcast "news" Except.ok Json.null = .ok ⟨"null", ["ada", "bob"], [], 0⟩ ∧
      OneClientPerConnection (ops ++ Turn.calls turns) ∧
      ((empty.run ops).interleave ⟨"null", ["bob", "ada"], [], 0⟩ turns).2.sent =
        [⟨⟨"s2"⟩, "null", true⟩, ⟨⟨"s3"⟩, "null", true⟩] ∧
      FannedInterleaved ops "news" ⟨"null", ["bob", "ada"], [], 0⟩ turns := by
  intro ops links turns
  have hone : OneClientPerConnection (ops ++ Turn.calls turns) := by
    intro conn client client' h h'
    simp [ops, turns, Turn.calls, Turn.op?] at h h'
    rcases h with ⟨rfl, rfl⟩ | ⟨rfl, rfl⟩ | ⟨rfl, rfl⟩ <;> simp_all
  exact ⟨rfl, hone, rfl, interleaved_broadcast_reaches_each_connection_once ops "news" Except.ok Json.null _ rfl _
    (List.Perm.swap _ _ _) turns hone⟩

end TopicHub.Hub
