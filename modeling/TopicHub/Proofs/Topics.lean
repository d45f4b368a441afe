/-
  Proofs/Topics.lean --- the topic index holds a set of memberships.

  A `Roster` is a finite set of (topic, member) pairs; joining a topic adds a
  pair and leaving it removes one, and no other call of the broker touches
  it.  Each of the index's two maps `Answers` from the roster: the set under a
  key holds exactly the key's partners, and no empty set is stored, so a key
  is present exactly while it has a partner.  Both maps are changed by
  `insertInto` and `eraseFrom` alone, and each of these keeps a map answering
  (`Answers.insertInto`, `Answers.eraseFrom`).

  From there `add` and `remove` change the roster by one pair and report the
  change and the counts truly, the lookups answer from the roster, and two
  indices that hold the same roster list the same snapshots.  A run's roster
  is decided, pair by pair, by the last call that joins or leaves it
  (`Roster.mem_run`), so the index does not depend on the order of calls on
  different pairs.
-/
import Mathlib.Data.Finset.Card
import Mathlib.Data.Finset.Image
import TopicHub.Hub.Operation

set_option autoImplicit false

namespace TopicHub.Hub

open Std

/-! ## The two multi-maps -/

/-- The set a multi-map keeps under `k`, empty when it keeps none. -/
def setAt (m : TreeMap String NameSet compare) (k : String) : NameSet := (m[k]?).getD ∅

/-- A multi-map stores no empty set. -/
def NoEmptySet (m : TreeMap String NameSet compare) : Prop :=
  ∀ (k : String) (s : NameSet), m[k]? = some s → s.isEmpty = false

variable {m : TreeMap String NameSet compare} {k x k' x' : String}

/-- Adding `x` under `k` adds it to that set and to no other. -/
theorem mem_setAt_insertInto :
    x' ∈ setAt (TopicIndex.insertInto m k x) k' ↔ (k' = k ∧ x' = x) ∨ x' ∈ setAt m k' := by
  simp only [setAt, TopicIndex.insertInto, TreeMap.getElem?_insert, Std.compare_eq_iff_eq]
  by_cases hk : k = k'
  · subst hk
    by_cases hx : x' = x
    · simp [hx]
    · simp [hx, Ne.symm hx]
  · simp [hk, Ne.symm hk]

/-- Removing `x` under `k` removes it from that set and from no other. -/
theorem mem_setAt_eraseFrom :
    x' ∈ setAt (TopicIndex.eraseFrom m k x).1 k' ↔ ¬(k' = k ∧ x' = x) ∧ x' ∈ setAt m k' := by
  simp only [setAt, TopicIndex.eraseFrom, TreeMap.get?_eq_getElem?]
  cases hk : m[k]? with
  | none =>
    by_cases hk' : k' = k
    · subst hk'; simp [hk, TreeSet.not_mem_emptyc]
    · simp [hk']
  | some s =>
    by_cases hk' : k' = k
    · subst hk'
      -- the set left under `k` is `s` without `x`, whether or not the key stays
      have hleft : x' ∈ s.erase x ↔ ¬x' = x ∧ x' ∈ s := by
        simp only [TreeSet.mem_erase, Std.compare_eq_iff_eq, ne_eq]
        constructor <;> rintro ⟨h1, h2⟩ <;> exact ⟨fun h => h1 h.symm, h2⟩
      by_cases hempty : (s.erase x).isEmpty = true
      · have hnone : x' ∉ s.erase x := TreeSet.isEmpty_iff_forall_not_mem.1 hempty x'
        simp only [hempty, ↓reduceIte, TreeMap.getElem?_erase_self, Option.getD_none,
          TreeSet.not_mem_emptyc, true_and, hk, Option.getD_some, false_iff]
        exact fun hx => hnone (hleft.2 hx)
      · simp [hempty, hk, hleft]
    · -- another key keeps its set
      have hne : compare k k' ≠ .eq := by simpa [Std.compare_eq_iff_eq] using Ne.symm hk'
      by_cases hempty : (s.erase x).isEmpty = true <;>
        simp [hempty, TreeMap.getElem?_erase, TreeMap.getElem?_insert, hne, hk']

theorem NoEmptySet.insertInto (h : NoEmptySet m) : NoEmptySet (TopicIndex.insertInto m k x) := by
  intro k' s hs
  simp only [TopicIndex.insertInto, TreeMap.getElem?_insert, Std.compare_eq_iff_eq] at hs
  split at hs
  · -- the key just given `x`
    cases hs
    exact TreeSet.isEmpty_eq_false_iff_exists_mem.2 ⟨x, by simp⟩
  · exact h k' s hs

/-- Removing drops a key together with its last value. -/
theorem NoEmptySet.eraseFrom (h : NoEmptySet m) : NoEmptySet (TopicIndex.eraseFrom m k x).1 := by
  intro k' s' hs
  simp only [TopicIndex.eraseFrom, TreeMap.get?_eq_getElem?] at hs
  split at hs
  · exact h k' s' hs
  · split at hs
    · -- the emptied key is dropped
      simp only [TreeMap.getElem?_erase, Std.compare_eq_iff_eq] at hs
      split at hs
      · cases hs
      · exact h k' s' hs
    next hkept =>
      -- the key keeps what is left, which is not empty
      simp only [TreeMap.getElem?_insert, Std.compare_eq_iff_eq] at hs
      split at hs
      · cases hs; exact Bool.eq_false_iff.2 hkept
      · exact h k' s' hs

/-- The second part of `eraseFrom` says whether the value was there. -/
theorem eraseFrom_snd : (TopicIndex.eraseFrom m k x).2 = true ↔ x ∈ setAt m k := by
  simp only [TopicIndex.eraseFrom, setAt, TreeMap.get?_eq_getElem?]
  split <;> simp_all [TreeSet.not_mem_emptyc, TreeSet.contains_iff_mem]

/-- A multi-map answers from `rel` when its sets hold exactly the values
related to their key and it stores no empty set. -/
structure Answers (m : TreeMap String NameSet compare) (rel : String → String → Prop) : Prop where
  mem_iff : ∀ k x, x ∈ setAt m k ↔ rel k x
  noEmptySet : NoEmptySet m

namespace Answers

variable {rel : String → String → Prop}

/-- A key is stored exactly when something is related to it. -/
theorem key_iff (h : Answers m rel) (k : String) : k ∈ m ↔ ∃ x, rel k x := by
  constructor
  · intro hk
    obtain ⟨s, hs⟩ := Option.isSome_iff_exists.1 (TreeMap.mem_iff_isSome_getElem?.1 hk)
    obtain ⟨x, hx⟩ := TreeSet.isEmpty_eq_false_iff_exists_mem.1 (h.noEmptySet k s hs)
    exact ⟨x, (h.mem_iff k x).1 (by simp [setAt, hs, hx])⟩
  · rintro ⟨x, hx⟩
    have hmem := (h.mem_iff k x).2 hx
    by_contra hk
    simp [setAt, TreeMap.getElem?_eq_none hk, TreeSet.not_mem_emptyc] at hmem

theorem insertInto (h : Answers m rel) :
    Answers (TopicIndex.insertInto m k x) fun k' x' => (k' = k ∧ x' = x) ∨ rel k' x' where
  mem_iff k' x' := by rw [mem_setAt_insertInto, h.mem_iff]
  noEmptySet := h.noEmptySet.insertInto

theorem eraseFrom (h : Answers m rel) :
    Answers (TopicIndex.eraseFrom m k x).1 fun k' x' => ¬(k' = k ∧ x' = x) ∧ rel k' x' where
  mem_iff k' x' := by rw [mem_setAt_eraseFrom, h.mem_iff]
  noEmptySet := h.noEmptySet.eraseFrom

theorem of_iff (h : Answers m rel) {rel' : String → String → Prop}
    (hrel : ∀ k x, rel k x ↔ rel' k x) : Answers m rel' where
  mem_iff k x := (h.mem_iff k x).trans (hrel k x)
  noEmptySet := h.noEmptySet

/-- The number of keys is the number of values with something related. -/
theorem size_eq (h : Answers m rel) {K : Finset String} (hK : ∀ k, k ∈ K ↔ ∃ x, rel k x) :
    m.size = K.card := by
  have hkeys : m.keys.toFinset = K := by
    ext k
    rw [List.mem_toFinset, TreeMap.mem_keys, h.key_iff, hK]
  rw [← hkeys, List.toFinset_card_of_nodup TreeMap.nodup_keys, TreeMap.length_keys]

/-- Two multi-maps that answer from the same relation list the same keys
with the same sets. -/
theorem listing_eq {m₁ m₂ : TreeMap String NameSet compare} (h₁ : Answers m₁ rel)
    (h₂ : Answers m₂ rel) :
    m₁.toList.map (fun (k, s) => (k, s.toList)) = m₂.toList.map (fun (k, s) => (k, s.toList)) := by
  -- sets with the same members list them alike
  have hset : ∀ (k : String) (s₁ s₂ : NameSet), m₁[k]? = some s₁ → m₂[k]? = some s₂ → s₁.toList = s₂.toList := by
    intro k s₁ s₂ hs₁ hs₂
    apply TreeSet.Equiv.toList_eq
    apply TreeSet.Equiv.of_forall_mem_iff
    intro x
    have e₁ := h₁.mem_iff k x
    have e₂ := h₂.mem_iff k x
    simp only [setAt, hs₁, hs₂, Option.getD_some] at e₁ e₂
    rw [e₁, e₂]
  -- a key is stored in one exactly when it is stored in the other
  have hkey : ∀ k : String, k ∈ m₁ ↔ k ∈ m₂ := fun k => (h₁.key_iff k).trans (h₂.key_iff k).symm
  have hget : ∀ k : String, (m₁.map fun _ s => s.toList)[k]? = (m₂.map fun _ s => s.toList)[k]? := by
    intro k
    rw [TreeMap.getElem?_map, TreeMap.getElem?_map]
    cases hs₁ : m₁[k]? with
    | none =>
      have hk₁ : k ∉ m₁ := by rw [TreeMap.mem_iff_isSome_getElem?, hs₁]; simp
      rw [TreeMap.getElem?_eq_none fun hk₂ => hk₁ ((hkey k).2 hk₂)]
    | some s₁ =>
      have hk₁ : k ∈ m₁ := by rw [TreeMap.mem_iff_isSome_getElem?, hs₁]; rfl
      obtain ⟨s₂, hs₂⟩ := Option.isSome_iff_exists.1 (TreeMap.mem_iff_isSome_getElem?.1 ((hkey k).1 hk₁))
      simp [hs₂, hset k s₁ s₂ hs₁ hs₂]
  have hlist := (TreeMap.Equiv.of_forall_constGet?_eq hget).toList_eq
  simpa [TreeMap.toList_map] using hlist

end Answers

/-! ## The roster -/

/-- A finite set of (topic, member) pairs. -/
abbrev Roster := Finset (String × String)

namespace Roster

/-- The roster after a call on the broker: only joining and leaving a topic
change it. -/
def perform (S : Roster) : Op → Roster
  | .request (.addToTopic topic member) => insert (topic, member) S
  | .request (.removeFromTopic topic member) => S.erase (topic, member)
  | _ => S

/-- The roster after each call of `ops`, in order. -/
def run (S : Roster) (ops : List Op) : Roster := ops.foldl perform S

/-- The number of distinct topics and of distinct members. -/
def stats (S : Roster) : MembershipStats := ⟨(S.image Prod.fst).card, (S.image Prod.snd).card⟩

/-- What a call says of `member` in `topic`: that it joins, that it leaves,
or nothing. -/
def verdict (topic member : String) : Op → Option Bool
  | .request (.addToTopic t m) => if t = topic ∧ m = member then some true else none
  | .request (.removeFromTopic t m) => if t = topic ∧ m = member then some false else none
  | _ => none

/-- Whether the last call of `ops` that joins or leaves `member` in `topic`
joins it; false when there is none. -/
def lastJoined (ops : List Op) (topic member : String) : Bool :=
  ops.foldl (fun joined op => (verdict topic member op).getD joined) false

variable {S : Roster} {topic member : String}

theorem pair_ne {t m : String} (hp : ¬(t = topic ∧ m = member)) : (topic, member) ≠ (t, m) :=
  fun he => hp ⟨(Prod.mk.inj he).1.symm, (Prod.mk.inj he).2.symm⟩

/-- A call decides a pair when it speaks of it, and leaves it as it was
otherwise. -/
theorem mem_perform (op : Op) :
    decide ((topic, member) ∈ S.perform op) =
      (verdict topic member op).getD (decide ((topic, member) ∈ S)) := by
  cases op with
  | request q =>
    cases q with
    | addToTopic t m =>
      by_cases hp : t = topic ∧ m = member
      · obtain ⟨rfl, rfl⟩ := hp
        simp [perform, verdict]
      · simp [perform, verdict, hp, pair_ne hp]
    | removeFromTopic t m =>
      by_cases hp : t = topic ∧ m = member
      · obtain ⟨rfl, rfl⟩ := hp
        simp [perform, verdict]
      · simp [perform, verdict, hp, pair_ne hp]
    | _ => rfl
  | _ => rfl

/-- A pair is in a run's roster exactly when the last call speaking of it
joins it, or, when none does, it was there before. -/
theorem mem_run (ops : List Op) :
    (topic, member) ∈ S.run ops ↔
      ops.foldl (fun joined op => (verdict topic member op).getD joined)
        (decide ((topic, member) ∈ S)) = true := by
  induction ops generalizing S with
  | nil => simp [run]
  | cons op rest ih =>
    show (topic, member) ∈ run (S.perform op) rest ↔ _
    rw [ih, mem_perform]
    rfl

/-- From the empty roster, a pair is in exactly when the last call speaking
of it joins it. -/
theorem mem_run_empty (ops : List Op) :
    (topic, member) ∈ run ∅ ops ↔ lastJoined ops topic member = true := by
  simp [mem_run, lastJoined]

end Roster

/-! ## The index -/

namespace TopicIndex

/-- The index holds the roster `S` from both sides. -/
structure Holds (ix : TopicIndex) (S : Roster) : Prop where
  members : Answers ix.members fun topic member => (topic, member) ∈ S
  topics : Answers ix.topics fun member topic => (topic, member) ∈ S

variable {ix : TopicIndex} {S : Roster} {topic member : String}

theorem holds_empty : empty.Holds ∅ where
  members := ⟨fun _ _ => by simp [setAt, empty, TreeSet.not_mem_emptyc], fun _ _ => by simp [empty]⟩
  topics := ⟨fun _ _ => by simp [setAt, empty, TreeSet.not_mem_emptyc], fun _ _ => by simp [empty]⟩

theorem membersOf_eq : ix.membersOf topic = setAt ix.members topic := rfl

theorem topicsOf_eq : ix.topicsOf member = setAt ix.topics member := rfl

/-- Adding a membership adds the pair to the held roster. -/
theorem Holds.add (h : ix.Holds S) : (ix.add topic member).1.Holds (insert (topic, member) S) where
  members := h.members.insertInto.of_iff fun t m => by simp
  topics := h.topics.insertInto.of_iff fun m t => by simp [and_comm]

/-- Removing a membership removes the pair from the held roster. -/
theorem Holds.remove (h : ix.Holds S) : (ix.remove topic member).1.Holds (S.erase (topic, member)) where
  members := h.members.eraseFrom.of_iff fun t m => by simp
  topics := h.topics.eraseFrom.of_iff fun m t => by simp [and_comm]

/-- An addition reports a change exactly when the pair was missing. -/
theorem Holds.add_changed (h : ix.Holds S) :
    (ix.add topic member).2.changed = true ↔ (topic, member) ∉ S := by
  show (!(ix.membersOf topic).contains member) = true ↔ _
  rw [← h.members.mem_iff, membersOf_eq, Bool.not_eq_true', Bool.eq_false_iff, ne_eq,
    TreeSet.contains_iff_mem]

/-- A removal reports a change exactly when the pair was there. -/
theorem Holds.remove_changed (h : ix.Holds S) :
    (ix.remove topic member).2.changed = true ↔ (topic, member) ∈ S := by
  show ((eraseFrom ix.members topic member).2 || (eraseFrom ix.topics member topic).2) = true ↔ _
  rw [Bool.or_eq_true, eraseFrom_snd, eraseFrom_snd, h.members.mem_iff, h.topics.mem_iff, or_self]

/-- The counts are those of the held roster. -/
theorem Holds.stats_eq (h : ix.Holds S) : ix.stats = S.stats := by
  simp only [stats, Roster.stats, MembershipStats.mk.injEq]
  constructor
  · exact h.members.size_eq fun t => by simp
  · exact h.topics.size_eq fun m => by simp

/-- A topic is known exactly when it has a member. -/
theorem Holds.containsTopic_iff (h : ix.Holds S) :
    ix.containsTopic topic = true ↔ ∃ member, (topic, member) ∈ S := by
  rw [containsTopic, TreeMap.contains_iff_mem, h.members.key_iff]

/-- A member is known exactly when it has a topic. -/
theorem Holds.containsMember_iff (h : ix.Holds S) :
    ix.containsMember member = true ↔ ∃ topic, (topic, member) ∈ S := by
  rw [containsMember, TreeMap.contains_iff_mem, h.topics.key_iff]

/-- The counts an addition reports are those of the index after it. -/
theorem add_stats : (ix.add topic member).2.stats = (ix.add topic member).1.stats := rfl

/-- The counts a removal reports are those of the index after it. -/
theorem remove_stats : (ix.remove topic member).2.stats = (ix.remove topic member).1.stats := rfl

/-- Two indices holding the same roster list the same snapshots. -/
theorem Holds.snapshots_eq {ix' : TopicIndex} (h : ix.Holds S) (h' : ix'.Holds S) :
    ix.topicsSnapshot = ix'.topicsSnapshot ∧ ix.membersSnapshot = ix'.membersSnapshot :=
  ⟨h.members.listing_eq h'.members, h.topics.listing_eq h'.topics⟩

end TopicIndex

namespace Broker

variable {b : Broker} {S : Roster}

/-- Each call keeps the topic index holding the roster after the same call. -/
theorem topics_holds_perform (h : b.topics.Holds S) (op : Op) :
    (b.perform op).topics.Holds (S.perform op) := by
  cases op with
  | openConnection conn client => exact h
  | closeConnection conn client => exact h
  | request q =>
    cases q with
    | addToTopic topic member => exact h.add
    | removeFromTopic topic member => exact h.remove
    | broadcast links topic payload => exact h
    | socketFor client => exact h
    | clientFor conn => exact h
    | topicsFor member => exact h
    | membersFor topic => exact h

/-- A run of calls keeps the topic index holding the roster after the same
calls. -/
theorem topics_holds_run (h : b.topics.Holds S) (ops : List Op) :
    (b.run ops).topics.Holds (S.run ops) :=
  run_simulates (fun b S => b.topics.Holds S) Roster.perform
    (fun _ _ op h => topics_holds_perform h op) ops b S h

/-- From the empty broker, every sequence of calls leaves a topic index that
holds the roster built by the sequence's joins and leaves alone, a pair being
in exactly when the last call on it joins it: each map lists every key's
partners and stores no empty set.  An addition or a removal from there
changes the roster by its pair, reports a change exactly when the roster
changes, and reports the counts of distinct topics and members of the roster
after it; the lookups answer from the roster.  Runs whose last calls on every
pair agree leave indices with the same snapshots. -/
theorem topic_index_refines_roster :
    (∀ ops : List Op,
      let ix := (empty.run ops).topics
      let S := Roster.run ∅ ops
      ix.Holds S ∧
        (∀ topic member, (topic, member) ∈ S ↔ Roster.lastJoined ops topic member = true) ∧
        (∀ (topic : String) (s : NameSet), ix.members[topic]? = some s → s.isEmpty = false) ∧
        (∀ (member : String) (s : NameSet), ix.topics[member]? = some s → s.isEmpty = false) ∧
        (∀ topic member,
          (ix.add topic member).1.Holds (insert (topic, member) S) ∧
            ((ix.add topic member).2.changed = true ↔ insert (topic, member) S ≠ S) ∧
            (ix.add topic member).2.stats = Roster.stats (insert (topic, member) S)) ∧
        (∀ topic member,
          (ix.remove topic member).1.Holds (S.erase (topic, member)) ∧
            ((ix.remove topic member).2.changed = true ↔ S.erase (topic, member) ≠ S) ∧
            (ix.remove topic member).2.stats = Roster.stats (S.erase (topic, member))) ∧
        (∀ topic member, member ∈ ix.membersOf topic ↔ (topic, member) ∈ S) ∧
        (∀ topic member, topic ∈ ix.topicsOf member ↔ (topic, member) ∈ S) ∧
        (∀ topic, ix.containsTopic topic = true ↔ ∃ member, (topic, member) ∈ S) ∧
        (∀ member, ix.containsMember member = true ↔ ∃ topic, (topic, member) ∈ S)) ∧
    (∀ ops₁ ops₂ : List Op,
      (∀ topic member, Roster.lastJoined ops₁ topic member = Roster.lastJoined ops₂ topic member) →
      (empty.run ops₁).topics.topicsSnapshot = (empty.run ops₂).topics.topicsSnapshot ∧
        (empty.run ops₁).topics.membersSnapshot = (empty.run ops₂).topics.membersSnapshot) := by
  refine ⟨fun ops => ?_, fun ops₁ ops₂ hlast => ?_⟩
  · intro ix S
    have h : ix.Holds S := topics_holds_run TopicIndex.holds_empty ops
    refine ⟨h, fun _ _ => Roster.mem_run_empty ops, h.members.noEmptySet, h.topics.noEmptySet,
      fun topic member => ⟨h.add, ?_, ?_⟩, fun topic member => ⟨h.remove, ?_, ?_⟩,
      h.members.mem_iff, fun topic member => h.topics.mem_iff member topic,
      fun _ => h.containsTopic_iff, fun _ => h.containsMember_iff⟩
    · rw [h.add_changed, ne_eq, Finset.insert_eq_self]
    · rw [TopicIndex.add_stats, h.add.stats_eq]
    · rw [h.remove_changed, ne_eq, Finset.erase_eq_self, not_not]
    · rw [TopicIndex.remove_stats, h.remove.stats_eq]
  · -- both runs hold the same roster, since it is read off the last calls
    have hsame : Roster.run ∅ ops₁ = Roster.run ∅ ops₂ := by
      ext ⟨topic, member⟩
      rw [Roster.mem_run_empty, Roster.mem_run_empty, hlast]
    have h₁ : (empty.run ops₁).topics.Holds (Roster.run ∅ ops₁) :=
      topics_holds_run TopicIndex.holds_empty ops₁
    have h₂ : (empty.run ops₂).topics.Holds (Roster.run ∅ ops₂) :=
      topics_holds_run TopicIndex.holds_empty ops₂
    rw [hsame] at h₁
    exact h₁.snapshots_eq h₂

end Broker

end TopicHub.Hub
