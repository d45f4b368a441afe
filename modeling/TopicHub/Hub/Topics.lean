/-
  Hub/Topics.lean --- which members belong to which topics.

  A `TopicIndex` holds the relation between topics and members twice: from
  each topic to its members and from each member to its topics.  Both sides
  are changed together, and a topic or member left with an empty set is
  dropped, so a key is present exactly when it has a partner.  `add` and
  `remove` report whether the relation changed and the counts of topics and
  members after the change.
-/
import Std.Data.TreeMap
import Std.Data.TreeSet

set_option autoImplicit false

namespace TopicHub.Hub

open Std

/-- A set of names in increasing order. -/
abbrev NameSet := TreeSet String compare

/-- The topics and members of the hub, kept from both sides. -/
structure TopicIndex where
  /-- each topic's members -/
  members : TreeMap String NameSet compare
  /-- each member's topics -/
  topics : TreeMap String NameSet compare

/-- How many topics and members there are. -/
structure MembershipStats where
  topics : Nat
  members : Nat
  deriving DecidableEq, Repr

/-- Whether a change of membership changed anything, and the counts after it. -/
structure MembershipChange where
  changed : Bool
  stats : MembershipStats
  deriving DecidableEq, Repr

namespace TopicIndex

/-- No topics and no members. -/
def empty : TopicIndex := ⟨∅, ∅⟩

/-- The counts of topics and members. -/
def stats (ix : TopicIndex) : MembershipStats := ⟨ix.members.size, ix.topics.size⟩

/-- The members of a topic; none for an unknown topic. -/
def membersOf (ix : TopicIndex) (topic : String) : NameSet := (ix.members.get? topic).getD ∅

/-- The topics of a member; none for an unknown member. -/
def topicsOf (ix : TopicIndex) (member : String) : NameSet := (ix.topics.get? member).getD ∅

/-- The topic has members. -/
def containsTopic (ix : TopicIndex) (topic : String) : Bool := ix.members.contains topic

/-- The member has topics. -/
def containsMember (ix : TopicIndex) (member : String) : Bool := ix.topics.contains member

/-- Adds `x` to the set under `k`. -/
def insertInto (m : TreeMap String NameSet compare) (k x : String) : TreeMap String NameSet compare :=
  m.insert k (((m.get? k).getD ∅).insert x)

/-- Removes `x` from the set under `k`, dropping `k` when its set is left
empty; also says whether `x` was there. -/
def eraseFrom (m : TreeMap String NameSet compare) (k x : String) :
    TreeMap String NameSet compare × Bool :=
  match m.get? k with
  | none => (m, false)
  | some s =>
    let s' := s.erase x
    ((if s'.isEmpty then m.erase k else m.insert k s'), s.contains x)

/-- Makes `member` a member of `topic`. -/
def add (ix : TopicIndex) (topic member : String) : TopicIndex × MembershipChange :=
  let added := !(ix.membersOf topic).contains member
  let ix' : TopicIndex := ⟨insertInto ix.members topic member, insertInto ix.topics member topic⟩
  (ix', ⟨added, ix'.stats⟩)

/-- Ends the membership of `member` in `topic`. -/
def remove (ix : TopicIndex) (topic member : String) : TopicIndex × MembershipChange :=
  let (members, r1) := eraseFrom ix.members topic member
  let (topics, r2) := eraseFrom ix.topics member topic
  let ix' : TopicIndex := ⟨members, topics⟩
  (ix', ⟨r1 || r2, ix'.stats⟩)

/-- Each topic with its members, topics in order. -/
def topicsSnapshot (ix : TopicIndex) : List (String × List String) :=
  ix.members.toList.map fun (k, s) => (k, s.toList)

/-- Each member with its topics, members in order. -/
def membersSnapshot (ix : TopicIndex) : List (String × List String) :=
  ix.topics.toList.map fun (k, s) => (k, s.toList)

end TopicIndex

end TopicHub.Hub
