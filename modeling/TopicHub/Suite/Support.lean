/-
  Suite/Support.lean --- what the scenarios of the hub are built from.

  Scenarios drive the library with stand-in connections: a `Mock` is
  available or not and takes frames or refuses them, and the frames a
  scenario handed over are read back per connection.  Texts are compared by
  what they contain, as the scenarios state their expectations.
-/
import TopicHub.Hub.Journal
import TopicHub.Json.Read

set_option autoImplicit false

namespace TopicHub.Suite

open TopicHub.Hub

/-- `sub` occurs in `s`. -/
def hasText (s sub : String) : Bool := (s.splitOn sub).length > 1

/-- How often `sub` occurs in `s`. -/
def countText (s sub : String) : Nat := (s.splitOn sub).length - 1

/-- The result is a success equal to `a`. -/
def okIs {ε α : Type} [BEq α] (r : Except ε α) (a : α) : Bool :=
  match r with
  | .ok x => x == a
  | .error _ => false

/-- The result is a failure whose fault passes `p`. -/
def failsWith {ε α : Type} (r : Except ε α) (p : ε → Bool) : Bool :=
  match r with
  | .ok _ => false
  | .error e => p e

/-- The result is a success. -/
def succeeds {ε α : Type} (r : Except ε α) : Bool :=
  match r with
  | .ok _ => true
  | .error _ => false

/-- A stand-in connection. -/
structure Mock where
  id : ConnId
  available : Bool
  failing : Bool

/-- An available connection that takes frames. -/
def Mock.healthy (name : String) : Mock := ⟨⟨name⟩, true, false⟩

/-- A connection that may not be sent frames. -/
def Mock.unavailable (name : String) : Mock := ⟨⟨name⟩, false, false⟩

/-- An available connection that refuses every frame. -/
def Mock.failingOne (name : String) : Mock := ⟨⟨name⟩, true, true⟩

/-- What the hub sees of the stand-ins; an unknown connection is neither
available nor taking frames. -/
def linksOf (ms : List Mock) (c : ConnId) : Link :=
  match ms.find? (·.id == c) with
  | some m => ⟨m.available, !m.failing⟩
  | none => ⟨false, false⟩

/-- The frames a connection took. -/
def sentTo (sends : List Send) (c : ConnId) : List String :=
  sends.filterMap fun s => if s.conn == c && s.accepted then some s.text else none

/-- The lines of logged events. -/
def logText (events : List LogEvent) : String := "\n".intercalate (events.map (·.2))

end TopicHub.Suite
