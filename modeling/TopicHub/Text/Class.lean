/-
  Text/Class.lean --- letters and digits in the Unicode sense.

  `isAlphanumeric` holds for the characters that are Alphabetic or numbers of
  any kind: Latin letters and digits, but also `日`, `٣` and `Ⅻ`.  Its data is
  in `Text/ClassData`.
-/
import TopicHub.Text.Table
import TopicHub.Text.ClassData

set_option autoImplicit false

namespace TopicHub.Text

/-- The code points that are Alphabetic or numbers. -/
def alphanumericRanges : Ranges := Ranges.ofData alphanumericData

/-- The character is Alphabetic or a number. -/
def isAlphanumeric (c : Char) : Bool := alphanumericRanges.mem c.toNat

end TopicHub.Text
