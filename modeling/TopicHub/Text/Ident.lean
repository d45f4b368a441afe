/-
  Text/Ident.lean --- the characters of identifiers in the Unicode sense.

  `isXidStart` holds for the characters that may begin an identifier (letters
  of every script, `Ⅻ`, but not digits or `_`), and `isXidContinue` for those
  that may follow (also digits, `_` and combining marks).  Every start
  character continues too.  The data is in `Text/IdentData`.
-/
import TopicHub.Text.Table
import TopicHub.Text.IdentData

set_option autoImplicit false

namespace TopicHub.Text

/-- The code points that may begin an identifier. -/
def xidStartRanges : Ranges := Ranges.ofData xidStartData

/-- The code points that may continue an identifier. -/
def xidContinueRanges : Ranges := Ranges.ofData xidContinueData

/-- The character may begin an identifier. -/
def isXidStart (c : Char) : Bool := xidStartRanges.mem c.toNat

/-- The character may continue an identifier. -/
def isXidContinue (c : Char) : Bool := xidContinueRanges.mem c.toNat

end TopicHub.Text
