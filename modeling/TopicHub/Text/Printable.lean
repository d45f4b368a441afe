/-
  Text/Printable.lean --- which characters debug text shows as themselves.

  Debug text writes a character as an escape `\u{..}` when it is a control,
  format, surrogate, private-use, unassigned, line- or paragraph-separator
  character, a space other than U+0020, or extends the grapheme before it.
  The data is in `Text/PrintableData`.
-/
import TopicHub.Text.Table
import TopicHub.Text.PrintableData

set_option autoImplicit false

namespace TopicHub.Text

/-- The code points that debug text writes as escapes. -/
def unprintableRanges : Ranges := Ranges.ofData unprintableData

/-- The character is shown as itself in debug text. -/
def printable (c : Char) : Bool := !unprintableRanges.mem c.toNat

end TopicHub.Text
