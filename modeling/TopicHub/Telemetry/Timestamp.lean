/-
  Telemetry/Timestamp.lean --- instants in UTC and their RFC 3339 text.

  A `Timestamp` is seconds since 1970-01-01T00:00:00Z and the nanoseconds
  after them (up to two seconds' worth during a leap second).

  Reading is relaxed RFC 3339: a date `Y-M-D` (the year may be signed and then
  has any number of digits), `T`, `t` or a space, a time `h:m:s` with an
  optional fraction (digits after the ninth are dropped), optional blanks, and
  an offset: `Z`, `z`, `UTC` in any case, or a sign and `hh:mm` (the colon may
  be spaces or absent).  Blanks may also stand before each number.  The faults
  are those of `TimeFault`: the text ends early, a character is wrong, text is
  left over, or a field or the resulting date is out of range.

  Writing gives `YYYY-MM-DDThh:mm:ss`, a fraction of three, six or nine digits
  when there is one, and `Z`.
-/
import TopicHub.Text.Case

set_option autoImplicit false

namespace TopicHub.Telemetry

/-- An instant: seconds since the epoch in UTC and nanoseconds after them. -/
structure Timestamp where
  seconds : Int
  nanos : Nat
  deriving DecidableEq, Repr

/-- Why a text is no timestamp. -/
inductive TimeFault where
  | outOfRange
  | invalid
  | tooShort
  | tooLong
  deriving DecidableEq, Repr

/-- The text of a fault. -/
def TimeFault.message : TimeFault → String
  | .outOfRange => "input is out of range"
  | .invalid => "input contains invalid characters"
  | .tooShort => "premature end of input"
  | .tooLong => "trailing input"

/-- Days from 1970-01-01 to the given civil date (proleptic Gregorian). -/
def daysFromCivil (y : Int) (m d : Nat) : Int :=
  let y := if m ≤ 2 then y - 1 else y
  let era := (if 0 ≤ y then y else y - 399) / 400
  let yoe := y - era * 400
  let mp : Int := if m > 2 then (m : Int) - 3 else (m : Int) + 9
  let doy := (153 * mp + 2) / 5 + (d : Int) - 1
  let doe := yoe * 365 + yoe / 4 - yoe / 100 + doy
  era * 146097 + doe - 719468

/-- The civil date of a day counted from 1970-01-01. -/
def civilFromDays (z : Int) : Int × Nat × Nat :=
  let z := z + 719468
  let era := (if 0 ≤ z then z else z - 146096) / 146097
  let doe := z - era * 146097
  let yoe := (doe - doe / 1460 + doe / 36524 - doe / 146096) / 365
  let y := yoe + era * 400
  let doy := doe - (365 * yoe + yoe / 4 - yoe / 100)
  let mp := (5 * doy + 2) / 153
  let d := doy - (153 * mp + 2) / 5 + 1
  let m := if mp < 10 then mp + 3 else mp - 9
  ((if m ≤ 2 then y + 1 else y), m.toNat, d.toNat)

/-- The year is a leap year. -/
def isLeapYear (y : Int) : Bool := (y % 4 == 0 && y % 100 != 0) || y % 400 == 0

/-- The number of days of a month. -/
def daysInMonth (y : Int) (m : Nat) : Nat :=
  match m with
  | 2 => if isLeapYear y then 29 else 28
  | 4 | 6 | 9 | 11 => 30
  | _ => 31

/-- The years a date may have. -/
def minYear : Int := -262143

/-- The years a date may have. -/
def maxYear : Int := 262142

/-- A text being read, and what is left of it. -/
abbrev Scan := List Char

/-- The text with leading white space (in the Unicode sense) removed. -/
def trimBlanks (s : Scan) : Scan := s.dropWhile TopicHub.Text.isWhiteSpace

/-- Reads between `min` and `max` decimal digits as a number. -/
def scanNumber (s : Scan) (min max : Nat) : Except TimeFault (Nat × Scan) :=
  if s.length < min then .error .tooShort else
    let ds := (s.take max).takeWhile Char.isDigit
    if ds.length < min then .error .invalid
    else .ok (ds.foldl (fun n c => n * 10 + (c.toNat - '0'.toNat)) 0, s.drop ds.length)

/-- Reads a literal text. -/
def scanLiteral (lit : List Char) (s : Scan) : Except TimeFault Scan :=
  if s.length < lit.length then .error .tooShort
  else if s.take lit.length = lit then .ok (s.drop lit.length)
  else .error .invalid

/-- Reads a signed year: a sign and any digits, or up to four digits. -/
def scanYear (s : Scan) : Except TimeFault (Int × Scan) :=
  let s := trimBlanks s
  match s with
  | '-' :: r => do
    let (v, r') ← scanNumber r 1 r.length
    if v > Nat.pow 2 31 then .error .outOfRange else .ok (-(v : Int), r')
  | '+' :: r => do
    let (v, r') ← scanNumber r 1 r.length
    if v ≥ Nat.pow 2 31 then .error .outOfRange else .ok ((v : Int), r')
  | _ => do let (v, r') ← scanNumber s 1 4; .ok ((v : Int), r')

/-- Reads a two-digit field within `lo` and `hi`. -/
def scanField (s : Scan) (lo hi : Nat) : Except TimeFault (Nat × Scan) := do
  let (v, r) ← scanNumber (trimBlanks s) 1 2
  if lo ≤ v ∧ v ≤ hi then .ok (v, r) else .error .outOfRange

/-- Reads an optional fraction of a second as nanoseconds. -/
def scanFraction (s : Scan) : Except TimeFault (Nat × Scan) :=
  match s with
  | '.' :: r => do
    let (v, r') ← scanNumber r 1 9
    let used := r.length - r'.length
    .ok (v * Nat.pow 10 (9 - used), r'.dropWhile Char.isDigit)
  | _ => .ok (0, s)

/-- Reads an offset from UTC in seconds: `Z`, or a sign, hours and minutes. -/
def scanOffset (s : Scan) : Except TimeFault (Int × Scan) :=
  match s with
  | 'Z' :: r | 'z' :: r => .ok (0, r)
  | c :: r =>
    if c = '+' ∨ c = '-' ∨ c = '−' then
      let negative := c ≠ '+'
      match r with
      | h1 :: h2 :: r1 =>
        if h1.isDigit ∧ h2.isDigit then
          let hours := (h1.toNat - 48) * 10 + (h2.toNat - 48)
          let r2 := r1.dropWhile (fun ch => ch = ':' ∨ TopicHub.Text.isWhiteSpace ch)
          match r2 with
          | m1 :: m2 :: r3 =>
            if '0' ≤ m1 ∧ m1 ≤ '5' ∧ m2.isDigit then
              let secs : Int := hours * 3600 + ((m1.toNat - 48) * 10 + (m2.toNat - 48)) * 60
              .ok (if negative then -secs else secs, r3)
            else if '6' ≤ m1 ∧ m1 ≤ '9' ∧ m2.isDigit then .error .outOfRange
            else .error .invalid
          | _ => .error .tooShort
        else .error .invalid
      | _ => .error .tooShort
    else .error .invalid
  | [] => .error .tooShort

/-- Reads a timestamp in relaxed RFC 3339. -/
def Timestamp.parse (text : String) : Except TimeFault Timestamp := do
  let s := text.toList
  let (year, s) ← scanYear s
  let s ← scanLiteral ['-'] (trimBlanks s)
  let (month, s) ← scanField s 1 12
  let s ← scanLiteral ['-'] s
  let (day, s) ← scanField s 1 31
  let s ← match s with
    | c :: r => if c = 'T' ∨ c = 't' ∨ c = ' ' then .ok r else .error .invalid
    | [] => .error .tooShort
  let (hour, s) ← scanField s 0 23
  let s ← scanLiteral [':'] s
  let (minute, s) ← scanField s 0 59
  let s ← scanLiteral [':'] s
  let (second, s) ← scanField s 0 60
  let (nanos, s) ← scanFraction s
  let s := trimBlanks s
  let (offset, s) ←
    if s.length ≥ 3 ∧ (s.take 3).map Char.toUpper = ['U', 'T', 'C'] then .ok (0, s.drop 3)
    else scanOffset s
  if !(trimBlanks s).isEmpty then .error .tooLong else
  if year < minYear ∨ maxYear < year then .error .outOfRange else
  if day > daysInMonth year month then .error .outOfRange else
  if offset.natAbs ≥ 86400 then .error .outOfRange else
  -- a leap second is the last second of the minute, one second long
  let (second, nanos) := if second = 60 then (59, nanos + 1000000000) else (second, nanos)
  let days := daysFromCivil year month day
  let wall := days * 86400 + (hour * 3600 + minute * 60 + second : Nat)
  .ok ⟨wall - offset, nanos⟩

/-- `n` written with at least `width` digits. -/
def padded (width n : Nat) : String :=
  let ds := Nat.repr n
  String.ofList (List.replicate (width - ds.length) '0') ++ ds

/-- The RFC 3339 text of a timestamp in UTC. -/
def Timestamp.render (t : Timestamp) : String :=
  let days := t.seconds / 86400
  let secs := (t.seconds % 86400).toNat
  let (y, m, d) := civilFromDays days
  let leap := t.nanos ≥ 1000000000
  let nanos := if leap then t.nanos - 1000000000 else t.nanos
  let sec := secs % 60 + (if leap then 1 else 0)
  let year :=
    if 0 ≤ y ∧ y ≤ 9999 then padded 4 y.toNat
    else (if y < 0 then "-" else "+") ++ padded 4 y.natAbs
  let fraction :=
    if nanos = 0 then ""
    else if nanos % 1000000 = 0 then "." ++ padded 3 (nanos / 1000000)
    else if nanos % 1000 = 0 then "." ++ padded 6 (nanos / 1000)
    else "." ++ padded 9 nanos
  year ++ "-" ++ padded 2 m ++ "-" ++ padded 2 d ++ "T" ++ padded 2 (secs / 3600) ++ ":" ++
    padded 2 (secs / 60 % 60) ++ ":" ++ padded 2 sec ++ fraction ++ "Z"

end TopicHub.Telemetry
