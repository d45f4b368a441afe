/-
  Config/Toml/Moment.lean --- dates and times of TOML documents.

  A moment is a local date `1979-05-27`, a local time `07:32:00`, a local
  date and time, or one with an offset from UTC (`Z` or `+hh:mm`).  The date
  and the time are separated by `T` or a space; the seconds of a time may be
  left out, and a fraction of a second (kept to nanoseconds) may follow them.
  Letters are taken in either case.

  Reading checks the parts in order: that each is there, then the number of
  digits of each, then its range (a day within its month, leap years
  counted); a fault says which part is wrong and what was expected, as
  `MomentFault.message` words it.  `Moment.render` writes the normal form: `T`
  and `Z` in capitals, the seconds only when given, and a fraction without
  trailing zeros but with at least one digit.
-/
import TopicHub.Decimal.Plain

set_option autoImplicit false

namespace TopicHub.Config.Toml

open TopicHub.Decimal

/-- A date. -/
structure Date where
  year : Nat
  month : Nat
  day : Nat
  deriving DecidableEq, Repr

/-- A time of day; the seconds and the fraction are there when given. -/
structure TimeOfDay where
  hour : Nat
  minute : Nat
  second : Option Nat
  nanos : Option Nat
  deriving DecidableEq, Repr

/-- An offset from UTC. -/
inductive Offset where
  | utc
  /-- minutes east of UTC -/
  | minutes (m : Int)
  deriving DecidableEq, Repr

/-- A moment: a date, a time, or both, with an offset only after both. -/
structure Moment where
  date : Option Date
  time : Option TimeOfDay
  offset : Option Offset
  deriving DecidableEq, Repr

/-- Why a text is no moment: which part is wrong, and what was expected. -/
structure MomentFault where
  what : Option String
  expected : Option String

/-- The text of a fault. -/
def MomentFault.message (f : MomentFault) : String :=
  match f.what, f.expected with
  | some w, some e => "invalid " ++ w ++ ", expected " ++ e
  | some w, none => "invalid " ++ w
  | none, some e => "invalid datetime, expected " ++ e
  | none, none => "invalid datetime"

/-- The pieces a moment's text is cut into. -/
inductive MomentPiece where
  | digits (ds : List Char)
  | dash
  | colon
  | dot
  | timeMark
  | utcMark
  | space
  | plus
  | other
  deriving DecidableEq

/-- Cuts a moment's text into pieces; what no piece starts with ends the
cutting as one last piece. -/
def momentPieces : Nat → List Char → List MomentPiece
  | 0, _ => []
  | _, [] => []
  | fuel + 1, c :: rest =>
    if c.isDigit then
      let ds := (c :: rest).takeWhile Char.isDigit
      .digits ds :: momentPieces fuel ((c :: rest).drop ds.length)
    else
      let piece := match c with
        | '-' => some MomentPiece.dash
        | ':' => some .colon
        | '.' => some .dot
        | 'T' | 't' => some .timeMark
        | 'Z' | 'z' => some .utcMark
        | ' ' => some .space
        | '+' => some .plus
        | _ => none
      match piece with
      | some p => p :: momentPieces fuel rest
      | none => [.other]

/-- A fault naming the part `what` and what was expected of it. -/
def momentFault {α : Type} (what expected : String) : Except MomentFault α :=
  .error ⟨some what, some expected⟩

/-- The next piece, which must be digits. -/
def takeDigits (what expected : String) : List MomentPiece → Except MomentFault (List Char × List MomentPiece)
  | .digits ds :: rest => .ok (ds, rest)
  | _ => momentFault what expected

/-- The next piece, which must be `p`. -/
def takePiece (p : MomentPiece) (what expected : String) : List MomentPiece → Except MomentFault (List MomentPiece)
  | q :: rest => if q = p then .ok rest else momentFault what expected
  | [] => momentFault what expected

/-- The number of days of a month. -/
def daysInMonth (year month : Nat) : Nat :=
  let leap := year % 4 == 0 && (year % 100 != 0 || year % 400 == 0)
  match month with
  | 2 => if leap then 29 else 28
  | 4 | 6 | 9 | 11 => 30
  | _ => 31

/-- Reads a date. -/
def readDate (year : List Char) (ps : List MomentPiece) : Except MomentFault (Date × List MomentPiece) := do
  let (month, ps) ← takeDigits "date" "month" ps
  let ps ← takePiece .dash "date" "`-` (MM-DD)" ps
  let (day, ps) ← takeDigits "date" "day" ps
  if year.length ≠ 4 then momentFault "date" "a four-digit year (YYYY)"
  else if month.length ≠ 2 then momentFault "date" "a two-digit month (MM)"
  else if day.length ≠ 2 then momentFault "date" "a two-digit day (DD)"
  else
    let d : Date := ⟨digitsValue year, digitsValue month, digitsValue day⟩
    if d.month < 1 ∨ d.month > 12 then momentFault "date" "month between 01 and 12"
    else
      let most := daysInMonth d.year d.month
      if d.day < 1 ∨ d.day > most then
        momentFault "date" ("day between 01 and " ++ toString most)
      else .ok (d, ps)

/-- Nanoseconds from the digits of a fraction, of which the first nine count. -/
def fractionNanos (ds : List Char) : Nat :=
  let first := ds.take 9
  digitsValue first * Nat.pow 10 (9 - first.length)

/-- Reads a time of day. -/
def readTime (ps : List MomentPiece) : Except MomentFault (TimeOfDay × List MomentPiece) := do
  let (hour, ps) ← takeDigits "time" "hour" ps
  let ps ← takePiece .colon "time" "`:` (HH:MM)" ps
  let (minute, ps) ← takeDigits "time" "minute" ps
  let (second, ps) ← match ps with
    | .colon :: rest => do
      let (s, rest) ← takeDigits "time" "second" rest
      .ok (some s, rest)
    | _ => .ok (none, ps)
  let (nanos, ps) ← match second, ps with
    | some _, .dot :: rest => do
      let (f, rest) ← takeDigits "time" "nanosecond" rest
      .ok (some (fractionNanos f), rest)
    | _, _ => .ok (none, ps)
  if hour.length ≠ 2 then momentFault "time" "a two-digit hour (HH)"
  else if minute.length ≠ 2 then momentFault "time" "a two-digit minute (MM)"
  else if second.any (·.length ≠ 2) then momentFault "time" "a two-digit second (SS)"
  else
    let t : TimeOfDay := ⟨digitsValue hour, digitsValue minute, second.map digitsValue, nanos⟩
    if t.hour > 23 then momentFault "time" "hour between 00 and 23"
    else if t.minute > 59 then momentFault "time" "minute between 00 and 59"
    else if t.second.getD 0 > 60 then momentFault "time" "second between 00 and 60"
    else .ok (t, ps)

/-- Reads an offset after a sign. -/
def readOffset (negative : Bool) (ps : List MomentPiece) : Except MomentFault (Offset × List MomentPiece) := do
  let (hours, ps) ← takeDigits "offset" "hour" ps
  let ps ← takePiece .colon "offset" "`:` (HH:MM)" ps
  let (minutes, ps) ← takeDigits "offset" "minute" ps
  if hours.length ≠ 2 then momentFault "offset" "a two-digit hour (HH)"
  else if minutes.length ≠ 2 then momentFault "offset" "a two-digit minute (MM)"
  else
    let h := digitsValue hours
    let m := digitsValue minutes
    if h > 23 then momentFault "offset" "hours between 00 and 23"
    else if m > 59 then momentFault "offset" "minutes between 00 and 59"
    else
      let total : Int := h * 60 + m
      .ok (.minutes (if negative then -total else total), ps)

/-- Reads a moment from its text. -/
def Moment.read (text : List Char) : Except MomentFault Moment := do
  let ps := momentPieces (text.length + 1) text
  let (first, rest) ← takeDigits "date" "year or hour" ps
  let (date, ps) ← match rest with
    | .dash :: rest => do
      let (d, rest) ← readDate first rest
      .ok (some d, rest)
    | .colon :: _ => .ok (none, ps)
    | _ => momentFault "date" "`-` (YYYY-MM) or `:` (HH:MM)"
  let (timeFollows, ps) ← match date, ps with
    | some _, p :: rest =>
      if p = .timeMark ∨ p = .space then .ok (true, rest)
      else momentFault "date-time" "`T` between date and time"
    | some _, [] => .ok (false, ps)
    | none, _ => .ok (true, ps)
  let (time, ps) ← if timeFollows then do
      let (t, rest) ← readTime ps
      .ok (some t, rest)
    else .ok (none, ps)
  let (offset, ps) ← match date, time, ps with
    | some _, some _, .utcMark :: rest => .ok (some Offset.utc, rest)
    | some _, some _, .plus :: rest => do
      let (o, rest) ← readOffset false rest
      .ok (some o, rest)
    | some _, some _, .dash :: rest => do
      let (o, rest) ← readOffset true rest
      .ok (some o, rest)
    | some _, some _, _ :: _ => momentFault "offset" "`Z`, +OFFSET, -OFFSET"
    | _, _, _ => .ok (none, ps)
  if ps.isEmpty then .ok ⟨date, time, offset⟩ else .error ⟨none, none⟩

/-- `n` written with at least `w` digits. -/
def padNat (w n : Nat) : String :=
  let ds := Nat.repr n
  String.ofList (List.replicate (w - ds.length) '0') ++ ds

/-- The digits of a fraction of a second: nine, without the zeros at the
end, but at least one. -/
def fractionText (nanos : Nat) : String :=
  let trimmed := ((padNat 9 nanos).toList.reverse.dropWhile (· = '0')).reverse
  if trimmed.isEmpty then "0" else String.ofList trimmed

/-- The normal text of a moment. -/
def Moment.render (m : Moment) : String :=
  let date := match m.date with
    | some d => padNat 4 d.year ++ "-" ++ padNat 2 d.month ++ "-" ++ padNat 2 d.day
    | none => ""
  let time := match m.time with
    | some t =>
      padNat 2 t.hour ++ ":" ++ padNat 2 t.minute ++
        (match t.second with | some s => ":" ++ padNat 2 s | none => "") ++
        (match t.nanos with | some n => "." ++ fractionText n | none => "")
    | none => ""
  let sep := if m.date.isSome ∧ m.time.isSome then "T" else ""
  let offset := match m.offset with
    | none => ""
    | some .utc => "Z"
    | some (.minutes mins) =>
      (if mins < 0 then "-" else "+") ++ padNat 2 (mins.natAbs / 60) ++ ":" ++ padNat 2 (mins.natAbs % 60)
  date ++ sep ++ time ++ offset

end TopicHub.Config.Toml
