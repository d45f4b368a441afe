/-
  Decimal/Plain.lean --- numbers in plain text, as a systems language's standard
  library reads and writes them.

  Reading: an integer is an optional sign and decimal digits, in range; a
  double is an optional sign and `inf`, `infinity` or `nan` in any case, or
  digits with an optional point (a digit on at least one side) and an
  optional exponent `e` or `E` with an optional sign, rounded to the nearest
  double.  Nothing else is allowed, blanks included.

  Writing: a double is written positionally in its shortest digits that read
  back, never with an exponent; `plainText` leaves an integral value bare
  (`1`) and `pointText` adds `.0` to a finite value with no point.
-/
import TopicHub.Decimal.Notation
import TopicHub.Decimal.Nearest

set_option autoImplicit false

namespace TopicHub.Decimal

/-- The value of decimal digits. -/
def digitsValue (ds : List Char) : Nat := ds.foldl (fun n c => n * 10 + (c.toNat - 48)) 0

/-- The text is one or more decimal digits. -/
def allDigits (ds : List Char) : Bool := !ds.isEmpty && ds.all Char.isDigit

/-- An integer: an optional sign and digits, between `lo` and `hi`. -/
def readInteger? (lo hi : Int) (text : String) : Option Int :=
  let (neg, ds) := match text.toList with
    | '-' :: rest => (true, rest)
    | '+' :: rest => (false, rest)
    | cs => (false, cs)
  if !allDigits ds then none
  else
    let v : Int := if neg then -(digitsValue ds : Int) else digitsValue ds
    if lo ≤ v ∧ v ≤ hi then some v else none

/-- A signed 64-bit integer. -/
def readI64? (text : String) : Option Int := readInteger? (-Int.pow 2 63) (Int.pow 2 63 - 1) text

/-- An unsigned 64-bit integer (a `-` sign is refused, even before zero). -/
def readU64? (text : String) : Option Nat :=
  if text.startsWith "-" then none else (readInteger? 0 (Int.pow 2 64 - 1) text).map Int.toNat

/-- Lower-case ASCII letters. -/
def asciiLower (cs : List Char) : List Char :=
  cs.map fun c => if 'A' ≤ c ∧ c ≤ 'Z' then Char.ofNat (c.toNat + 32) else c

/-- The parts of a decimal: digits before and after the point, and the exponent. -/
def decimalParts? (cs : List Char) : Option (List Char × List Char × Int) :=
  let whole := cs.takeWhile Char.isDigit
  let rest := cs.drop whole.length
  let (frac, rest) := match rest with
    | '.' :: r => let f := r.takeWhile Char.isDigit; (f, r.drop f.length)
    | r => ([], r)
  if whole.isEmpty ∧ frac.isEmpty then none
  else
    match rest with
    | [] => some (whole, frac, 0)
    | e :: r =>
      if e = 'e' ∨ e = 'E' then
        let (neg, ds) := match r with
          | '-' :: d => (true, d)
          | '+' :: d => (false, d)
          | d => (false, d)
        if allDigits ds then
          let v : Int := digitsValue ds
          some (whole, frac, if neg then -v else v)
        else none
      else none

/-- The positive infinity. -/
def infinity : Float := Float.ofBits 0x7FF0000000000000

/-- A quiet NaN. -/
def notANumber : Float := Float.ofBits 0x7FF8000000000000

/-- A double in plain text, rounded to the nearest. -/
def readFloat? (text : String) : Option Float :=
  let (neg, cs) := match text.toList with
    | '-' :: rest => (true, rest)
    | '+' :: rest => (false, rest)
    | cs => (false, cs)
  let lower := asciiLower cs
  if lower = "inf".toList ∨ lower = "infinity".toList then some (withSign neg infinity)
  else if lower = "nan".toList then some notANumber
  else
    (decimalParts? cs).map fun (whole, frac, e) =>
      withSign neg (nearest (digitsValue (whole ++ frac)) (e - frac.length))

/-- Positional notation for every double, integral values bare. -/
def plainNotation : Notation := ⟨-400, 400, false, "e", false, .awayFromZero⟩

/-- A double written positionally; `NaN`, `inf` and `-inf` otherwise. -/
def plainText (x : Float) : String :=
  if x.isNaN then "NaN"
  else if x.isInf then (if x < 0 then "-inf" else "inf")
  else (plainNotation.ofFloat x).getD "NaN"

/-- A double written positionally, with `.0` when a finite value has no point. -/
def pointText (x : Float) : String :=
  let t := plainText x
  if x.isNaN || x.isInf || t.contains '.' then t else t ++ ".0"

end TopicHub.Decimal
