/-
  Decimal/Notation.lean --- how a decimal `digits * 10^exp` is laid out as text.

  A `Notation` holds the decisions a number format makes once: which exponents of
  the leading digit are written positionally, whether an integral value keeps a
  `.0`, and how an exponent is marked and signed.  `Notation.render` applies them
  to the digits that `Decimal/Shortest` selects, and `Notation.ofFloat` joins the
  two for a finite double.
-/
import TopicHub.Decimal.Shortest

set_option autoImplicit false

namespace TopicHub.Decimal

/-- The layout decisions of one number format. -/
structure Notation where
  /-- the smallest exponent of the leading digit written positionally -/
  positionalFrom : Int
  /-- the largest exponent of the leading digit written positionally -/
  positionalTo : Int
  /-- an integral value written positionally ends in `.0` -/
  pointZero : Bool
  /-- the letter before an exponent -/
  expMark : String
  /-- a non-negative exponent carries a `+` -/
  expPlus : Bool
  /-- how a value halfway between two shortest candidates is settled -/
  tie : Tie

/-- `n` zeros. -/
def zeros (n : Nat) : String := String.ofList (List.replicate n '0')

/-- The digits of `d` written as text, with the sign `neg` in front. -/
def Notation.render (fmt : Notation) (neg : Bool) (d : Dec) : String :=
  let sign := if neg then "-" else ""
  let point := if fmt.pointZero then ".0" else ""
  if d.digits = 0 then sign ++ "0" ++ point else
    let ds := (Nat.repr d.digits).toList
    let n := ds.length
    -- exponent of the leading digit
    let lead : Int := d.exp + (n : Int) - 1
    if fmt.positionalFrom ≤ lead ∧ lead ≤ fmt.positionalTo then
      if 0 ≤ d.exp then
        sign ++ String.ofList ds ++ zeros d.exp.toNat ++ point
      else if 0 ≤ lead then
        let whole := lead.toNat + 1
        sign ++ String.ofList (ds.take whole) ++ "." ++ String.ofList (ds.drop whole)
      else
        sign ++ "0." ++ zeros ((-lead).toNat - 1) ++ String.ofList ds
    else
      let mantissa :=
        match ds with
        | [] => "0"
        | [c] => String.singleton c
        | c :: rest => String.singleton c ++ "." ++ String.ofList rest
      let expSign := if lead < 0 then "-" else if fmt.expPlus then "+" else ""
      sign ++ mantissa ++ fmt.expMark ++ expSign ++ Nat.repr lead.natAbs

/-- The sign bit of a double. -/
def signBit (x : Float) : Bool := x.toBits >>> 63 == 1

/-- A finite double in the shortest digits that read back, laid out by `fmt`.
NaN and the infinities have no digits and give `none`. -/
def Notation.ofFloat (fmt : Notation) (x : Float) : Option String :=
  if x.isNaN || x.isInf then none
  else some (fmt.render (signBit x) ((Binary.ofBits x.toBits).shortest fmt.tie))

end TopicHub.Decimal
