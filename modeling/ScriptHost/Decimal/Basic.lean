import ScriptHost.Binary.Double

/-!
# Scaled decimals

A decimal has a sign, a mantissa of at most 96 bits and a scale from 0 to 28; it stands for the
mantissa divided by the scale's power of ten. The scale is kept, so `1.50` and `1.5` are different
decimals with one value, and zero may carry a sign.

## Main definitions

* `Decimal`: the type, with its bounds.
* `Decimal.text`: the written form, with as many places as the scale.
* `Decimal.sameValue`: equality of values.
* `Decimal.roundEven`: the nearest integer, a half going to the even one.
* `Decimal.toDouble`: the double a decimal is read as.
-/

namespace ScriptHost

/-- **Scaled decimals**: `mantissa / 10 ^ scale` with a sign. -/
structure Decimal where
  negative : Bool
  mantissa : Nat
  scale : Nat
  mantissa_lt : mantissa < Nat.pow 2 96
  scale_le : scale ≤ 28
deriving DecidableEq, Repr

namespace Decimal

/-- The decimal with given parts, if they are within the bounds. -/
def ofParts? (negative : Bool) (mantissa scale : Nat) : Option Decimal :=
  if h : mantissa < Nat.pow 2 96 ∧ scale ≤ 28 then some ⟨negative, mantissa, scale, h.1, h.2⟩
  else none

/-- The decimal equal to an integer below `2 ^ 96` in magnitude. -/
def ofInt? (i : Int) : Option Decimal := ofParts? (i < 0) i.natAbs 0

/-- The written form: a point before as many places as the scale says. -/
def text (d : Decimal) : String :=
  let digits := Numeral.positional d.mantissa (-(d.scale : Int))
  String.ofList (if d.negative then '-' :: digits else digits)

/-- The mantissa with its sign. -/
def signedMantissa (d : Decimal) : Int := Double.signedInt d.negative d.mantissa

/-- Whether two decimals have one value. -/
def sameValue (a b : Decimal) : Bool :=
  a.signedMantissa * Int.pow 10 b.scale = b.signedMantissa * Int.pow 10 a.scale

/-- The nearest integer, a half going to the even one. -/
def roundEven (d : Decimal) : Int :=
  Double.signedInt d.negative (Binary.roundHalfEven d.mantissa (Nat.pow 10 d.scale))

/-- The power of ten with exponent `n`, by repeated squaring of doubles. -/
def powerOfTen (n : Nat) : Float := go 6 10.0 n 1.0
where
  /-- Multiplies the powers `base ^ (2 ^ k)` for the binary digits of `n`; an exponent has at most
  six of them. -/
  go : Nat → Float → Nat → Float → Float
    | 0, _, _, product => product
    | fuel + 1, base, n, product =>
      let product := if n % 2 = 1 then product * base else product
      if n / 2 = 0 then product else go fuel (base * base) (n / 2) product

/-- **The double of a decimal**: the sum of its integral and fractional parts, brought to the
decimal's places by rounding a half away from zero. An integer never gives a negative zero. -/
def toDouble (d : Decimal) : Float :=
  if d.scale = 0 then Double.ofInt d.signedMantissa
  else
    let p := Nat.pow 10 d.scale
    let whole := Double.ofRatio false (d.mantissa / p) 1
    let fraction := Double.ofRatio false (d.mantissa % p) 1 / Double.ofRatio false p 1
    let sign (x : Float) : Float := if d.negative then -x else x
    if fraction == 0 then sign whole
    else
      let places := powerOfTen d.scale
      sign (Double.roundAway ((whole + fraction) * places) / places)

end Decimal

end ScriptHost
