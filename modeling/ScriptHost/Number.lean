import ScriptHost.Binary.Double
import ScriptHost.Text.Blank

/-!
# Script numbers

How scripts write numbers, which texts they take for numbers, and the remainder they compute.

## Main definitions

* `Number.text`: the text of a number.
* `Number.parse?`: the number denoted by a text.
* `Number.flooredMod`: the remainder with the sign of the divisor.
-/

namespace ScriptHost.Number

/-- **The text of a number**: integers below `10 ^ 15` in magnitude without a sign on zero, other
numbers by their shortest digits without an exponent. -/
def text (x : Float) : String :=
  match Double.parts x with
  | .nan => "nan"
  | .infinite negative => if negative then "-inf" else "inf"
  | .finite .. =>
    match Double.integer? x with
    | some i => if i.natAbs < Nat.pow 10 15 then Numeral.text i else Double.text x
    | none => Double.text x

/-- The digits after a hexadecimal mark. -/
def hexDigits? : List Char → Option (List Char)
  | '0' :: 'x' :: rest => some rest
  | '0' :: 'X' :: rest => some rest
  | _ => none

/-- **The number denoted by a text**: between blanks, a hexadecimal word of at most 64 bits after
an optional minus sign, or a decimal without letters other than an exponent mark. -/
def parse? (s : String) : Option Float :=
  let trimmed := Text.trim s
  let (negative, body) :=
    match trimmed with
    | '-' :: rest => (true, rest)
    | _ => (false, trimmed)
  match hexDigits? body with
  | some digits =>
    match Numeral.readUnsigned 16 (Nat.pow 2 64 - 1) digits with
    | .ok n => some (Double.ofRatio negative n 1)
    | .error _ => none
  | none =>
    if trimmed.any fun c => c.isAlpha && c ≠ 'e' && c ≠ 'E' then none
    else Double.read? trimmed

/-- **The floored remainder**: `a` less the largest integral multiple of `b` given by the rounded
quotient. -/
def flooredMod (a b : Float) : Float := a - b * Double.floor (a / b)

end ScriptHost.Number
