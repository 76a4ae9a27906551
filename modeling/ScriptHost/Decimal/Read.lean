import ScriptHost.Decimal.Basic

/-!
# Reading decimals

A decimal is read digit by digit. Digits after the point that no longer fit are rounded off by the
first of them; digits before it must fit. An underscore may stand anywhere after the first digit. If
it stands where the rounding digit is expected, a wide mantissa waits for the digit behind it, and a
narrow one takes it for a zero. A text with an exponent shifts the decimal in front of it.

## Main definitions

* `Decimal.readPlain?`: a text without an exponent.
* `Decimal.readShifted?`: a text with one.
* `Decimal.read?`: either of them.
-/

namespace ScriptHost.Decimal

/-- The value of a decimal digit; an underscore counts as zero where a digit decides a rounding. -/
def roundingDigit? (c : Char) : Option Nat :=
  if c = '_' then some 0 else if c.isDigit then some (c.toNat - '0'.toNat) else none

/-- Rounds `mantissa` by the first digit that does not fit; the rest must be digits or underscores.
A mantissa that reaches 96 bits gives up its last place. -/
def roundOff? (mantissa scale : Nat) (first : Char) (rest : List Char) : Option (Nat × Nat) :=
  if !rest.all fun c => c.isDigit || c = '_' then none
  else
    (roundingDigit? first).bind fun d =>
      if d < 5 then some (mantissa, scale)
      else if mantissa + 1 < Nat.pow 2 96 then some (mantissa + 1, scale)
      else if scale = 0 then none
      else some ((mantissa + 5) / 10, scale - 1)

/-- The least mantissa that is wide: with ten times it, a byte more may pass 64 bits. -/
def wideMantissa : Nat := (Nat.pow 2 64 - Nat.pow 2 8) / 10

/-- Reads the digits of an unsigned decimal. `any` says whether a digit was read, `point` whether
the point was. -/
def scan? (point any : Bool) (mantissa scale : Nat) : List Char → Option (Nat × Nat)
  | [] => if any then some (mantissa, scale) else none
  | c :: rest =>
    if c.isDigit then
      let next := mantissa * 10 + (c.toNat - '0'.toNat)
      let nextScale := if point then scale + 1 else scale
      if Nat.pow 2 96 ≤ next then (if point then roundOff? mantissa scale c rest else none)
      else if point ∧ 28 ≤ nextScale then
        match if mantissa < wideMantissa then rest else rest.dropWhile (· = '_') with
        | [] => some (next, nextScale)
        | first :: others => roundOff? next nextScale first others
      else scan? point true next nextScale rest
    else if c = '.' ∧ !point then scan? true any mantissa scale rest
    else if c = '_' ∧ any then scan? point any mantissa scale rest
    else none

/-- **A decimal without an exponent**: an optional sign, then digits with an optional point. Zero
has no sign. -/
def readPlain? (cs : List Char) : Option Decimal :=
  let (negative, digits) :=
    match cs with
    | '-' :: rest => (true, rest)
    | '+' :: rest => (false, rest)
    | _ => (false, cs)
  (scan? false false 0 0 digits).bind fun (mantissa, scale) =>
    ofParts? (negative && mantissa ≠ 0) mantissa scale

/-- The decimal with its point moved `n` places to the left. Where that passes 28 places, the digits
beyond them are rounded off first, a half going up. -/
def shiftDown? (d : Decimal) (n : Nat) : Option Decimal :=
  if 28 < n then none
  else if d.scale + n ≤ 28 then ofParts? d.negative d.mantissa (d.scale + n)
  else ofParts? d.negative (Binary.roundHalfUp d.mantissa (Nat.pow 10 (d.scale + n - 28))) 28

/-- The decimal with its point moved `n` places to the right; a result that needs more digits than
the mantissa has is an integer without a scale. -/
def shiftUp? (d : Decimal) (n : Nat) : Option Decimal :=
  if n ≤ d.scale then ofParts? d.negative d.mantissa (d.scale - n)
  else if 28 < n then none
  else ofParts? (d.negative && d.mantissa ≠ 0) (d.mantissa * Nat.pow 10 (n - d.scale)) 0

/-- **A decimal with an exponent** of at most two digits' size. -/
def readShifted? (cs : List Char) : Option Decimal :=
  let isMark (c : Char) : Bool := c = 'e' || c = 'E'
  let exponent (ds : List Char) : Option Nat :=
    (Numeral.readUnsigned 10 (Nat.pow 2 32 - 1) ds).toOption
  match cs.dropWhile (!isMark ·) with
  | [] => none
  | _ :: shift =>
    (readPlain? (cs.takeWhile (!isMark ·))).bind fun base =>
      match shift with
      | '-' :: ds => (exponent ds).bind base.shiftDown?
      | ds => (exponent ds).bind base.shiftUp?

/-- **The decimal denoted by a text**, with or without an exponent. -/
def read? (cs : List Char) : Option Decimal := (readPlain? cs).or (readShifted? cs)

end ScriptHost.Decimal
