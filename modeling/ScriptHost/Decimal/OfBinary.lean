import ScriptHost.Decimal.Basic

/-!
# Decimals from binary numbers

A binary number `m * 2 ^ q` becomes a decimal by trading factors of two for factors of ten while the
mantissa stays within 96 bits, and by dropping the decimal digits beyond the precision of the binary
format.

## Main definitions

* `Scaling`: a mantissa with a power of ten, and the steps on it.
* `Decimal.ofBinary?`: the decimal of a finite binary number.
* `Decimal.ofDouble?`, `Decimal.ofSingle?`: the two formats.
-/

namespace ScriptHost.Decimal

open Binary

/-- A mantissa and a decimal exponent. -/
structure Scaling where
  mantissa : Nat
  exponent : Int
deriving DecidableEq, Repr

namespace Scaling

/-- Divides by two `n` times: an even mantissa is halved, an odd one is multiplied by five for the
next lower place, or halved with the last bit lost when five times it passes 96 bits. -/
def halve : Nat → Scaling → Scaling
  | 0, s => s
  | n + 1, s =>
    if s.mantissa % 2 = 0 then halve n ⟨s.mantissa / 2, s.exponent + 1⟩
    else if s.mantissa * 5 < Nat.pow 2 96 then halve n ⟨s.mantissa * 5, s.exponent⟩
    else halve n ⟨s.mantissa / 2, s.exponent + 1⟩

/-- Multiplies by two `n` times, as long as the mantissa stays below `2 ^ 96`; a number too large
for a decimal gives nothing. -/
def double? : Nat → Scaling → Option Scaling
  | 0, s => some s
  | n + 1, s =>
    if s.mantissa < Nat.pow 2 95 then double? n ⟨s.mantissa * 2, s.exponent - 1⟩
    else if s.exponent * 2 > n + 1 then none
    else double? n ⟨s.mantissa / 5, s.exponent⟩

/-- Brings a positive exponent down to zero, within 96 bits. -/
def lower? : Nat → Scaling → Option Scaling
  | 0, s => some s
  | n + 1, s =>
    if s.exponent ≤ 0 then some s
    else if s.mantissa * 10 < Nat.pow 2 96 then lower? n ⟨s.mantissa * 10, s.exponent - 1⟩
    else none

/-- Drops the last digit, a half going up. -/
def dropDigit (s : Scaling) : Scaling :=
  ⟨s.mantissa / 10 + (if 5 ≤ s.mantissa % 10 then 1 else 0), s.exponent + 1⟩

/-- Drops digits until at most 28 places are left; a number that vanishes has none. -/
def limitPlaces : Nat → Scaling → Scaling
  | 0, s => s
  | n + 1, s =>
    if -28 ≤ s.exponent then s
    else if s.mantissa / 10 = 0 then ⟨0, 0⟩
    else limitPlaces n s.dropDigit

/-- Drops places while the mantissa has more bits than the binary format is trusted for. -/
def limitPrecision (bound : Nat) : Nat → Scaling → Scaling
  | 0, s => s
  | n + 1, s =>
    if s.exponent < 0 ∧ bound ≤ s.mantissa then limitPrecision bound n s.dropDigit else s

/-- Drops trailing zeros after the point. -/
def stripZeros : Nat → Scaling → Scaling
  | 0, s => s
  | n + 1, s =>
    if s.exponent < 0 ∧ s.mantissa % 10 = 0 then stripZeros n ⟨s.mantissa / 10, s.exponent + 1⟩
    else s

end Scaling

/-- **The decimal of a binary number** `m * 2 ^ q`, with digits dropped while the mantissa reaches
`bound`; nothing for a number too large. The sign stays also on a result of zero. -/
def ofBinary? (bound : Nat) (negative : Bool) (m : Nat) (q : Int) : Option Decimal :=
  if m = 0 then ofParts? negative 0 0
  else
    let start : Scaling := ⟨m, q⟩
    let scaled := if q < 0 then some (start.halve (-q).toNat) else start.double? q.toNat
    (scaled.bind fun s => s.lower? s.exponent.toNat).bind fun s =>
      let placed := s.limitPlaces (-s.exponent).toNat
      let precise := placed.limitPrecision bound 28
      let final := precise.stripZeros 28
      ofParts? negative final.mantissa (-final.exponent).toNat

/-- The decimal of a finite double. -/
def ofDouble? (x : Float) : Option Decimal :=
  match Double.parts x with
  | .finite negative m q => ofBinary? (Nat.pow 2 52) negative m q
  | _ => none

/-- The decimal of a finite single. -/
def ofSingle? (x : Float32) : Option Decimal :=
  match Single.parts x with
  | .finite negative m q => ofBinary? (Nat.pow 2 24) negative m q
  | _ => none

end ScriptHost.Decimal
