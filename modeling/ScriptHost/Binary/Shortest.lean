import ScriptHost.Binary.Format

/-!
# Shortest decimals

The decimal with the fewest digits among those that round to a given binary number, and of these
the nearest to it. The decimals with a fixed last place form a grid; the search goes from coarse
grids to fine ones and stops at the first grid with a point that rounds to the number.

## Main definitions

* `RoundingInterval`: the reals that round to a binary number, over a common denominator.
* `RoundingInterval.pick`: the best point of one grid.
* `Format.shortest`: the shortest decimal of a binary number.
-/

namespace ScriptHost.Binary

/-- The reals between `low / den` and `high / den`, which round to `value / den`. -/
structure RoundingInterval where
  low : Nat
  value : Nat
  high : Nat
  den : Nat
  /-- Whether the two ends round to the value as well. -/
  closed : Bool
deriving Repr

/-- The reals that round to `m * 2 ^ q`. The neighbour below a power of two is at half the distance
of the neighbour above; the ends belong to an even significand. -/
def Format.roundingInterval (f : Format) (m : Nat) (q : Int) : RoundingInterval :=
  let unit := Nat.pow 2 (q - 2).toNat
  let below := if m = Nat.pow 2 f.fractionBits ∧ f.minExponent < q then 1 else 2
  { low := (4 * m - below) * unit
    value := 4 * m * unit
    high := (4 * m + 2) * unit
    den := Nat.pow 2 (2 - q).toNat
    closed := m % 2 = 0 }

namespace RoundingInterval

/-- The best multiple of `step` over the common denominator: of the two neighbours of the value the
one inside the interval, and if both are, the nearer, a tie going up. -/
def pick (i : RoundingInterval) (step : Nat) : Option Nat :=
  let k := i.value / step
  let inside (point : Nat) : Bool :=
    if i.closed then i.low ≤ point && point ≤ i.high else i.low < point && point < i.high
  match inside (k * step), inside ((k + 1) * step) with
  | true, true => some (if 2 * (i.value % step) < step then k else k + 1)
  | true, false => some k
  | false, true => some (k + 1)
  | false, false => none

/-- The interval scaled by a natural number. -/
def scale (i : RoundingInterval) (n : Nat) : RoundingInterval :=
  { i with low := i.low * n, value := i.value * n, high := i.high * n }

/-- The best point of the grid with last place `10 ^ e`. -/
def onGrid (i : RoundingInterval) (e : Int) : Option Nat :=
  (i.scale (Nat.pow 10 (-e).toNat)).pick (i.den * Nat.pow 10 e.toNat)

/-- The first grid with a point, going down from last place `10 ^ e`. -/
def firstGrid (i : RoundingInterval) : Nat → Int → Nat × Int
  | 0, e => (i.value * Nat.pow 10 (-e).toNat / (i.den * Nat.pow 10 e.toNat), e)
  | fuel + 1, e =>
    match i.onGrid e with
    | some k => (k, e)
    | none => firstGrid i fuel (e - 1)

end RoundingInterval

/-- **The shortest decimal** of `m * 2 ^ q`: digits `k` and exponent `e` of `k * 10 ^ e`. The first
grid tried is coarser than the number itself, and seventeen digits always suffice. -/
def Format.shortest (f : Format) (m : Nat) (q : Int) : Nat × Int :=
  let i := f.roundingInterval m q
  let coarse := (i.high / i.den).log2 / 3 + 1
  i.firstGrid (coarse + f.minExponent.natAbs + 17) coarse

end ScriptHost.Binary
