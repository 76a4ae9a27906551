/-!
# Numerals

Integers as digits in a base from 2 to 36. Reading goes digit by digit from the left under a limit,
and stops at the first character that is no digit or at the first digit that passes the limit,
whichever comes first. Writing uses upper-case digits and no leading zero.

## Main definitions

* `digit?`, `digitChar`: one digit.
* `read`, `readUnsigned`, `readSigned`: digits to an integer, under a limit.
* `write`: a natural number to its digits.
* `positional`: digits with a decimal point.
-/

namespace ScriptHost.Numeral

/-- Why a text is no numeral under a limit. -/
inductive Fault where
  /-- No digit at all, or a character that is not a digit. -/
  | malformed
  /-- The value passes the limit. -/
  | tooLarge
deriving DecidableEq, Repr

/-- The value of a character as a digit in `base`; letters count from ten in either case. -/
def digit? (base : Nat) (c : Char) : Option Nat :=
  let value :=
    if '0' ≤ c ∧ c ≤ '9' then c.toNat - '0'.toNat
    else if 'a' ≤ c ∧ c ≤ 'z' then c.toNat - 'a'.toNat + 10
    else if 'A' ≤ c ∧ c ≤ 'Z' then c.toNat - 'A'.toNat + 10
    else base
  if value < base then some value else none

/-- The value denoted by digits after a number already read. -/
def readFrom (base limit : Nat) : Nat → List Char → Except Fault Nat
  | read, [] => .ok read
  | read, c :: rest =>
    match digit? base c with
    | none => .error .malformed
    | some d =>
      let next := read * base + d
      if limit < next then .error .tooLarge else readFrom base limit next rest

/-- **Reading digits**: one or more digits in `base` whose value is at most `limit`. -/
def read (base limit : Nat) (cs : List Char) : Except Fault Nat :=
  if cs.isEmpty then .error .malformed else readFrom base limit 0 cs

/-- Digits after at most one plus sign. -/
def readUnsigned (base limit : Nat) : List Char → Except Fault Nat
  | '+' :: rest => read base limit rest
  | cs => read base limit cs

/-- Digits after at most one sign. The magnitude is at most `limit`, or `limit + 1` after a minus
sign, as for two's complement. -/
def readSigned (base limit : Nat) : List Char → Except Fault Int
  | '+' :: rest => (read base limit rest).map Int.ofNat
  | '-' :: rest => (read base (limit + 1) rest).map fun n => -(n : Int)
  | cs => (read base limit cs).map Int.ofNat

/-- The digit of a value below 36, in upper case. -/
def digitChar (d : Nat) : Char :=
  if d < 10 then Char.ofNat ('0'.toNat + d) else Char.ofNat ('A'.toNat + (d - 10))

/-- The digits of a number in front of digits already written; `fuel` bounds their count. -/
def writeOnto (base : Nat) : Nat → Nat → List Char → List Char
  | 0, _, written => written
  | fuel + 1, n, written =>
    let more := digitChar (n % base) :: written
    if n / base = 0 then more else writeOnto base fuel (n / base) more

/-- **Writing digits**: the digits of `n` in `base`, without leading zeros. -/
def write (base n : Nat) : List Char := writeOnto base (n.log2 + 1) n []

/-- The decimal text of an integer. -/
def text (i : Int) : String :=
  let digits := write 10 i.natAbs
  String.ofList (if i < 0 then '-' :: digits else digits)

/-- The text of `digits * 10 ^ e` without an exponent. -/
def positional (digits : Nat) (e : Int) : List Char :=
  let ds := write 10 digits
  if 0 ≤ e then ds ++ List.replicate e.toNat '0'
  else
    let places := (-e).toNat
    let padded := List.replicate (places + 1 - ds.length) '0' ++ ds
    padded.take (padded.length - places) ++ '.' :: padded.drop (padded.length - places)

@[simp] theorem readFrom_nil (base limit n : Nat) : readFrom base limit n [] = .ok n := rfl

@[simp] theorem read_nil (base limit : Nat) : read base limit [] = .error .malformed := rfl

theorem read_cons (base limit : Nat) (c : Char) (rest : List Char) :
    read base limit (c :: rest) = readFrom base limit 0 (c :: rest) := rfl

end ScriptHost.Numeral
