/-!
# Numeric kinds

The ten kinds of numbers that hosts use: integers of four widths with and without a sign, single
precision, and scaled decimals.

## Main definitions

* `IntegerKind`: the integer kinds, with their ranges.
* `NumericKind`: all kinds, with their names and order.
-/

namespace ScriptHost

/-- The integer kinds. -/
inductive IntegerKind where
  | sbyte | byte | int16 | uint16 | int32 | uint32 | int64 | uint64
deriving DecidableEq, Repr

namespace IntegerKind

/-- The width in bits. -/
def bits : IntegerKind → Nat
  | sbyte | byte => 8
  | int16 | uint16 => 16
  | int32 | uint32 => 32
  | int64 | uint64 => 64

/-- Whether negative integers belong to the kind. -/
def signed : IntegerKind → Bool
  | sbyte | int16 | int32 | int64 => true
  | byte | uint16 | uint32 | uint64 => false

/-- The least integer of the kind. -/
def min (k : IntegerKind) : Int := if k.signed then -Int.pow 2 (k.bits - 1) else 0

/-- The greatest integer of the kind. -/
def max (k : IntegerKind) : Int :=
  if k.signed then Int.pow 2 (k.bits - 1) - 1 else Int.pow 2 k.bits - 1

/-- **Range**: the integers of the kind. -/
def Holds (k : IntegerKind) (i : Int) : Prop := k.min ≤ i ∧ i ≤ k.max

instance (k : IntegerKind) (i : Int) : Decidable (k.Holds i) :=
  inferInstanceAs (Decidable (k.min ≤ i ∧ i ≤ k.max))

theorem min_nonpos (k : IntegerKind) : k.min ≤ 0 := by cases k <;> decide

theorem max_nonneg (k : IntegerKind) : 0 ≤ k.max := by cases k <;> decide

/-- The pattern of an integer in two's complement. -/
def pattern (k : IntegerKind) (i : Int) : Nat := (i % Int.pow 2 k.bits).toNat

/-- The integer with a given pattern in two's complement. -/
def ofPattern (k : IntegerKind) (n : Nat) : Int :=
  if k.signed ∧ Nat.pow 2 (k.bits - 1) ≤ n then (n : Int) - Int.pow 2 k.bits else n

end IntegerKind

/-- **The kinds of host numbers.** -/
inductive NumericKind where
  | integer (k : IntegerKind)
  | single
  | decimal
deriving DecidableEq, Repr

namespace NumericKind

/-- The kinds in their order. -/
def all : List NumericKind :=
  [.integer .sbyte, .integer .byte, .integer .int16, .integer .uint16, .integer .int32,
    .integer .uint32, .integer .int64, .integer .uint64, .single, .decimal]

/-- The name of a kind. -/
def name : NumericKind → String
  | integer .sbyte => "SByte"
  | integer .byte => "Byte"
  | integer .int16 => "Int16"
  | integer .uint16 => "UInt16"
  | integer .int32 => "Int32"
  | integer .uint32 => "UInt32"
  | integer .int64 => "Int64"
  | integer .uint64 => "UInt64"
  | single => "Single"
  | decimal => "Decimal"

/-- The kind with a given name. -/
def ofName? (name : String) : Option NumericKind := all.find? (·.name == name)

/-- The position of a kind in the order. -/
def index (k : NumericKind) : Nat := all.idxOf k

/-- Whether the kind has only integers. -/
def isInteger : NumericKind → Bool
  | integer _ => true
  | _ => false

/-- Whether negative numbers belong to the kind. -/
def isSigned : NumericKind → Bool
  | integer k => k.signed
  | _ => true

/-- Whether a number of the kind can be given as two words of 32 bits. -/
def takesWords (k : NumericKind) : Bool := k == integer .int64 || k == integer .uint64

theorem mem_all (k : NumericKind) : k ∈ all := by
  cases k with
  | integer i => cases i <;> decide
  | single => decide
  | decimal => decide

theorem ofName?_name (k : NumericKind) : ofName? k.name = some k := by
  cases k with
  | integer i => cases i <;> decide
  | single => decide
  | decimal => decide

end NumericKind

end ScriptHost
