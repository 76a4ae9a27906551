import ScriptHost.Session.Basic
import ScriptHost.Numeric.Read

/-!
# Built-in functions

The functions every script starts with, the comparisons of boxed numbers, and the types of host
numbers as constructors.

## Main definitions

* `Builtin.run`: `type`, `tostring`, `tonumber`, `pcall`, `error`.
* `protectedContinuation`, `protectedHandler`: what a protected call answers with.
* `Session.compareNumbers`: the comparisons of boxed numbers.
* `Session.makeNumber`: the constructors of boxed numbers.
-/

namespace ScriptHost

/-- The stamps from here on are free; those below belong to the functions of protected calls. -/
def firstFreeStamp : Nat := 2

/-- The function that receives the result of a protected call. -/
def protectedContinuation : Function := ⟨0, "pcall_continuation", .builtin .pcallContinuation⟩

/-- The function that receives the error of a protected call. -/
def protectedHandler : Function := ⟨1, "pcall_onerror", .builtin .pcallHandler⟩

/-- Refuses a call without enough arguments. -/
def needArguments (function : String) (n : Nat) (a : Arguments) : Action Unit :=
  if a.length < n then Action.fail (.valueExpected (a.length + 1) function) else pure ()

/-- A numeral in a base other than ten: a minus sign is taken off first, and the rest may have a
sign of its own. -/
def readInBase (base : Nat) (cs : List Char) : Option Float :=
  let (negative, digits) :=
    match cs with
    | '-' :: rest => (true, rest)
    | _ => (false, cs)
  match Numeral.readSigned base (Nat.pow 2 63 - 1) digits with
  | .ok i => some (if negative then -(Double.ofInt i) else Double.ofInt i)
  | .error _ => none

/-- A number, or nil for none. -/
def numberOrNil : Option Float → Value
  | some x => .number x
  | none => .nil

/-- The base a number stands for in `tonumber`. -/
def base? (x : Float) : Option Nat :=
  match Double.integer? x with
  | some i => if 2 ≤ i ∧ i ≤ 36 then some i.toNat else none
  | none => none

/-- **The number of a value**, or of a numeral in a base. -/
def toNumberIn (v base : Value) : Except ScriptError Value :=
  match base with
  | .nil => .ok (numberOrNil v.toNumber?)
  | .number x =>
    match base? x with
    | none => .error (.badArgument 2 "tonumber" "base out of range")
    | some b =>
      match v with
      | .string s =>
        if b = 10 then .ok (numberOrNil (Number.parse? s))
        else .ok (numberOrNil (readInBase b (Text.trim s)))
      | .number n => .ok (if b = 10 then .number n else .nil)
      | _ => .error (.badType 1 "tonumber" "string" v)
  | _ => .error (.badType 2 "tonumber" "number" base)

/-- **The built-in functions.** -/
def Builtin.run (b : Builtin) (a : Arguments) : Action Value := do
  match b with
  | .type =>
    needArguments "type" 1 a
    return .string (a.get 0).typeName
  | .tostring =>
    needArguments "tostring" 1 a
    return .string (a.get 0).print
  | .tonumber =>
    needArguments "tonumber" 1 a
    Action.ofExcept (toNumberIn (a.get 0) (a.get 1))
  | .pcall =>
    match a.values with
    | [] => Action.fail (.valueExpected 1 "pcall")
    | target :: rest => Session.newRequest target rest protectedContinuation protectedHandler
  | .error =>
    needArguments "error" 1 a
    Action.fail (.raised (a.get 0))
  | .pcallContinuation | .pcallHandler => return .ofList [.bool true, a.get 0]

namespace Session

/-- An operand of a comparison of boxed numbers, as a number. -/
def operand (function : String) (a : Arguments) (i : Nat) : Except ScriptError Float :=
  match a.get i with
  | .userdata u =>
    match u.object.primitive? with
    | some p => .ok p.toDouble
    | none =>
      .error (.badArgument (i + 1) function
        ("primitive wrapper expected, got userdata<" ++ u.object.hostType.name ++ ">"))
  | v =>
    match v.toNumber? with
    | some x => .ok x
    | none => .error (.badType (i + 1) function "number" v)

/-- A comparison of doubles. -/
def compareDoubles : Comparison → Float → Float → Bool
  | .equal, x, y => x == y
  | .less, x, y => x < y
  | .lessEqual, x, y => x ≤ y

/-- **The comparison** of boxed numbers with each other and with numbers. -/
def compareNumbers (function : String) (c : Comparison) (a : Arguments) :
    Except ScriptError Value := do
  let x ← operand function a 0
  let y ← operand function a 1
  return .bool (compareDoubles c x y)

/-- The base given to a constructor of boxed numbers. -/
def baseArgument (kind : NumericKind) (v : Value) : Except ScriptError Nat :=
  match v.toNumber? with
  | none => .error (.badType 3 kind.name "number" v)
  | some x =>
    match Double.integer? x with
    | some (Int.ofNat n) =>
      if n < Nat.pow 2 32 then .ok n else .error (.ofNumeric (.invalidBase (Double.text x) kind))
    | _ => .error (.ofNumeric (.invalidBase (Double.text x) kind))

/-- The number a constructor makes of its arguments, after the type itself. -/
def numberFrom (kind : NumericKind) (a : Arguments) : Except ScriptError Primitive :=
  let numeric : Except Numeric.Fault Primitive → Except ScriptError Primitive
    | .ok p => .ok p
    | .error e => .error (.ofNumeric e)
  if a.length < 2 then .error (.valueExpected 1 kind.name)
  else
    match a.get 1 with
    | .number x =>
      if kind.takesWords ∧ 2 < a.length then
        match a.get 2 with
        | .number high => numeric (Primitive.ofWords kind x high)
        | v => .error (.badType 3 kind.name "number" v)
      else numeric (Primitive.ofNumber kind x)
    | .string s =>
      match a.get 2 with
      | .nil => numeric (Primitive.read kind s none)
      | v => (baseArgument kind v).bind fun base => numeric (Primitive.read kind s base)
    | v =>
      match v.primitive? with
      | some p => numeric (p.convert kind)
      | none => .error (.valueExpected 1 kind.name)

/-- **The constructor** of boxed numbers of a kind. -/
def makeNumber (kind : NumericKind) (a : Arguments) : Action Value := do
  let p ← Action.ofExcept (numberFrom kind a)
  box p

end Session

end ScriptHost
