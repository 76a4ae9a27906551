import ScriptHost.Session.Basic
import ScriptHost.Value.Equality

/-!
# Operators

Operators work on numbers and texts directly and ask the metamethods of their operands otherwise,
the left operand first. Metamethods are called through the script and may do anything.

## Main definitions

* `OperatorEntry`, `Operators`: the arithmetic operators that are known.
* `Operators.eval`: an arithmetic operator on two values.
* `Session.negate`, `Session.concat`: the other operators with a value as result.
* `Session.equals`, `Session.lessThan`, `Session.lessEqual`: comparisons.
-/

namespace ScriptHost

/-- The name of an arithmetic operator. -/
def Arithmetic.name : Arithmetic → String
  | add => "Add"
  | sub => "Sub"
  | mul => "Mul"
  | div => "Div"
  | mod => "Mod"
  | pow => "Pow"

/-- The arithmetic operators in their order. -/
def Arithmetic.all : List Arithmetic := [.add, .sub, .mul, .div, .mod, .pow]

/-- How an arithmetic operator is written, which metamethod it asks, and what it computes. -/
structure OperatorEntry where
  symbol : String
  event : String
  apply : Float → Float → Float

/-- **The arithmetic operators that are known.** -/
abbrev Operators := Keyed Arithmetic OperatorEntry

/-- The operators every script knows. -/
def Operators.standard : Operators :=
  Keyed.empty
    |>.insert .add ⟨"+", "__add", (· + ·)⟩
    |>.insert .sub ⟨"-", "__sub", (· - ·)⟩
    |>.insert .mul ⟨"*", "__mul", (· * ·)⟩
    |>.insert .div ⟨"/", "__div", (· / ·)⟩
    |>.insert .mod ⟨"%", "__mod", Number.flooredMod⟩
    |>.insert .pow ⟨"^", "__pow", Float.pow⟩

section

variable (call : Value → List Value → Action Value)

/-- The metamethod for an event, of the first of two values that has one. -/
def metamethodOf (event : String) (l r : Value) : Action (Option Value) := do
  let heap := (← get).heap
  return (heap.metamethod? l event).or (heap.metamethod? r event)

/-- **An arithmetic operator** on two values. -/
def Operators.eval (ops : Operators) (op : Arithmetic) (l r : Value) : Action Value := do
  match ops.get? op with
  | none => Action.fail (.runtime ("operator " ++ op.name ++ " is not registered"))
  | some entry =>
    match l.toNumber?, r.toNumber? with
    | some x, some y => return .number (entry.apply x y)
    | left?, _ =>
      match ← metamethodOf entry.event l r with
      | some m => return (← call m [l, r]).first
      | none =>
        let culprit := if left?.isNone then l else r
        Action.fail (.runtime ("attempt to perform arithmetic (" ++ entry.symbol ++ ") on a "
          ++ culprit.typeName ++ " value"))

namespace Session

/-- **Negation** of a value. -/
def negate (v : Value) : Action Value := do
  match v.toNumber? with
  | some x => return .number (-x)
  | none =>
    match (← get).heap.metamethod? v "__unm" with
    | some m => return (← call m [v, v]).first
    | none =>
      Action.fail (.runtime ("attempt to perform arithmetic (unary -) on a " ++ v.typeName
        ++ " value"))

/-- **Concatenation** of two values. -/
def concat (l r : Value) : Action Value := do
  match l.toText?, r.toText? with
  | some s, some t => return .string (s ++ t)
  | left?, _ =>
    match ← metamethodOf "__concat" l r with
    | some m => return (← call m [l, r]).first
    | none =>
      let culprit := if left?.isNone then l else r
      Action.fail (.runtime ("attempt to concatenate a " ++ culprit.typeName ++ " value"))

/-- Whether equality asks the metamethods of a value. -/
def comparesByMetamethod : Value → Bool
  | .table _ | .userdata _ => true
  | _ => false

/-- **Equality** of two values. -/
def equals (l r : Value) : Action Bool := do
  if l.same r then return true
  else if !comparesByMetamethod l && !comparesByMetamethod r then return false
  else
    match ← metamethodOf "__eq" l r with
    | some m => return (← call m [l, r]).truthy
    | none => return false

/-- The error of values that have no order. -/
def notComparable (l r : Value) : ScriptError :=
  .runtime ("attempt to compare " ++ l.typeName ++ " with " ++ r.typeName)

/-- **Strict order** of two values; strings are ordered by their bytes. -/
def lessThan (l r : Value) : Action Bool := do
  match l, r with
  | .number x, .number y => return x < y
  | .string s, .string t => return decide (s < t)
  | _, _ =>
    match ← metamethodOf "__lt" l r with
    | some m => return (← call m [l, r]).truthy
    | none => Action.fail (notComparable l r)

/-- **Order** of two values; without a metamethod of its own it asks whether the right one is
strictly less. -/
def lessEqual (l r : Value) : Action Bool := do
  match l, r with
  | .number x, .number y => return x ≤ y
  | .string s, .string t => return !decide (t < s)
  | _, _ =>
    match ← metamethodOf "__le" l r with
    | some m => return (← call m [l, r]).truthy
    | none =>
      match ← metamethodOf "__lt" r l with
      | some m => return !(← call m [r, l]).truthy
      | none => Action.fail (notComparable l r)

end Session

end

end ScriptHost
