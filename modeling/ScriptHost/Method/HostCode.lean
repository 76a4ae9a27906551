import ScriptHost.Program.Eval

/-!
# What host methods run

A method either runs a body, after its call is logged, or makes an array with the extents it is
given.

## Main definitions

* `maxArrayLength`: the most items a script can ask for.
* `filledArray`: the array constructor.
* `HostCode.run`: what runs when a method is called.
-/

namespace ScriptHost

/-- The most items of an array that a script can ask for. -/
def maxArrayLength : Nat := Nat.pow 2 24

/-- What an array is filled with at first. -/
def defaultItem : ParamType → HostValue
  | .bool => .bool false
  | .number => .number 0.0
  | .primitive kind =>
    match Primitive.ofNumber kind 0.0 with
    | .ok p => .primitive p
    | .error _ => .null
  | _ => .null

/-- The extents given as arguments, the first of them at a position. -/
def extents : Nat → List HostValue → Except ScriptError (List Nat)
  | _, [] => .ok []
  | i, h :: hs =>
    match h.toInt64?.getD 0 with
    | .ofNat n => (extents (i + 1) hs).map (n :: ·)
    | .negSucc n =>
      .error (.badArgument (i + 1) "__new" ("negative array extent " ++ Numeral.text (.negSucc n)))

/-- The product of extents, as long as every product on the way fits into a word of 64 bits. -/
def wordProduct? : Nat → List Nat → Option Nat
  | product, [] => some product
  | product, d :: dims =>
    if product * d < Nat.pow 2 64 then wordProduct? (product * d) dims else none

/-- Extents as they are reported. -/
def extentsText (dims : List Nat) : String :=
  "[" ++ String.intercalate ", " (dims.map fun (d : Nat) => Numeral.text d) ++ "]"

/-- **A new array** with the extents given as arguments. -/
def filledArray (element : ParamType) (args : List HostValue) : Except ScriptError HostArray := do
  let dims ← extents 0 args
  match (wordProduct? 1 dims).filter (· ≤ maxArrayLength) with
  | some length => return ⟨element, dims, List.replicate length (defaultItem element)⟩
  | none => throw (.badArgument 1 "__new" ("array extents " ++ extentsText dims ++ " too large"))

/-- **What runs** when a method is called. -/
def HostCode.run (re : Reentry) (m : Method) (c : HostCall) : Action HostReply :=
  match m.code with
  | .body b => do
    let heap := (← get).heap
    Session.addLog (.call m.name (c.receiver.map heap.viewObject) c.typeArgs
      (c.args.map heap.viewHost))
    b.run re c
  | .newArray element => do
    let array ← Action.ofExcept (filledArray element c.args)
    return .returned (.array array) c.args

end ScriptHost
