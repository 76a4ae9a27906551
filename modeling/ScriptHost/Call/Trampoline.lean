import ScriptHost.Session.Basic
import ScriptHost.BoundedStack

/-!
# The trampoline

A function may answer with a request instead of a value. The trampoline then keeps a pending frame
with the request's continuation and error handler, runs the requested call in place, and routes its
result or its error back through that frame. Protected calls therefore nest in the bounded stack of
frames and nowhere else.

## Main definitions

* `Frame`, `Step`: a pending frame, and what to do next.
* `markFailed`: a handler's answer with its leading flag turned to false.
* `invoke`: calling any value.
* `Trampoline.unwind`: an error on its way to a handler.
* `Trampoline.loop`, `Trampoline.run`: running a call to completion.
-/

namespace ScriptHost

/-- A pending frame: who receives the result of a requested call, and who its error. -/
structure Frame where
  continuation : Option Function
  handler : Option Function

/-- What the trampoline does next. -/
inductive Step where
  | call (target : Value) (args : List Value)
  /-- Hands an error to a handler. -/
  | recover (handler : Function) (error : Value)
  /-- Passes a result on to the frame below. -/
  | deliver (v : Value)

/-- **A handler's answer**, with a leading `true` turned to `false`. -/
def markFailed : Value → Value
  | .tuple (.bool true :: rest) => .ofList (.bool false :: rest)
  | v => v

/-- The error of calling a value that cannot be called. -/
def notCallable (v : Value) : ScriptError :=
  .runtime ("attempt to call a " ++ v.typeName ++ " value")

section

variable (run : Function → Arguments → Action Value)

/-- **Calling a value**: a function runs, a tuple stands for its first value, and a table or an
object runs its `__call` metamethod with itself in front of the arguments. -/
def invoke : Value → List Value → Action Value
  | .function f, args => run f (.ofList args false)
  | .tuple [], _ => Action.fail (notCallable .nil)
  | .tuple (v :: _), args => invoke v args
  | v@(.table _), args | v@(.userdata _), args => do
    match (← get).heap.metamethod? v "__call" with
    | some (.function m) => run m (.ofList (v :: args) true)
    | _ => Action.fail (notCallable v)
  | v, _ => Action.fail (notCallable v)

namespace Trampoline

/-- The answer to a step: a value or a request. -/
def answer : Step → Action Value
  | .call target args => invoke run target args
  | .recover handler error => return markFailed (← run handler (.ofList [error] false))
  | .deliver v => return v

end Trampoline

end

namespace Trampoline

/-- Takes one unit of the budget for a frame; says whether there was one. -/
def claimFrame : Action Bool := do
  let s ← get
  match s.depth.claim? s.capacity with
  | none => return false
  | some depth =>
    set { s with depth }
    return true

/-- Gives back the units of a number of frames. -/
def releaseFrames (n : Nat) : Action Unit :=
  modify fun s => { s with depth := s.depth.release n }

/-- Pushes a frame, if both the budget and the stack have room. -/
def pushFrame (frame : Frame) (frames : BoundedStack Frame) :
    Action (Option (BoundedStack Frame)) := do
  if ← claimFrame then
    match frames.push? frame with
    | some pushed => return some pushed
    | none =>
      releaseFrames 1
      return none
  else return none

/-- **An error on its way**: to the handler of the newest frame that has one, if the error can be
caught, and out of the call otherwise. The frames passed are given up. -/
def unwind (e : ScriptError) (frames : BoundedStack Frame) :
    Action (Step × BoundedStack Frame) := do
  let caught :=
    if (← get).settings.catches e then frames.newestFirst.dropWhile (·.handler.isNone) else []
  match caught with
  | ⟨_, some handler⟩ :: below =>
    releaseFrames (frames.length - below.length)
    return (.recover handler e.toValue, { frames with newestFirst := below })
  | _ =>
    releaseFrames frames.length
    Action.fail e

/-- **The loop**: answers steps until a value arrives with no frame pending. `fuel` bounds the
number of steps. -/
def loop (run : Function → Arguments → Action Value) :
    Nat → Step → BoundedStack Frame → Action Value
  | 0, _, _ => throw .exhausted
  | fuel + 1, step, frames => do
    match ← (answer run step).attempt with
    | .ok (.request r) =>
      match ← pushFrame ⟨r.continuation, r.handler⟩ frames with
      | some pushed => loop run fuel (.call r.target r.args) pushed
      | none =>
        let (next, left) ← unwind .stackOverflow frames
        loop run fuel next left
    | .ok v =>
      match frames.pop? with
      | none => return v
      | some (frame, below) =>
        releaseFrames 1
        match frame.continuation with
        | some k => loop run fuel (.call (.function k) [v.first]) below
        | none => loop run fuel (.deliver v) below
    | .error e =>
      let (next, left) ← unwind e frames
      loop run fuel next left

/-- **Runs a call to completion**, with no frame pending at first. -/
def run (runFunction : Function → Arguments → Action Value) (fuel : Nat) (target : Value)
    (args : List Value) : Action Value := do
  loop runFunction fuel (.call target args) (.new (← get).capacity)

end Trampoline

end ScriptHost
