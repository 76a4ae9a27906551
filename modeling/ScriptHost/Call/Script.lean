import ScriptHost.Call.Trampoline
import ScriptHost.Builtin
import ScriptHost.Method.HostCode

/-!
# Running scripts

Functions run with the ways back into the script that a smaller bound on the steps leaves them, so
that re-entry to any depth is one recursion on that bound.

## Main definitions

* `Function.perform`, `Function.run`: what a function does with its arguments.
* `Session.process`, `Session.call`: calls from outside, without and with an entry.
* `Session.evaluate`: a program from outside.
-/

namespace ScriptHost

/-- What the code of a function does with its arguments. -/
def Function.perform (re : Reentry) (f : Function) (a : Arguments) : Action Value :=
  match f.code with
  | .program body => body.eval re a
  | .moduleExport (some body) => body.eval re a
  | .moduleExport none => Action.fail (.runtime ("`" ++ f.name ++ "` is not implemented"))
  | .builtin b => b.run a
  | .compare _ c => Action.ofExcept (Session.compareNumbers f.name c a)
  | .makeNumber kind => Session.makeNumber kind a
  | .construct t => Session.runConstructor (HostCode.run re) t a
  | .method overloads receiver => Session.runMember (HostCode.run re) overloads receiver a

/-- **What a function does** with its arguments, after its call is noted. -/
def Function.run (re : Reentry) (f : Function) (a : Arguments) : Action Value := do
  Session.noteInvocation ⟨f, a⟩
  f.perform re a

namespace Session

/-- **A call that does not count as an entry**, with a bound on the steps. Functions get back into
the script with a smaller bound. -/
def process : Nat → Value → List Value → Action Value
  | 0, _, _ => throw .exhausted
  | fuel + 1, target, args =>
    let re := reentryOf fun target args => process fuel target args
    Trampoline.run (Function.run re) fuel target args

/-- The ways into the script with a bound on the steps. -/
def reentry (fuel : Nat) : Reentry := reentryOf (process fuel)

/-- **A call** into the script with a bound on the steps. -/
def call (fuel : Nat) (target : Value) (args : List Value) : Action Value :=
  (reentry fuel).call target args

/-- The bound on the steps of programs from outside. -/
def defaultFuel : Nat := Nat.pow 10 15

/-- **Evaluation of a program** from outside, without arguments. -/
def evaluate (e : Expr) : Action Value := e.eval (reentry defaultFuel) .none

/-- Evaluation of a host expression from outside. -/
def evaluateHost (h : HostExpr) : Action HostValue := h.eval (reentry defaultFuel) .none

/-- Evaluation of a fault expression from outside. -/
def evaluateFault (f : FaultExpr) : Action ScriptError := f.eval (reentry defaultFuel) .none

/-- A call of a method from outside. -/
def executeMethod (id : MethodId) (receiver : Option Object) (a : Arguments) : Action Value :=
  execute (HostCode.run (reentry defaultFuel)) id receiver a

end Session

end ScriptHost
