import ScriptHost.Proofs.Quiet
import ScriptHost.Call.Trampoline

/-!
# The trampoline as a machine

Between two answers the trampoline does nothing but take or give back units of the budget and move
frames. What it does with an answer is therefore a function of the pending frames and the session,
and the loop is the iteration of that function.

## Main definitions

* `callee`: the function a call runs.
* `Trampoline.Transition`: what follows an answer.
* `Trampoline.next`: the transition for the outcome of a step.
* `Trampoline.Holds`: the pending frames are counted.

## Main results

* `exec_invoke`, `ends_invoke_iff`: calling a value is running a function, or failing.
* `Trampoline.exec_loop_succ`, `Trampoline.ends_loop_succ_iff`: the loop answers a step and makes
  the transition.
* `Trampoline.raise_pushed_of_handler`, `Trampoline.raise_pushed`: an error stops at the newest
  frame if that frame catches it, and passes it otherwise.
* `Trampoline.keeps_next`: frames come and go with their units.
-/

namespace ScriptHost

namespace Control

/-- The control part with the units of some frames taken. -/
def holding (c : Control) (n : Nat) : Control :=
  { c with depth := { c.depth with frames := c.depth.frames + n } }

/-- The control part with the units of some frames given back. -/
def release (c : Control) (n : Nat) : Control := { c with depth := c.depth.release n }

theorem holding_holding (c : Control) (m n : Nat) :
    (c.holding m).holding n = c.holding (m + n) := by
  simp [holding, Nat.add_assoc]

theorem release_holding (c : Control) (m n : Nat) :
    (c.holding (m + n)).release n = c.holding m := by
  simp [holding, release, CallDepth.release, ← Nat.add_assoc]

end Control

/-- The session with the units of some frames given back. -/
def Session.released (s : Session) (n : Nat) : Session := { s with depth := s.depth.release n }

theorem Session.released_released (s : Session) (m n : Nat) :
    (s.released m).released n = s.released (m + n) := by
  simp [released, CallDepth.release, Nat.sub_sub]

theorem Session.control_released (s : Session) (n : Nat) :
    (s.released n).control = s.control.release n := rfl

/-- A value that is no request is the result of its call. -/
def Value.IsFinal (v : Value) : Prop := ∀ r, v ≠ .request r

theorem Value.request_or_isFinal (v : Value) : (∃ r, v = .request r) ∨ v.IsFinal := by
  cases v with
  | request r => exact Or.inl ⟨r, rfl⟩
  | _ => exact Or.inr fun r h => by cases h

theorem Session.released_claimed {s : Session} {depth : CallDepth}
    (hclaim : s.depth.claim? s.capacity = some depth) :
    ({ s with depth } : Session).released 1 = s := by
  show ({ s with depth := depth.release 1 } : Session) = s
  rw [CallDepth.release_of_claim? hclaim]

/-- What is in control when a frame is given back is what was when it was claimed. -/
theorem Session.control_released_of_claimed {s t : Session} {depth : CallDepth}
    (hclaim : s.depth.claim? s.capacity = some depth)
    (hcontrol : t.control = ({ s with depth } : Session).control) :
    (t.released 1).control = s.control := by
  rw [control_released, hcontrol, ← control_released, released_claimed hclaim]

/-! ## Which function a call runs -/

/-- **The function a call runs**, with the arguments it gets, or the error of a value that cannot be
called. -/
def callee (heap : Heap) : Value → List Value → Except ScriptError (Function × Arguments)
  | .function f, args => .ok (f, .ofList args false)
  | .tuple [], _ => .error (notCallable .nil)
  | .tuple (v :: _), args => callee heap v args
  | v@(.table _), args | v@(.userdata _), args =>
    match heap.metamethod? v "__call" with
    | some (.function m) => .ok (m, .ofList (v :: args) true)
    | _ => .error (notCallable v)
  | v, _ => .error (notCallable v)

/-- Calling a value is running the function that stands for it. -/
theorem exec_invoke (run : Function → Arguments → Action Value) (target : Value)
    (args : List Value) (s : Session) :
    (invoke run target args).exec s =
      match callee s.heap target args with
      | .ok (f, a) => (run f a).exec s
      | .error e => (.error (.error e), s) := by
  fun_induction callee s.heap target args with
  | case1 | case2 => rfl
  | case3 v vs args ih => exact ih
  | case4 | case6 => simp [invoke, Action.exec_bind, *]
  | case5 | case7 =>
    simp only [invoke, Action.exec_bind, Action.exec_get]
    rfl
  | case8 v args =>
    rw [invoke]
    · rfl
    all_goals assumption

theorem ends_invoke_iff {run : Function → Arguments → Action Value} {target : Value}
    {args : List Value} {s t : Session} {o : Except ScriptError Value} :
    (invoke run target args).Ends s o t ↔
      (∃ f a, callee s.heap target args = .ok (f, a) ∧ (run f a).Ends s o t) ∨
        ∃ e, callee s.heap target args = .error e ∧ o = .error e ∧ t = s := by
  rw [Action.ends_iff_exec_eq, exec_invoke]
  cases hcallee : callee s.heap target args with
  | ok fa =>
    obtain ⟨f, a⟩ := fa
    simp [← Action.ends_iff_exec_eq, and_assoc]
  | error e => cases o <;> simp [eq_comm]

namespace Trampoline

/-- What follows the answer to a step. -/
inductive Transition where
  /-- Another step, with the frames then pending. -/
  | go (step : Step) (frames : BoundedStack Frame) (s : Session)
  /-- The call is over. -/
  | stop (o : Except ScriptError Value) (s : Session)

/-- The session after a transition. -/
def Transition.session : Transition → Session
  | .go _ _ s => s
  | .stop _ s => s

/-- One more frame, if both the budget and the stack have room. -/
def push? (frame : Frame) (frames : BoundedStack Frame) (s : Session) :
    Option (BoundedStack Frame × Session) :=
  match s.depth.claim? s.capacity with
  | none => none
  | some depth => (frames.push? frame).map fun pushed => (pushed, { s with depth })

/-- The frames from the newest one that catches an error on. -/
def catching (e : ScriptError) (frames : BoundedStack Frame) (s : Session) : List Frame :=
  if s.settings.catches e then frames.newestFirst.dropWhile (·.handler.isNone) else []

/-- An error goes to the newest frame that catches it, or ends the call. -/
def raise (e : ScriptError) (frames : BoundedStack Frame) (s : Session) : Transition :=
  match catching e frames s with
  | ⟨_, some handler⟩ :: below =>
    .go (.recover handler e.toValue) { frames with newestFirst := below }
      (s.released (frames.length - below.length))
  | _ => .stop (.error e) (s.released frames.length)

/-- A value goes to the newest frame, or ends the call. -/
def deliver (v : Value) (frames : BoundedStack Frame) (s : Session) : Transition :=
  match frames.pop? with
  | none => .stop (.ok v) s
  | some (⟨some k, _⟩, below) => .go (.call (.function k) [v.first]) below (s.released 1)
  | some (⟨none, _⟩, below) => .go (.deliver v) below (s.released 1)

/-- **The transition** for the outcome of a step. -/
def next (frames : BoundedStack Frame) (s : Session) : Except ScriptError Value → Transition
  | .ok (.request r) =>
    match push? ⟨r.continuation, r.handler⟩ frames s with
    | some (pushed, t) => .go (.call r.target r.args) pushed t
    | none => raise .stackOverflow frames s
  | .ok v => deliver v frames s
  | .error e => raise e frames s

theorem next_error (frames : BoundedStack Frame) (s : Session) (e : ScriptError) :
    next frames s (.error e) = raise e frames s := rfl

theorem next_request (frames : BoundedStack Frame) (s : Session) (r : Request) :
    next frames s (.ok (.request r)) =
      match push? ⟨r.continuation, r.handler⟩ frames s with
      | some (pushed, t) => .go (.call r.target r.args) pushed t
      | none => raise .stackOverflow frames s := rfl

theorem next_final {v : Value} (hv : v.IsFinal) (frames : BoundedStack Frame) (s : Session) :
    next frames s (.ok v) = deliver v frames s := by
  cases v with
  | request r => exact absurd rfl (hv r)
  | _ => rfl

/-- Goes on after a transition in a given way. -/
def resume (proceed : Step → BoundedStack Frame → Action Value) :
    Transition → Except Interrupt Value × Session
  | .go step frames s => (proceed step frames).exec s
  | .stop o s => (o.mapError .error, s)

theorem exec_claimFrame (s : Session) :
    claimFrame.exec s =
      match s.depth.claim? s.capacity with
      | some depth => (.ok true, { s with depth })
      | none => (.ok false, s) := by
  unfold claimFrame
  simp only [Action.exec_bind, Action.exec_get]
  cases s.depth.claim? s.capacity <;> rfl

theorem exec_releaseFrames (n : Nat) (s : Session) :
    (releaseFrames n).exec s = (.ok (), s.released n) := rfl

theorem exec_pushFrame (frame : Frame) (frames : BoundedStack Frame) (s : Session) :
    (pushFrame frame frames).exec s =
      match push? frame frames s with
      | some (pushed, t) => (.ok (some pushed), t)
      | none => (.ok none, s) := by
  unfold pushFrame push?
  rw [Action.exec_bind, exec_claimFrame]
  cases hclaim : s.depth.claim? s.capacity with
  | none => rfl
  | some depth =>
    cases hpush : frames.push? frame with
    | some pushed => rfl
    | none =>
      -- A frame the stack refuses gives its unit back, and the session is as before.
      simp only [Action.exec_bind, exec_releaseFrames, Session.released, Action.exec_pure,
        CallDepth.release_of_claim? hclaim, Option.map_none, if_true]

theorem exec_unwind_bind (proceed : Step → BoundedStack Frame → Action Value) (e : ScriptError)
    (frames : BoundedStack Frame) (s : Session) :
    (unwind e frames >>= fun p => proceed p.1 p.2).exec s = resume proceed (raise e frames s) := by
  unfold unwind raise catching
  simp only [Action.exec_bind, Action.exec_get]
  generalize (if s.settings.catches e = true then _ else _) = caught
  rcases caught with _ | ⟨⟨k, _ | handler⟩, below⟩ <;> rfl

/-- The loop answers a step and makes the transition for the outcome. -/
theorem exec_loop_succ (run : Function → Arguments → Action Value) (fuel : Nat) (step : Step)
    (frames : BoundedStack Frame) (s : Session) :
    (loop run (fuel + 1) step frames).exec s =
      match (answer run step).attempt.exec s with
      | (.ok r, t) => resume (loop run fuel) (next frames t r)
      | (.error i, t) => (.error i, t) := by
  rw [loop, Action.exec_bind]
  rcases (answer run step).attempt.exec s with ⟨i | r, t⟩
  · rfl
  · rcases r with e | v
    · exact exec_unwind_bind _ e frames t
    · cases v with
      | request r =>
        simp only [next_request, Action.exec_bind, exec_pushFrame]
        cases push? ⟨r.continuation, r.handler⟩ frames t with
        | some p => rfl
        | none => exact exec_unwind_bind _ .stackOverflow frames t
      | _ =>
        simp only [next, deliver]
        rcases frames.pop? with _ | ⟨⟨_ | k, h⟩, below⟩ <;> rfl

/-- How the call ends after a transition. -/
def Transition.Leads (run : Function → Arguments → Action Value) (fuel : Nat) (next : Transition)
    (o : Except ScriptError Value) (t : Session) : Prop :=
  resume (loop run fuel) next = (o.mapError .error, t)

@[simp] theorem leads_go_iff {run : Function → Arguments → Action Value} {fuel : Nat}
    {step : Step} {frames : BoundedStack Frame} {s t : Session} {o : Except ScriptError Value} :
    (Transition.go step frames s).Leads run fuel o t ↔ (loop run fuel step frames).Ends s o t :=
  Action.ends_iff_exec_eq.symm

@[simp] theorem leads_stop_iff {run : Function → Arguments → Action Value} {fuel : Nat}
    {s t : Session} {o o' : Except ScriptError Value} :
    (Transition.stop o' s).Leads run fuel o t ↔ o = o' ∧ t = s := by
  cases o <;> cases o' <;> simp [Transition.Leads, resume, eq_comm]

/-- The loop ends as the transition for the outcome of its step leads. -/
theorem ends_loop_succ_iff {run : Function → Arguments → Action Value} {fuel : Nat} {step : Step}
    {frames : BoundedStack Frame} {s t : Session} {o : Except ScriptError Value} :
    (loop run (fuel + 1) step frames).Ends s o t ↔
      ∃ r u, (answer run step).Ends s r u ∧ (next frames u r).Leads run fuel o t := by
  rw [Action.ends_iff_exec_eq, exec_loop_succ]
  constructor
  · intro h
    rcases Action.exec_cases (answer run step) s with ⟨u, hu⟩ | ⟨r, u, hr⟩
    · rw [Action.exec_attempt, hu] at h
      cases o <;> simp at h
    · rw [show (answer run step).attempt.exec s = (.ok r, u) from hr] at h
      exact ⟨r, u, hr, h⟩
  · rintro ⟨r, u, hr, h⟩
    rw [show (answer run step).attempt.exec s = (.ok r, u) from hr]
    exact h

/-! ## What a transition does to the frames and the budget -/

/-- The stack with one more frame. -/
def pushed (frame : Frame) (frames : BoundedStack Frame) : BoundedStack Frame :=
  { frames with newestFirst := frame :: frames.newestFirst }

theorem push?_eq_some {frame : Frame} {frames frames' : BoundedStack Frame} {s t : Session}
    (h : push? frame frames s = some (frames', t)) :
    ∃ depth, s.depth.claim? s.capacity = some depth ∧ frames' = pushed frame frames ∧
      t = { s with depth } := by
  unfold push? at h
  cases hclaim : s.depth.claim? s.capacity with
  | none => simp [hclaim] at h
  | some depth =>
    simp only [hclaim, Option.map_eq_some_iff, Prod.mk.injEq] at h
    obtain ⟨frames'', hpush, rfl, rfl⟩ := h
    unfold BoundedStack.push? at hpush
    split at hpush
    · contradiction
    · obtain rfl := Option.some.inj hpush
      exact ⟨depth, rfl, rfl, rfl⟩

theorem push?_eq_none_of_refused {frames : BoundedStack Frame} {s : Session}
    (hclaim : s.depth.claim? s.capacity = none) (frame : Frame) :
    push? frame frames s = none := by
  simp [push?, hclaim]

theorem length_catching_le (e : ScriptError) (frames : BoundedStack Frame) (s : Session) :
    (catching e frames s).length ≤ frames.length := by
  unfold catching
  split
  · exact (List.dropWhile_sublist _).length_le
  · exact Nat.zero_le _

/-- **An error stops at the newest frame** if that frame has a handler and the error can be
caught. -/
theorem raise_pushed_of_handler {e : ScriptError} {k : Option Function} {handler : Function}
    {frames : BoundedStack Frame} {s : Session} (hcatch : s.settings.catches e = true) :
    raise e (pushed ⟨k, some handler⟩ frames) s =
      .go (.recover handler e.toValue) frames (s.released 1) := by
  have hcaught : catching e (pushed ⟨k, some handler⟩ frames) s =
      ⟨k, some handler⟩ :: frames.newestFirst := by
    simp [catching, hcatch, pushed]
  have hone : (pushed ⟨k, some handler⟩ frames).length - frames.newestFirst.length = 1 :=
    Nat.add_sub_cancel_left frames.newestFirst.length 1
  simp only [raise, hcaught, hone]
  rfl

/-- **An error passes the newest frame** if that frame has no handler or nothing catches the
error; the frame is given up. -/
theorem raise_pushed {e : ScriptError} {frame : Frame} {frames : BoundedStack Frame} {s : Session}
    (h : frame.handler = none ∨ s.settings.catches e = false) :
    raise e (pushed frame frames) s = raise e frames (s.released 1) := by
  -- The frame is skipped in the search for a handler, or there is no search ...
  have hcaught : catching e (pushed frame frames) s = catching e frames (s.released 1) := by
    unfold catching pushed
    rw [show (s.released 1).settings = s.settings from rfl]
    rcases h with h | h <;> simp [h]
  -- ... and its unit is given back together with those of the frames below, or before them.
  have hle := length_catching_le e frames (s.released 1)
  have hlength : (pushed frame frames).length = 1 + frames.length := Nat.add_comm _ _
  unfold raise
  rw [hcaught]
  split
  · rename_i below hbelow
    rw [hbelow, List.length_cons] at hle
    rw [Session.released_released, hlength, Nat.add_sub_assoc (by omega)]
    rfl
  · rw [Session.released_released, hlength]

/-- **Pending frames are counted**: in control is what was when the stack was empty, with one unit
for each frame on it; and the stack is as large as the budget. -/
structure Holds (base : Control) (frames : BoundedStack Frame) (s : Session) : Prop where
  control_eq : s.control = base.holding frames.length
  capacity_eq : frames.capacity = base.capacity

theorem holds_new (s : Session) : Holds s.control (.new s.capacity) s := ⟨rfl, rfl⟩

section

variable {base : Control} {frames : BoundedStack Frame} {s t : Session}

theorem Holds.congr (h : Holds base frames s) (hcontrol : t.control = s.control) :
    Holds base frames t :=
  ⟨hcontrol.trans h.control_eq, h.capacity_eq⟩

theorem Holds.frames_eq (h : Holds base frames s) :
    s.depth.frames = base.depth.frames + frames.length :=
  congrArg (fun c => c.depth.frames) h.control_eq

theorem Holds.stack_capacity (h : Holds base frames s) : frames.capacity = s.capacity :=
  h.capacity_eq.trans (congrArg Control.capacity h.control_eq).symm

theorem Holds.claimed {depth : CallDepth} (h : Holds base frames s)
    (hclaim : s.depth.claim? s.capacity = some depth) (frame : Frame) :
    Holds base (pushed frame frames) { s with depth } := by
  obtain ⟨-, rfl⟩ := CallDepth.claim?_eq_some_iff.mp hclaim
  refine ⟨?_, h.capacity_eq⟩
  show Control.holding s.control 1 = _
  rw [h.control_eq, Control.holding_holding]
  rfl

/-- Frames that are taken off the stack give back their units. -/
theorem Holds.released {n : Nat} {below : List Frame} (h : Holds base frames s)
    (hn : n + below.length = frames.length) :
    Holds base { frames with newestFirst := below } (s.released n) := by
  refine ⟨?_, h.capacity_eq⟩
  rw [Session.control_released, h.control_eq, ← hn, Nat.add_comm, Control.release_holding]
  rfl

/-- The stack has room for a frame the budget allows. -/
theorem Holds.stack_push?_eq {depth : CallDepth} (h : Holds base frames s)
    (hclaim : s.depth.claim? s.capacity = some depth) (frame : Frame) :
    frames.push? frame = some (pushed frame frames) := by
  obtain ⟨hle, -⟩ := CallDepth.claim?_eq_some_iff.mp hclaim
  have hlt : ¬ frames.capacity ≤ frames.length := by
    have hframes := h.frames_eq
    rw [h.stack_capacity]
    simp only [CallDepth.inUse, CallDepth.claimed] at hle
    omega
  exact if_neg hlt

theorem Holds.push?_eq {depth : CallDepth} (h : Holds base frames s)
    (hclaim : s.depth.claim? s.capacity = some depth) (frame : Frame) :
    push? frame frames s = some (pushed frame frames, { s with depth }) := by
  simp [push?, hclaim, h.stack_push?_eq hclaim]

end

/-- What a transition leaves in control: with frames pending, the frames are counted; when the call
is over, nothing is left of them. -/
def Transition.Keeps (base : Control) : Transition → Prop
  | .go _ frames s => Holds base frames s
  | .stop _ s => s.control = base

section

variable {base : Control} {frames : BoundedStack Frame} {s : Session}

theorem keeps_raise (h : Holds base frames s) (e : ScriptError) :
    (raise e frames s).Keeps base := by
  have hle := length_catching_le e frames s
  unfold raise
  split
  · rename_i below hbelow
    rw [hbelow, List.length_cons] at hle
    exact h.released (by omega)
  · have hempty : Holds base { frames with newestFirst := [] } (s.released frames.length) :=
      h.released rfl
    exact hempty.control_eq

theorem keeps_deliver (h : Holds base frames s) (v : Value) : (deliver v frames s).Keeps base := by
  obtain ⟨capacity, _ | ⟨⟨_ | k, handler⟩, below⟩⟩ := frames
  · exact h.control_eq
  all_goals exact h.released (Nat.add_comm 1 below.length)

/-- **A transition keeps account of the frames.** -/
theorem keeps_next (h : Holds base frames s) (r : Except ScriptError Value) :
    (next frames s r).Keeps base := by
  rcases r with e | v
  · exact keeps_raise h e
  rcases v.request_or_isFinal with ⟨r, rfl⟩ | hv
  · rw [next_request]
    split
    · rename_i frames' t hpush
      obtain ⟨depth, hclaim, rfl, rfl⟩ := push?_eq_some hpush
      exact h.claimed hclaim _
    · exact keeps_raise h .stackOverflow
  · rw [next_final hv]
    exact keeps_deliver h v

end

end Trampoline

end ScriptHost
