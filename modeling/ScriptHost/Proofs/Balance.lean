import ScriptHost.Proofs.Reentrant
import ScriptHost.Proofs.Trampoline
import ScriptHost.Module

/-!
# Calls give back what they take

Entries and frames are taken and given back on many paths: refused entries, refused frames, results,
errors on their way to a handler or out of the call, and all of these inside each other. Whenever a
call ends, the counters are as they were when it began.

## Main definitions

* `Action.Balanced`: the control part is the same at the end as at the beginning.

## Main results

* `Reentrant.balanced`: what a function does is balanced if the ways back into the script are.
* `Trampoline.control_of_ends_loop`: the loop settles its pending frames.
* `Session.balanced_process`, `Session.balanced_call`: calls are balanced.
* `Session.depth_restored`: both counters are as before a call.
-/

namespace ScriptHost

namespace Action

variable {α β : Type}

/-- **Balanced actions** have the control part at the end that they had at the beginning. -/
def Balanced (a : Action α) : Prop := ∀ ⦃s o t⦄, a.Ends s o t → t.control = s.control

theorem Quiet.balanced {a : Action α} (h : a.Quiet) : a.Balanced := by
  intro s o t ha
  have hexec := congrArg Prod.snd (ends_iff_exec_eq.mp ha)
  rw [← h.control_eq s, hexec]

theorem Balanced.bind {a : Action α} {f : α → Action β} (ha : a.Balanced)
    (hf : ∀ x, (f x).Balanced) : (a >>= f).Balanced := by
  intro s o t h
  rcases ends_bind_iff.mp h with ⟨x, u, hx, hu⟩ | ⟨e, he, -⟩
  · exact (hf x hu).trans (ha hx)
  · exact ha he

theorem Balanced.get {f : Session → Action β} (hf : ∀ s, (f s).Balanced) :
    (get >>= f : Action β).Balanced := by
  intro s o t h
  exact hf s (ends_get_bind.mp h)

end Action

open ScriptHost.Action (Balanced)

/-- Ways back into the script that give back what they take. -/
structure Reentry.Balanced (re : Reentry) : Prop where
  call : ∀ target args, (re.call target args).Balanced
  process : ∀ target args, (re.process target args).Balanced

/-- What a function does is balanced if the ways back into the script are. -/
theorem Reentrant.balanced {α : Type} {body : Reentry → Action α} (h : Reentrant body)
    {re : Reentry} (hre : re.Balanced) : (body re).Balanced := by
  induction h with
  | calm h => exact h.quiet.balanced
  | call target args => exact hre.call target args
  | process target args => exact hre.process target args
  | get _ _ ih => exact Balanced.get ih
  | bind _ _ iha ihf => exact iha.bind ihf

section

variable {run : Function → Arguments → Action Value}

theorem balanced_invoke (hrun : ∀ f a, (run f a).Balanced) (target : Value) (args : List Value) :
    (invoke run target args).Balanced := by
  intro s o t h
  rcases ends_invoke_iff.mp h with ⟨f, a, -, hf⟩ | ⟨e, -, -, rfl⟩
  · exact hrun f a hf
  · rfl

theorem Trampoline.balanced_answer (hrun : ∀ f a, (run f a).Balanced) (step : Step) :
    (answer run step).Balanced := by
  cases step with
  | call target args => exact balanced_invoke hrun target args
  | recover handler error => exact (hrun handler _).bind fun v => (Action.Quiet.pure _).balanced
  | deliver v => exact (Action.Quiet.pure v).balanced

/-- The loop settles its pending frames: when it ends, their units have been given back and
nothing else has changed. -/
theorem Trampoline.control_of_ends_loop (hrun : ∀ f a, (run f a).Balanced) {fuel : Nat}
    {step : Step} {base : Control} {frames : BoundedStack Frame} {s t : Session}
    {o : Except ScriptError Value} (h : (loop run fuel step frames).Ends s o t)
    (hholds : Holds base frames s) : t.control = base := by
  induction fuel generalizing step frames s with
  | zero => exact absurd h Action.not_ends_exhausted
  | succ fuel ih =>
    obtain ⟨r, u, hr, hnext⟩ := ends_loop_succ_iff.mp h
    -- The answer changes nothing in control, and the transition keeps account of the frames.
    have hkeeps := keeps_next (hholds.congr (balanced_answer hrun step hr)) r
    cases hn : next frames u r with
    | go step' frames' s' =>
      rw [hn] at hnext hkeeps
      exact ih (leads_go_iff.mp hnext) hkeeps
    | stop o' s' =>
      rw [hn] at hnext hkeeps
      rw [(leads_stop_iff.mp hnext).2]
      exact hkeeps

theorem Trampoline.balanced_run (hrun : ∀ f a, (run f a).Balanced) (fuel : Nat) (target : Value)
    (args : List Value) : (Trampoline.run run fuel target args).Balanced := by
  intro s o t h
  exact control_of_ends_loop hrun (Action.ends_get_bind.mp h) (holds_new s)

end

namespace Session

/-- An entry that is let in ends as the call it makes, with the entry counted off again. -/
theorem ends_enter_of_enter? {process : Value → List Value → Action Value} {target : Value}
    {args : List Value} {s t : Session} {o : Except ScriptError Value} {entered : CallDepth}
    (hentered : s.depth.enter? s.capacity = some entered) :
    (enter process target args).Ends s o t ↔
      ∃ r u, (process target args).Ends { s with depth := entered } r u ∧
        t = { u with depth := u.depth.leave } ∧
        o = r.mapError fun e =>
          if s.depth.isIdle && u.settings.rethrowNested then rethrown target e else e := by
  unfold enter
  rw [Action.ends_get_bind]
  simp only [hentered]
  rw [Action.ends_bind_of_exec (Action.exec_set _ _), Action.ends_attempt_bind_iff]
  refine exists_congr fun r => exists_congr fun u => and_congr_right fun _ => ?_
  rw [Action.ends_bind_of_exec (Action.exec_modify _ _)]
  cases r with
  | ok v => simp [and_comm]
  | error e =>
    simp only [Action.ends_get_bind]
    split <;> simp_all [and_comm]

/-- An entry is balanced if the call it makes is. -/
theorem balanced_enter {process : Value → List Value → Action Value}
    (hprocess : ∀ target args, (process target args).Balanced) (target : Value)
    (args : List Value) : (enter process target args).Balanced := by
  intro s o t h
  cases hentered : s.depth.enter? s.capacity with
  | none =>
    unfold enter at h
    rw [Action.ends_get_bind, hentered, Action.ends_fail] at h
    rw [h.2]
  | some entered =>
    obtain ⟨r, u, hr, rfl, -⟩ := (ends_enter_of_enter? hentered).mp h
    -- The call leaves the entry counted, and leaving takes it off.
    have hcontrol := hprocess target args hr
    show ({ u.control with depth := u.control.depth.leave } : Control) = s.control
    rw [hcontrol]
    show Control.mk s.capacity entered.leave s.settings = s.control
    rw [CallDepth.leave_of_enter? hentered]
    rfl

theorem balanced_reentryOf {process : Value → List Value → Action Value}
    (hprocess : ∀ target args, (process target args).Balanced) :
    (reentryOf process).Balanced :=
  ⟨balanced_enter hprocess, hprocess⟩

/-- Calls are balanced, however deep the functions they run get back into the script. -/
theorem balanced_process (fuel : Nat) (target : Value) (args : List Value) :
    (process fuel target args).Balanced := by
  -- Functions get back into the script with fewer steps, so that is where the hypothesis applies.
  induction fuel generalizing target args with
  | zero => exact fun _ _ _ h => absurd h Action.not_ends_exhausted
  | succ fuel ih =>
    have hrun (f : Function) (a : Arguments) : (f.run (reentryOf (process fuel)) a).Balanced :=
      (reentrant_run f a).balanced (balanced_reentryOf ih)
    exact Trampoline.balanced_run hrun fuel target args

theorem balanced_reentry (fuel : Nat) : (reentry fuel).Balanced :=
  balanced_reentryOf (balanced_process fuel)

/-- What a function does in a call is balanced. -/
theorem balanced_run (fuel : Nat) (f : Function) (a : Arguments) :
    (f.run (reentry fuel) a).Balanced :=
  (reentrant_run f a).balanced (balanced_reentry fuel)

theorem balanced_call (fuel : Nat) (target : Value) (args : List Value) :
    (call fuel target args).Balanced :=
  (balanced_reentry fuel).call target args

/-- **Call depth is restored**: whenever a call ends, with a value or with an error, both counters
are as they were before it. -/
theorem depth_restored {fuel : Nat} {target : Value} {args : List Value} {s t : Session}
    {o : Except ScriptError Value}
    (h : (call fuel target args).Ends s o t ∨ (process fuel target args).Ends s o t) :
    t.depth = s.depth := by
  rcases h with h | h
  · exact depth_eq_of_control_eq (balanced_call fuel target args h)
  · exact depth_eq_of_control_eq (balanced_process fuel target args h)

/-- Under protection, a function gets back into the script with the budget spent: the entry is
refused, the error goes to the handler, and the counters are as before. -/
theorem depth_restored_after_overflow :
    ∃ t, (call 5 (.function ⟨2, "pcall", .builtin .pcall⟩)
        [.function ⟨3, "f", .program (.call (.argument 0) [])⟩]).Ends (bare 1)
        (.ok (.tuple [.bool false, .string "stack overflow"])) t ∧
      t.depth = (bare 1).depth := by
  obtain ⟨t, ht⟩ : ∃ t, (call 5 (.function ⟨2, "pcall", .builtin .pcall⟩)
      [.function ⟨3, "f", .program (.call (.argument 0) [])⟩]).Ends (bare 1)
      (.ok (.tuple [.bool false, .string "stack overflow"])) t := ⟨_, rfl⟩
  exact ⟨t, ht, depth_restored (Or.inl ht)⟩

end Session

end ScriptHost
