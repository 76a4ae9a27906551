import ScriptHost.Proofs.Reentrant
import ScriptHost.Proofs.Trampoline

/-!
# The bound on the steps

A call that ends within a bound on its steps ends in the same way within every larger bound. So the
bound can be forgotten: a call ends in some way if it does so for some bound, and in no other way.

## Main definitions

* `Reentry.Refines`: the second ways back into the script do what the first do, and may do more.

## Main results

* `Reentrant.refines`: what a function does is refined with the ways back into the script.
* `Trampoline.refines_loop`: the loop is refined by more steps.
* `Session.refines_process`: calls are refined by more steps.
* `Session.ends_process_unique`: a call ends in at most one way, whatever the bound.
-/

namespace ScriptHost

open ScriptHost.Action (Refines)

/-- **Refinement** of the ways back into the script. -/
structure Reentry.Refines (re re' : Reentry) : Prop where
  call : ∀ target args, (re.call target args).Refines (re'.call target args)
  process : ∀ target args, (re.process target args).Refines (re'.process target args)

/-- What a function does is refined with the ways back into the script. -/
theorem Reentrant.refines {α : Type} {body : Reentry → Action α} (h : Reentrant body)
    {re re' : Reentry} (hre : re.Refines re') : (body re).Refines (body re') := by
  induction h with
  | calm _ => exact Refines.refl _
  | call target args => exact hre.call target args
  | process target args => exact hre.process target args
  | get _ _ ih => exact (Refines.refl _).bind ih
  | bind _ _ iha ihf => exact iha.bind ihf

section

variable {run run' : Function → Arguments → Action Value}

theorem refines_invoke (hrun : ∀ f a, (run f a).Refines (run' f a)) (target : Value)
    (args : List Value) : (invoke run target args).Refines (invoke run' target args) := by
  intro s o t h
  rcases ends_invoke_iff.mp h with ⟨f, a, hcallee, hf⟩ | hfail
  · exact ends_invoke_iff.mpr (Or.inl ⟨f, a, hcallee, hrun f a hf⟩)
  · exact ends_invoke_iff.mpr (Or.inr hfail)

namespace Trampoline

theorem refines_answer (hrun : ∀ f a, (run f a).Refines (run' f a)) (step : Step) :
    (answer run step).Refines (answer run' step) := by
  cases step with
  | call target args => exact refines_invoke hrun target args
  | recover handler error => exact (hrun handler _).bind fun v => Refines.refl _
  | deliver v => exact Refines.refl _

/-- The loop is refined by more steps. -/
theorem refines_loop (hrun : ∀ f a, (run f a).Refines (run' f a)) {m n : Nat} (h : m ≤ n)
    (step : Step) (frames : BoundedStack Frame) :
    (loop run m step frames).Refines (loop run' n step frames) := by
  induction m generalizing n step frames with
  | zero => exact Refines.exhausted _
  | succ m ih =>
    obtain ⟨n, rfl⟩ : ∃ k, n = k + 1 := ⟨n - 1, by omega⟩
    intro s o t hloop
    obtain ⟨r, u, hr, hnext⟩ := ends_loop_succ_iff.mp hloop
    refine ends_loop_succ_iff.mpr ⟨r, u, refines_answer hrun step hr, ?_⟩
    cases hn : next frames u r with
    | go step' frames' s' =>
      rw [hn, leads_go_iff] at hnext
      exact leads_go_iff.mpr (ih (Nat.le_of_succ_le_succ h) step' frames' hnext)
    | stop o' s' =>
      rw [hn, leads_stop_iff] at hnext
      exact leads_stop_iff.mpr hnext

theorem refines_run (hrun : ∀ f a, (run f a).Refines (run' f a)) {m n : Nat} (h : m ≤ n)
    (target : Value) (args : List Value) :
    (Trampoline.run run m target args).Refines (Trampoline.run run' n target args) :=
  (Refines.refl get).bind fun s => refines_loop hrun h (.call target args) (.new s.capacity)

end Trampoline

end

namespace Session

theorem refines_enter {process process' : Value → List Value → Action Value}
    (h : ∀ target args, (process target args).Refines (process' target args)) (target : Value)
    (args : List Value) : (enter process target args).Refines (enter process' target args) := by
  refine (Refines.refl get).bind fun s => ?_
  cases s.depth.enter? s.capacity with
  | none => exact Refines.refl _
  | some entered =>
    exact (Refines.refl _).bind fun _ => (h target args).attempt.bind fun r => Refines.refl _

theorem refines_reentryOf {process process' : Value → List Value → Action Value}
    (h : ∀ target args, (process target args).Refines (process' target args)) :
    (reentryOf process).Refines (reentryOf process') :=
  ⟨refines_enter h, h⟩

/-- Calls are refined by more steps. -/
theorem refines_process {m n : Nat} (h : m ≤ n) (target : Value) (args : List Value) :
    (process m target args).Refines (process n target args) := by
  induction m generalizing n target args with
  | zero => exact Refines.exhausted _
  | succ m ih =>
    obtain ⟨n, rfl⟩ : ∃ k, n = k + 1 := ⟨n - 1, by omega⟩
    have hmn : m ≤ n := Nat.le_of_succ_le_succ h
    have hrun (f : Function) (a : Arguments) :
        (f.run (reentryOf (process m)) a).Refines (f.run (reentryOf (process n)) a) :=
      (reentrant_run f a).refines (refines_reentryOf (ih hmn))
    exact Trampoline.refines_run hrun hmn target args

/-- Functions are refined by more steps for the calls back into the script. -/
theorem refines_functionRun {m n : Nat} (h : m ≤ n) (f : Function) (a : Arguments) :
    (f.run (reentry m) a).Refines (f.run (reentry n) a) :=
  (reentrant_run f a).refines (refines_reentryOf (refines_process h))

/-- A call ends in at most one way, whatever the bound. -/
theorem ends_process_unique {m n : Nat} {target : Value} {args : List Value} {s t t' : Session}
    {o o' : Except ScriptError Value} (h : (process m target args).Ends s o t)
    (h' : (process n target args).Ends s o' t') : o = o' ∧ t = t' :=
  (refines_process (Nat.le_max_left m n) target args h).unique
    (refines_process (Nat.le_max_right m n) target args h')

end Session

end ScriptHost
