import ScriptHost.Proofs.Balance

/-!
# Runs under a disguise

Two sessions that differ by a disguise go through the same calls: what functions do themselves is
calm, and the loop and the entries around them look at nothing that a disguise changes, with one
exception. How errors leave the outermost call matters when they leave it, and so that disguise is
seen through where no entry is active. This is said once here for all disguises.

## Main definitions

* `Disguise.Hides`: while what depth of calls a disguise is not noticed.
* `Disguise.Respects`: what runs may do to the methods.
* `Action.Indifferent`: an action does the same under a disguise.

## Main results

* `Reentrant.indifferent`: what a function does is indifferent if the ways back into the script are.
* `Trampoline.exec_loop_under`: the loop is indifferent.
* `Session.indifferent_enter`: entries are indifferent.
-/

namespace ScriptHost

namespace Disguise

/-- **Where a disguise is not noticed**: another choice for the errors that leave the outermost call
is noticed where no entry is active, and the others are noticed nowhere. -/
def Hides : Disguise → CallDepth → Prop
  | rethrow _, depth => depth.entries ≠ 0
  | reflection, _ | earlier _, _ => True

/-- What runs may do to the methods, as far as a disguise is about them. -/
def Respects : Disguise → Session → Session → Prop
  | rethrow _, _, _ | earlier _, _, _ => True
  | reflection, s, t => s.Advances t

variable {d : Disguise}

theorem Hides.of_entries_eq {depth depth' : CallDepth} (h : d.Hides depth)
    (hentries : depth'.entries = depth.entries) : d.Hides depth' := by
  cases d with
  | rethrow b =>
    intro hzero
    exact h (hentries.symm.trans hzero)
  | reflection | earlier _ => trivial

/-- Inside an entry no disguise is noticed. -/
theorem hides_of_enter? {depth entered : CallDepth} {capacity : Nat}
    (h : depth.enter? capacity = some entered) : d.Hides entered := by
  obtain ⟨-, rfl⟩ := CallDepth.enter?_eq_some_iff.mp h
  cases d with
  | rethrow b => exact Nat.succ_ne_zero _
  | reflection | earlier _ => trivial

theorem Respects.of_advances {s t : Session} (h : s.Advances t) : d.Respects s t := by
  cases d with
  | rethrow _ | earlier _ => trivial
  | reflection => exact h

theorem Respects.trans {s t u : Session} (h : d.Respects s t) (h' : d.Respects t u) :
    d.Respects s u := by
  cases d with
  | rethrow _ | earlier _ => trivial
  | reflection => exact Session.Advances.trans h h'

/-- Where an entry is active, or the disguise is another one, the outermost call treats errors
alike. -/
theorem Hides.rethrows_eq {depth : CallDepth} (h : d.Hides depth) (s : Session) :
    (depth.isIdle && (s.under d).settings.rethrowNested) =
      (depth.isIdle && s.settings.rethrowNested) := by
  cases d with
  | rethrow b =>
    have hidle : depth.isIdle = false := by simpa [CallDepth.isIdle, Hides] using h
    rw [hidle, Bool.false_and, Bool.false_and]
  | reflection | earlier _ => rfl

end Disguise

theorem Session.advances_of_methods_eq {s t : Session} (h : t.methods = s.methods) :
    s.Advances t := by
  intro id slot hslot
  refine ⟨slot, ?_, Or.inl rfl⟩
  unfold method? at hslot ⊢
  rw [h]
  exact hslot

namespace Action

variable {α β : Type} {d : Disguise}

/-- **Indifferent actions** are balanced, and where a disguise is not to be noticed they do the same
under it. -/
structure Indifferent (d : Disguise) (a : Action α) : Prop where
  balanced : a.Balanced
  respects : ∀ s, d.Respects s (a.exec s).2
  exec_eq : ∀ s, d.Hides s.depth → a.exec (s.under d) = ((a.exec s).1, (a.exec s).2.under d)

theorem Calm.indifferent {a : Action α} (h : a.Calm) : a.Indifferent d :=
  ⟨h.quiet.balanced, fun s => .of_advances (h.advances s), fun s _ => h.ignores s d⟩

theorem Quiet.indifferent {a : Action α} (h : a.Quiet) (b : Bool) : a.Indifferent (.rethrow b) :=
  ⟨h.balanced, fun _ => trivial, fun s _ => h.exec_withRethrow s b⟩

theorem Indifferent.exhausted : (throw .exhausted : Action α).Indifferent d :=
  ⟨fun _ _ _ h => absurd h not_ends_exhausted, fun s => .of_advances (.refl s), fun _ _ => rfl⟩

theorem Indifferent.bind {a : Action α} {f : α → Action β} (ha : a.Indifferent d)
    (hf : ∀ x, (f x).Indifferent d) : (a >>= f).Indifferent d := by
  refine ⟨ha.balanced.bind fun x => (hf x).balanced, fun s => ?_, fun s hs => ?_⟩
  · have hrespects := ha.respects s
    rw [exec_bind]
    rcases hexec : a.exec s with ⟨i | x, t⟩ <;> rw [hexec] at hrespects
    · exact hrespects
    · exact hrespects.trans ((hf x).respects t)
  · rw [exec_bind, exec_bind, ha.exec_eq s hs]
    rcases hexec : a.exec s with ⟨i | x, t⟩
    · rfl
    · -- The second action starts with the entries that the first one started with.
      have hdepth := Session.depth_eq_of_control_eq (ha.balanced (ends_ok_iff.mpr hexec))
      exact (hf x).exec_eq t (hs.of_entries_eq (congrArg CallDepth.entries hdepth))

theorem Indifferent.get {f : Session → Action β} (hf : ∀ s, (f s).Indifferent d)
    (hread : ∀ s : Session, f (s.under d) = f s) : (get >>= f : Action β).Indifferent d := by
  refine ⟨Balanced.get fun s => (hf s).balanced, fun s => (hf s).respects s, fun s hs => ?_⟩
  rw [exec_bind_of_ok (exec_get _), exec_bind_of_ok (exec_get s), hread s]
  exact (hf s).exec_eq s hs

theorem Indifferent.attempt {a : Action α} (h : a.Indifferent d) : a.attempt.Indifferent d := by
  refine ⟨fun s o t ha => ?_, fun s => ?_, fun s hs => ?_⟩
  · obtain ⟨o', -, ha'⟩ := ends_attempt.mp ha
    exact h.balanced ha'
  · have hrespects := h.respects s
    rw [exec_attempt]
    rcases hexec : a.exec s with ⟨(e | _) | x, t⟩ <;> rw [hexec] at hrespects <;> exact hrespects
  · rw [exec_attempt, exec_attempt, h.exec_eq s hs]
    rcases a.exec s with ⟨(e | _) | x, t⟩ <;> rfl

end Action

open ScriptHost.Action (Indifferent)

/-- Ways back into the script that are indifferent. -/
structure Reentry.Indifferent (d : Disguise) (re : Reentry) : Prop where
  call : ∀ target args, (re.call target args).Indifferent d
  process : ∀ target args, (re.process target args).Indifferent d

/-- What a function does is indifferent if the ways back into the script are. -/
theorem Reentrant.indifferent {α : Type} {body : Reentry → Action α} (h : Reentrant body)
    {d : Disguise} {re : Reentry} (hre : re.Indifferent d) : (body re).Indifferent d := by
  induction h with
  | calm h => exact h.indifferent
  | call target args => exact hre.call target args
  | process target args => exact hre.process target args
  | get _ hread ih => exact Indifferent.get ih fun s => congrFun (hread s d) re
  | bind _ _ iha ihf => exact iha.bind ihf

section

variable {d : Disguise} {run : Function → Arguments → Action Value}

theorem indifferent_invoke (hrun : ∀ f a, (run f a).Indifferent d) (target : Value)
    (args : List Value) : (invoke run target args).Indifferent d := by
  refine ⟨balanced_invoke (fun f a => (hrun f a).balanced) target args, fun s => ?_,
    fun s hs => ?_⟩
  · rw [exec_invoke]
    cases callee s.heap target args with
    | ok fa => exact (hrun fa.1 fa.2).respects s
    | error e => exact .of_advances (.refl s)
  · have hheap : (s.under d).heap = s.heap := rfl
    rw [exec_invoke, exec_invoke, hheap]
    cases callee s.heap target args with
    | ok fa => exact (hrun fa.1 fa.2).exec_eq s hs
    | error e => rfl

namespace Trampoline

theorem indifferent_answer (hrun : ∀ f a, (run f a).Indifferent d) (step : Step) :
    (answer run step).Indifferent d := by
  cases step with
  | call target args => exact indifferent_invoke hrun target args
  | recover handler error =>
    exact (hrun handler _).bind fun v => (Action.Calm.pure _).indifferent
  | deliver v => exact (Action.Calm.pure v).indifferent

/-! ## Transitions under a disguise -/

/-- The transition under a disguise. -/
def Transition.under (d : Disguise) : Transition → Transition
  | .go step frames s => .go step frames (s.under d)
  | .stop o s => .stop o (s.under d)

theorem raise_under (e : ScriptError) (frames : BoundedStack Frame) (s : Session) :
    raise e frames (s.under d) = (raise e frames s).under d := by
  have hcatching : catching e frames (s.under d) = catching e frames s := rfl
  unfold raise
  rw [hcatching]
  split <;> rfl

theorem deliver_under (v : Value) (frames : BoundedStack Frame) (s : Session) :
    deliver v frames (s.under d) = (deliver v frames s).under d := by
  unfold deliver
  split <;> rfl

/-- Where an error is caught does not depend on a disguise, and neither does anything else that
follows an answer. -/
theorem next_under (frames : BoundedStack Frame) (s : Session) (r : Except ScriptError Value) :
    next frames (s.under d) r = (next frames s r).under d := by
  rcases r with e | v
  · exact raise_under e frames s
  rcases v.request_or_isFinal with ⟨r, rfl⟩ | hv
  · have hclaim : (s.under d).depth.claim? (s.under d).capacity = s.depth.claim? s.capacity := rfl
    rw [next_request, next_request]
    unfold push?
    rw [hclaim]
    cases s.depth.claim? s.capacity with
    | none => exact raise_under .stackOverflow frames s
    | some depth =>
      cases frames.push? ⟨r.continuation, r.handler⟩ with
      | none => exact raise_under .stackOverflow frames s
      | some pushed => rfl
  · rw [next_final hv, next_final hv]
    exact deliver_under v frames s

theorem session_raise (e : ScriptError) (frames : BoundedStack Frame) (s : Session) :
    ∃ depth, (raise e frames s).session = { s with depth } := by
  unfold raise
  split <;> exact ⟨_, rfl⟩

/-- Between two answers nothing happens but to the depth of calls. -/
theorem session_next (frames : BoundedStack Frame) (s : Session) (r : Except ScriptError Value) :
    ∃ depth, (next frames s r).session = { s with depth } := by
  rcases r with e | v
  · exact session_raise e frames s
  rcases v.request_or_isFinal with ⟨r, rfl⟩ | hv
  · rw [next_request]
    unfold push?
    cases s.depth.claim? s.capacity with
    | none => exact session_raise .stackOverflow frames s
    | some depth =>
      cases frames.push? ⟨r.continuation, r.handler⟩ with
      | none => exact session_raise .stackOverflow frames s
      | some pushed => exact ⟨depth, rfl⟩
  · rw [next_final hv]
    unfold deliver
    split <;> exact ⟨_, rfl⟩

/-! ## The loop under a disguise -/

theorem respects_loop (hrun : ∀ f a, (run f a).Indifferent d) (fuel : Nat) (step : Step)
    (frames : BoundedStack Frame) (s : Session) :
    d.Respects s ((loop run fuel step frames).exec s).2 := by
  -- An answer may keep plans, the transition after it leaves the methods alone, and so on.
  induction fuel generalizing step frames s with
  | zero => exact .of_advances (.refl s)
  | succ fuel ih =>
    have hanswer := (indifferent_answer hrun step).attempt.respects s
    rw [exec_loop_succ]
    rcases hends : (answer run step).attempt.exec s with ⟨i | r, t⟩ <;> rw [hends] at hanswer
    · exact hanswer
    have hnext : d.Respects t (next frames t r).session := by
      obtain ⟨depth, hdepth⟩ := session_next frames t r
      rw [hdepth]
      exact .of_advances (Session.advances_of_methods_eq rfl)
    show d.Respects s (resume (loop run fuel) (next frames t r)).2
    cases htransition : next frames t r with
    | go step' frames' s' =>
      rw [htransition] at hnext
      exact (hanswer.trans hnext).trans (ih step' frames' s')
    | stop o s' =>
      rw [htransition] at hnext
      exact hanswer.trans hnext

/-- The loop is indifferent, if what functions do is. -/
theorem exec_loop_under (hrun : ∀ f a, (run f a).Indifferent d) {base : Control}
    (hbase : d.Hides base.depth) (fuel : Nat) (step : Step) {frames : BoundedStack Frame}
    {s : Session} (hholds : Holds base frames s) :
    (loop run fuel step frames).exec (s.under d) =
      (((loop run fuel step frames).exec s).1,
        ((loop run fuel step frames).exec s).2.under d) := by
  induction fuel generalizing step frames s with
  | zero => rfl
  | succ fuel ih =>
    have hentries : s.depth.entries = base.depth.entries :=
      congrArg (fun c => c.depth.entries) hholds.control_eq
    have hs : d.Hides s.depth := hbase.of_entries_eq hentries
    have hanswer := indifferent_answer hrun step
    rw [exec_loop_succ, exec_loop_succ, hanswer.attempt.exec_eq s hs]
    rcases hends : (answer run step).attempt.exec s with ⟨i | r, t⟩
    · rfl
    -- The transition is the same in both runs, and keeps account of the frames.
    have hkeeps := keeps_next (hholds.congr (hanswer.balanced hends)) r
    simp only [next_under]
    cases hnext : next frames t r with
    | go step' frames' s' =>
      rw [hnext] at hkeeps
      exact ih step' hkeeps
    | stop o s' => rfl

theorem indifferent_run (hrun : ∀ f a, (run f a).Indifferent d) (fuel : Nat) (target : Value)
    (args : List Value) : (Trampoline.run run fuel target args).Indifferent d := by
  refine ⟨balanced_run (fun f a => (hrun f a).balanced) fuel target args, fun s => ?_,
    fun s hs => ?_⟩
  · exact respects_loop hrun fuel (.call target args) _ s
  · have hbase : d.Hides s.control.depth := hs
    exact exec_loop_under hrun hbase fuel (.call target args) (holds_new s)

end Trampoline

end

namespace Session

variable {process : Value → List Value → Action Value}

/-- What an entry that is let in does: the call it makes, and then it leaves. -/
theorem exec_enter_of_enter? {target : Value} {args : List Value} {s : Session}
    {entered : CallDepth} (hentered : s.depth.enter? s.capacity = some entered) :
    (enter process target args).exec s =
      match (process target args).attempt.exec { s with depth := entered } with
      | (.ok r, u) =>
        (r.mapError fun e =>
          .error (if s.depth.isIdle && u.settings.rethrowNested then rethrown target e else e),
          { u with depth := u.depth.leave })
      | (.error i, u) => (.error i, u) := by
  unfold enter
  rw [Action.exec_bind_of_ok (Action.exec_get s)]
  simp only [hentered]
  rw [Action.exec_bind_of_ok (Action.exec_set _ _), Action.exec_bind]
  rcases (process target args).attempt.exec { s with depth := entered } with ⟨i | r, u⟩
  · rfl
  rcases r with e | v
  · simp only [Action.exec_bind_of_ok (Action.exec_modify _ _), mapError_error]
    rw [Action.exec_bind_of_ok (Action.exec_get _)]
    split <;> rfl
  · rfl

theorem exec_enter_of_refused {target : Value} {args : List Value} {s : Session}
    (hrefused : s.depth.enter? s.capacity = none) :
    (enter process target args).exec s = (.error (.error .stackOverflow), s) := by
  unfold enter
  rw [Action.exec_bind_of_ok (Action.exec_get s), hrefused]
  rfl

/-- **An entry is indifferent** if the call it makes is: it treats errors alike under a disguise
that is not to be noticed where it starts, and what it runs is inside an entry. -/
theorem indifferent_enter {d : Disguise}
    (hprocess : ∀ target args, (process target args).Indifferent d) (target : Value)
    (args : List Value) : (enter process target args).Indifferent d := by
  refine ⟨balanced_enter (fun target args => (hprocess target args).balanced) target args,
    fun s => ?_, fun s hs => ?_⟩
  · cases hentered : s.depth.enter? s.capacity with
    | none =>
      rw [exec_enter_of_refused hentered]
      exact .of_advances (.refl s)
    | some entered =>
      have hcall := (hprocess target args).attempt.respects { s with depth := entered }
      have hbefore : d.Respects s { s with depth := entered } :=
        .of_advances (advances_of_methods_eq rfl)
      rw [exec_enter_of_enter? hentered]
      rcases hexec : (process target args).attempt.exec { s with depth := entered }
        with ⟨i | r, u⟩ <;> rw [hexec] at hcall
      · exact hbefore.trans hcall
      · exact (hbefore.trans hcall).trans (.of_advances (advances_of_methods_eq rfl))
  · -- The call runs inside an entry, where no disguise is noticed; whether its error is changed on
    -- the way out depends on where the entry started.
    have hdepth : (s.under d).depth.enter? (s.under d).capacity = s.depth.enter? s.capacity := rfl
    cases hentered : s.depth.enter? s.capacity with
    | none =>
      rw [exec_enter_of_refused (hdepth.trans hentered), exec_enter_of_refused hentered]
    | some entered =>
      have hcall := (hprocess target args).attempt.exec_eq { s with depth := entered }
        (Disguise.hides_of_enter? hentered)
      have hsame : ({ s.under d with depth := entered } : Session) =
          Session.under { s with depth := entered } d := rfl
      have hidle : (s.under d).depth = s.depth := rfl
      rw [exec_enter_of_enter? (hdepth.trans hentered), exec_enter_of_enter? hentered, hsame,
        hcall]
      rcases (process target args).attempt.exec { s with depth := entered } with ⟨i | r, u⟩
      · rfl
      · simp only [hidle, hs.rethrows_eq]
        rfl

end Session

end ScriptHost
