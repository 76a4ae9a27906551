import ScriptHost.Proofs.Balance
import ScriptHost.Proofs.Fuel

/-!
# Calls by direct recursion

A call that is requested can be evaluated where it is requested: claim a frame, evaluate the call,
give the frame back, and go on with the continuation, the handler, or the outcome itself. This
recursion keeps no stack of frames. The trampoline does the same with one.

## Main definitions

* `Direct.settle`, `Direct.evaluate`: direct evaluation of an answer and of a call.
* `Direct.Evaluates`: direct evaluation by rules.
* `Session.direct`: calls by direct recursion, back into the script as well.

## Main results

* `Trampoline.ends_loop_of_evaluates`, `Trampoline.evaluates_of_ends_loop`: with frames pending, the
  loop evaluates its step directly and then makes the transition for the outcome.
* `Session.ends_process_iff_evaluates`: a call ends as it is evaluated.
* `Session.process_iff_direct`: a call ends by way of the trampoline as it does by direct recursion.
-/

namespace ScriptHost

namespace Direct

section

variable (run : Function → Arguments → Action Value)

/-- **Direct evaluation of an answer**: a value is the result; a requested call is evaluated with a
frame claimed, and its outcome goes to the continuation or the handler once the frame is given back.
`fuel` bounds the depth of the recursion. -/
def settle : Nat → Value → Action Value
  | 0, _ => throw .exhausted
  | fuel + 1, .request r => do
    if ← Trampoline.claimFrame then
      let outcome ← (do settle fuel (← invoke run r.target r.args)).attempt
      -- The frame is gone before anyone hears of the outcome.
      Trampoline.releaseFrames 1
      match outcome with
      | .ok v =>
        match r.continuation with
        | some k => settle fuel (← invoke run (.function k) [v.first])
        | none => return v
      | .error e =>
        match r.handler with
        | some handler =>
          if (← get).settings.catches e then
            -- Only the handler's own answer is marked, not what a request of it comes to.
            settle fuel (markFailed (← run handler (.ofList [e.toValue] false)))
          else Action.fail e
        | none => Action.fail e
    -- With the budget spent there is no frame, so the handler of this request is not asked.
    else Action.fail .stackOverflow
  | _ + 1, v => return v

/-- **Direct evaluation of a call.** -/
def evaluate (fuel : Nat) (target : Value) (args : List Value) : Action Value := do
  settle run fuel (← invoke run target args)

end

end Direct

/-- A call by direct recursion, with a bound on its depth. Functions get back into the script in
the same way. -/
def Session.direct : Nat → Value → List Value → Action Value
  | 0, _, _ => throw .exhausted
  | fuel + 1, target, args =>
    let re := reentryOf fun target args => direct fuel target args
    Direct.evaluate (Function.run re) fuel target args

namespace Direct

variable {run run' : Function → Arguments → Action Value}

/-- Direct evaluation of a step of the trampoline. -/
def eval (run : Function → Arguments → Action Value) (fuel : Nat) (step : Step) : Action Value := do
  settle run fuel (← Trampoline.answer run step)

/-- What the frame of a request makes of the outcome of its call: another step, or nothing. -/
def follow (frame : Frame) (s : Session) : Except ScriptError Value → Option Step
  | .ok v => frame.continuation.map fun k => .call (.function k) [v.first]
  | .error e =>
    if s.settings.catches e then frame.handler.map fun handler => .recover handler e.toValue
    else none

/-- How direct evaluation goes on with the outcome of a requested call. -/
def proceed (run : Function → Arguments → Action Value) (fuel : Nat) (frame : Frame) (s : Session)
    (r : Except ScriptError Value) : Action Value :=
  match follow frame s r with
  | some step => eval run fuel step
  | none => Action.ofExcept r

theorem settle_final {v : Value} (hv : v.IsFinal) (fuel : Nat) :
    settle run (fuel + 1) v = pure v := by
  cases v with
  | request r => exact absurd rfl (hv r)
  | _ => rfl

/-- A request with the budget spent ends with the overflow, which its own handler does not see. -/
theorem ends_settle_request_of_refused {fuel : Nat} {r : Request} {s t : Session}
    {o : Except ScriptError Value} (hclaim : s.depth.claim? s.capacity = none) :
    (settle run (fuel + 1) (.request r)).Ends s o t ↔ o = .error .stackOverflow ∧ t = s := by
  have hexec : Trampoline.claimFrame.exec s = (.ok false, s) := by
    rw [Trampoline.exec_claimFrame, hclaim]
  rw [settle, Action.ends_bind_of_exec hexec]
  simp

/-- A request is evaluated with its frame claimed, and goes on with the frame given back. -/
theorem ends_settle_request_of_claimed {fuel : Nat} {r : Request} {s t : Session}
    {o : Except ScriptError Value} {depth : CallDepth}
    (hclaim : s.depth.claim? s.capacity = some depth) :
    (settle run (fuel + 1) (.request r)).Ends s o t ↔
      ∃ r' u, (eval run fuel (.call r.target r.args)).Ends { s with depth } r' u ∧
        (proceed run fuel ⟨r.continuation, r.handler⟩ u r').Ends (u.released 1) o t := by
  have hexec : Trampoline.claimFrame.exec s = (.ok true, { s with depth }) := by
    rw [Trampoline.exec_claimFrame, hclaim]
  rw [settle, Action.ends_bind_of_exec hexec]
  simp only [if_true]
  rw [Action.ends_attempt_bind_iff]
  refine exists_congr fun r' => exists_congr fun u => and_congr_right fun _ => ?_
  rw [Action.ends_bind_of_exec (Trampoline.exec_releaseFrames 1 u)]
  -- What is left is the frame's choice, once for the handler and once for the continuation.
  unfold proceed follow
  rcases r' with e | v
  · rcases r.handler with _ | handler
    · simp [Action.ofExcept]
    · have hsettings : (u.released 1).settings = u.settings := rfl
      simp only [Action.ends_get_bind, hsettings]
      cases u.settings.catches e with
      | true => simp [eval, Trampoline.answer]
      | false => exact Iff.rfl
  · rcases r.continuation with _ | k
    · exact Iff.rfl
    · exact Iff.rfl

/-! ## Direct evaluation by rules -/

/-- **How a step is evaluated**, by rules, with a bound on the depth of the derivation. -/
inductive Evaluates (run : Function → Arguments → Action Value) :
    Nat → Step → Session → Except ScriptError Value → Session → Prop
  | failed {n : Nat} {step : Step} {s t : Session} {e : ScriptError}
      (hanswer : (Trampoline.answer run step).Ends s (.error e) t) :
      Evaluates run n step s (.error e) t
  | value {n : Nat} {step : Step} {s t : Session} {v : Value}
      (hanswer : (Trampoline.answer run step).Ends s (.ok v) t) (hv : v.IsFinal) :
      Evaluates run (n + 1) step s (.ok v) t
  /-- The budget is spent. -/
  | refused {n : Nat} {step : Step} {s t : Session} {r : Request}
      (hanswer : (Trampoline.answer run step).Ends s (.ok (.request r)) t)
      (hclaim : t.depth.claim? t.capacity = none) :
      Evaluates run (n + 1) step s (.error .stackOverflow) t
  /-- The outcome of the requested call goes to the continuation or the handler. -/
  | followed {n : Nat} {step step' : Step} {s t u u' : Session} {r : Request} {depth : CallDepth}
      {o o' : Except ScriptError Value}
      (hanswer : (Trampoline.answer run step).Ends s (.ok (.request r)) u)
      (hclaim : u.depth.claim? u.capacity = some depth)
      (hcall : Evaluates run n (.call r.target r.args) { u with depth } o' u')
      (hfollow : follow ⟨r.continuation, r.handler⟩ u' o' = some step')
      (hstep : Evaluates run n step' (u'.released 1) o t) : Evaluates run (n + 1) step s o t
  /-- The outcome of the requested call is the outcome. -/
  | passed {n : Nat} {step : Step} {s u u' : Session} {r : Request} {depth : CallDepth}
      {o : Except ScriptError Value}
      (hanswer : (Trampoline.answer run step).Ends s (.ok (.request r)) u)
      (hclaim : u.depth.claim? u.capacity = some depth)
      (hcall : Evaluates run n (.call r.target r.args) { u with depth } o u')
      (hfollow : follow ⟨r.continuation, r.handler⟩ u' o = none) :
      Evaluates run (n + 1) step s o (u'.released 1)

theorem Evaluates.ends {n : Nat} {step : Step} {s t : Session} {o : Except ScriptError Value}
    (h : Evaluates run n step s o t) : (eval run n step).Ends s o t := by
  -- Once a step has given its answer, evaluation is that of the answer.
  have hbind {n step s v u o t} (hanswer : (Trampoline.answer run step).Ends s (.ok v) u)
      (hsettle : (settle run n v).Ends u o t) : (eval run n step).Ends s o t :=
    Action.ends_bind_iff.mpr (Or.inl ⟨v, u, hanswer, hsettle⟩)
  induction h with
  | failed hanswer => exact Action.ends_bind_iff.mpr (Or.inr ⟨_, hanswer, rfl⟩)
  | value hanswer hv =>
    refine hbind hanswer ?_
    rw [settle_final hv]
    exact Action.ends_pure.mpr ⟨rfl, rfl⟩
  | refused hanswer hclaim =>
    exact hbind hanswer ((ends_settle_request_of_refused hclaim).mpr ⟨rfl, rfl⟩)
  | followed hanswer hclaim hcall hfollow hstep ihcall ihstep =>
    refine hbind hanswer ((ends_settle_request_of_claimed hclaim).mpr ⟨_, _, ihcall, ?_⟩)
    rw [proceed, hfollow]
    exact ihstep
  | passed hanswer hclaim hcall hfollow ihcall =>
    refine hbind hanswer ((ends_settle_request_of_claimed hclaim).mpr ⟨_, _, ihcall, ?_⟩)
    rw [proceed, hfollow]
    exact Action.ends_ofExcept.mpr ⟨rfl, rfl⟩

theorem evaluates_of_ends {n : Nat} {step : Step} {s t : Session} {o : Except ScriptError Value}
    (h : (eval run n step).Ends s o t) : Evaluates run n step s o t := by
  -- Induction on the depth: both the requested call and what follows it are less deep.
  induction n generalizing step s o t with
  | zero =>
    rcases Action.ends_bind_iff.mp h with ⟨v, u, -, hsettle⟩ | ⟨e, hanswer, rfl⟩
    · exact absurd hsettle Action.not_ends_exhausted
    · exact .failed hanswer
  | succ n ih =>
    rcases Action.ends_bind_iff.mp h with ⟨v, u, hanswer, hsettle⟩ | ⟨e, hanswer, rfl⟩
    · rcases v.request_or_isFinal with ⟨r, rfl⟩ | hv
      · cases hclaim : u.depth.claim? u.capacity with
        | none =>
          obtain ⟨rfl, rfl⟩ := (ends_settle_request_of_refused hclaim).mp hsettle
          exact .refused hanswer hclaim
        | some depth =>
          obtain ⟨o', u', hcall, hproceed⟩ := (ends_settle_request_of_claimed hclaim).mp hsettle
          unfold proceed at hproceed
          cases hfollow : follow ⟨r.continuation, r.handler⟩ u' o' with
          | some step' =>
            rw [hfollow] at hproceed
            exact .followed hanswer hclaim (ih hcall) hfollow (ih hproceed)
          | none =>
            rw [hfollow] at hproceed
            obtain ⟨rfl, rfl⟩ := Action.ends_ofExcept.mp hproceed
            exact .passed hanswer hclaim (ih hcall) hfollow
      · rw [settle_final hv, Action.ends_pure] at hsettle
        obtain ⟨rfl, rfl⟩ := hsettle
        exact .value hanswer hv
    · exact .failed hanswer

/-- Direct evaluation is evaluation by the rules. -/
theorem ends_eval_iff {n : Nat} {step : Step} {s t : Session} {o : Except ScriptError Value} :
    (eval run n step).Ends s o t ↔ Evaluates run n step s o t :=
  ⟨evaluates_of_ends, Evaluates.ends⟩

theorem ends_evaluate_iff {n : Nat} {target : Value} {args : List Value} {s t : Session}
    {o : Except ScriptError Value} :
    (evaluate run n target args).Ends s o t ↔ Evaluates run n (.call target args) s o t := by
  show (eval run n (.call target args)).Ends s o t ↔ _
  exact ends_eval_iff

/-- The outcome of an evaluation is no request. -/
theorem Evaluates.isFinal {n : Nat} {step : Step} {s t : Session} {o : Except ScriptError Value}
    (h : Evaluates run n step s o t) {v : Value} (ho : o = .ok v) : v.IsFinal := by
  induction h with
  | failed | refused => cases ho
  | value _ hv =>
    obtain rfl := Except.ok.inj ho
    exact hv
  | followed _ _ _ _ _ _ ihstep => exact ihstep ho
  | passed _ _ _ _ ihcall => exact ihcall ho

/-- A step whose answer is a value evaluates to it. -/
theorem Evaluates.of_final {n : Nat} {step : Step} {s t u : Session} {v : Value}
    {o : Except ScriptError Value} (h : Evaluates run n step s o t)
    (hanswer : (Trampoline.answer run step).Ends s (.ok v) u) (hv : v.IsFinal) :
    o = .ok v ∧ t = u := by
  cases h with
  | failed ha => cases (ha.unique hanswer).1
  | value ha _ => exact ha.unique hanswer
  | refused ha _ | followed ha _ _ _ _ | passed ha _ _ _ =>
    exact absurd (Except.ok.inj (ha.unique hanswer).1).symm (hv _)

/-- A step whose answer is a request, with the budget left for its frame, evaluates as the request
does. -/
theorem Evaluates.of_request {n : Nat} {step : Step} {s t u : Session} {r : Request}
    {o : Except ScriptError Value} {depth : CallDepth} (h : Evaluates run n step s o t)
    (hanswer : (Trampoline.answer run step).Ends s (.ok (.request r)) u)
    (hclaim : u.depth.claim? u.capacity = some depth) :
    ∃ m o' u', m < n ∧ Evaluates run m (.call r.target r.args) { u with depth } o' u' ∧
      ((∃ step', follow ⟨r.continuation, r.handler⟩ u' o' = some step' ∧
          Evaluates run m step' (u'.released 1) o t) ∨
        follow ⟨r.continuation, r.handler⟩ u' o' = none ∧ o = o' ∧ t = u'.released 1) := by
  -- An action ends in one way only, so the answer of the rule is the given one.
  cases h with
  | failed ha => cases (ha.unique hanswer).1
  | value ha hv => exact absurd (Except.ok.inj (ha.unique hanswer).1) (hv r)
  | refused ha hclaim' =>
    obtain ⟨-, rfl⟩ := ha.unique hanswer
    rw [hclaim] at hclaim'
    cases hclaim'
  | followed ha hclaim' hcall hfollow hstep =>
    obtain ⟨hr, rfl⟩ := ha.unique hanswer
    cases hr
    obtain rfl := Option.some.inj (hclaim.symm.trans hclaim')
    exact ⟨_, _, _, Nat.lt_succ_self _, hcall, Or.inl ⟨_, hfollow, hstep⟩⟩
  | passed ha hclaim' hcall hfollow =>
    obtain ⟨hr, rfl⟩ := ha.unique hanswer
    cases hr
    obtain rfl := Option.some.inj (hclaim.symm.trans hclaim')
    exact ⟨_, _, _, Nat.lt_succ_self _, hcall, Or.inr ⟨hfollow, rfl, rfl⟩⟩

theorem Evaluates.refines (hrun : ∀ f a, (run f a).Refines (run' f a)) {m n : Nat} {step : Step}
    {s t : Session} {o : Except ScriptError Value} (h : Evaluates run m step s o t)
    (hmn : m ≤ n) : Evaluates run' n step s o t := by
  have hanswer {step s o t} (h : (Trampoline.answer run step).Ends s o t) :
      (Trampoline.answer run' step).Ends s o t := Trampoline.refines_answer hrun step h
  induction h generalizing n with
  | failed ha => exact .failed (hanswer ha)
  | value ha hv =>
    obtain ⟨n, rfl⟩ : ∃ k, n = k + 1 := ⟨n - 1, by omega⟩
    exact .value (hanswer ha) hv
  | refused ha hclaim =>
    obtain ⟨n, rfl⟩ : ∃ k, n = k + 1 := ⟨n - 1, by omega⟩
    exact .refused (hanswer ha) hclaim
  | followed ha hclaim _ hfollow _ ihcall ihstep =>
    obtain ⟨n, rfl⟩ : ∃ k, n = k + 1 := ⟨n - 1, by omega⟩
    have hle := Nat.le_of_succ_le_succ hmn
    exact .followed (hanswer ha) hclaim (ihcall hle) hfollow (ihstep hle)
  | passed ha hclaim _ hfollow ihcall =>
    obtain ⟨n, rfl⟩ : ∃ k, n = k + 1 := ⟨n - 1, by omega⟩
    exact .passed (hanswer ha) hclaim (ihcall (Nat.le_of_succ_le_succ hmn)) hfollow

theorem Evaluates.control_eq (hrun : ∀ f a, (run f a).Balanced) {n : Nat} {step : Step}
    {s t : Session} {o : Except ScriptError Value} (h : Evaluates run n step s o t) :
    t.control = s.control := by
  have hanswer {step s o t} (h : (Trampoline.answer run step).Ends s o t) :
      t.control = s.control := Trampoline.balanced_answer hrun step h
  induction h with
  | failed ha | value ha _ | refused ha _ => exact hanswer ha
  | followed ha hclaim _ _ _ ihcall ihstep =>
    have hback := Session.control_released_of_claimed hclaim ihcall
    exact ihstep.trans (hback.trans (hanswer ha))
  | passed ha hclaim _ _ ihcall =>
    exact (Session.control_released_of_claimed hclaim ihcall).trans (hanswer ha)

end Direct

/-! ## The trampoline evaluates directly -/

namespace Trampoline

open Direct

variable {run : Function → Arguments → Action Value} {base : Control}

/-- The newest frame makes of an outcome what it makes of it in direct evaluation. -/
theorem next_pushed_of_follow {frame : Frame} {frames : BoundedStack Frame} {s : Session}
    {o : Except ScriptError Value} {step : Step} (ho : ∀ v, o = .ok v → v.IsFinal)
    (hfollow : follow frame s o = some step) :
    next (pushed frame frames) s o = .go step frames (s.released 1) := by
  obtain ⟨k, handler⟩ := frame
  rcases o with e | v
  · simp only [follow, Option.ite_none_right_eq_some, Option.map_eq_some_iff] at hfollow
    obtain ⟨hcatch, handler, rfl, rfl⟩ := hfollow
    exact raise_pushed_of_handler hcatch
  · simp only [follow, Option.map_eq_some_iff] at hfollow
    obtain ⟨k, rfl, rfl⟩ := hfollow
    exact next_final (ho v rfl) _ _

/-- A value that the newest frame passes on takes one more step, and an error takes none. -/
theorem next_pushed_of_pass {frame : Frame} {frames : BoundedStack Frame} {s : Session}
    {o : Except ScriptError Value} (ho : ∀ v, o = .ok v → v.IsFinal)
    (hpass : follow frame s o = none) :
    (∃ v, o = .ok v ∧ next (pushed frame frames) s o = .go (.deliver v) frames (s.released 1)) ∨
      next (pushed frame frames) s o = next frames (s.released 1) o := by
  obtain ⟨k, handler⟩ := frame
  rcases o with e | v
  · refine Or.inr (raise_pushed ?_)
    simp only [follow, ite_eq_right_iff, Option.map_eq_none_iff] at hpass
    cases hcatch : s.settings.catches e with
    | true => exact Or.inl (hpass hcatch)
    | false => exact Or.inr rfl
  · obtain rfl : k = none := by simpa [follow] using hpass
    exact Or.inl ⟨v, rfl, next_final (ho v rfl) _ _⟩

theorem leads_pushed_of_pass {frame : Frame} {frames : BoundedStack Frame} {s t : Session}
    {o r : Except ScriptError Value} {n : Nat} (hr : ∀ v, r = .ok v → v.IsFinal)
    (hpass : follow frame s r = none) (h : (next frames (s.released 1) r).Leads run n o t) :
    ∃ m ≤ n + 1, (next (pushed frame frames) s r).Leads run m o t := by
  rcases next_pushed_of_pass hr hpass with ⟨v, rfl, hnext⟩ | hnext
  · refine ⟨n + 1, Nat.le_refl _, ?_⟩
    rw [hnext, leads_go_iff]
    exact ends_loop_succ_iff.mpr ⟨.ok v, s.released 1, Action.ends_pure.mpr ⟨rfl, rfl⟩, h⟩
  · exact ⟨n, Nat.le_succ n, hnext ▸ h⟩

theorem leads_of_leads_pushed {frame : Frame} {frames : BoundedStack Frame} {s t : Session}
    {o r : Except ScriptError Value} {n : Nat} (hr : ∀ v, r = .ok v → v.IsFinal)
    (hpass : follow frame s r = none) (h : (next (pushed frame frames) s r).Leads run n o t) :
    ∃ m ≤ n, (next frames (s.released 1) r).Leads run m o t := by
  rcases next_pushed_of_pass hr hpass with ⟨v, rfl, hnext⟩ | hnext
  · rw [hnext, leads_go_iff] at h
    obtain _ | n := n
    · exact absurd h Action.not_ends_exhausted
    · obtain ⟨r, u, hanswer, hleads⟩ := ends_loop_succ_iff.mp h
      obtain ⟨rfl, rfl⟩ := Action.ends_pure.mp hanswer
      exact ⟨n, Nat.le_succ n, hleads⟩
  · exact ⟨n, Nat.le_refl n, hnext ▸ h⟩

theorem next_request_of_claimed {frames : BoundedStack Frame} {s : Session} {depth : CallDepth}
    (hholds : Holds base frames s) (hclaim : s.depth.claim? s.capacity = some depth) (r : Request) :
    next frames s (.ok (.request r)) =
      .go (.call r.target r.args) (pushed ⟨r.continuation, r.handler⟩ frames) { s with depth } := by
  rw [next_request, hholds.push?_eq hclaim]

theorem next_request_of_refused {frames : BoundedStack Frame} {s : Session}
    (hclaim : s.depth.claim? s.capacity = none) (r : Request) :
    next frames s (.ok (.request r)) = next frames s (.error .stackOverflow) := by
  rw [next_request, push?_eq_none_of_refused hclaim, next_error]

/-- Steps of the loop that are enough for an evaluation of a given depth. -/
def enoughSteps : Nat → Nat
  | 0 => 1
  | n + 1 => enoughSteps n + enoughSteps n + 1

theorem enoughSteps_pos (n : Nat) : 0 < enoughSteps n := by
  cases n with
  | zero => exact Nat.one_pos
  | succ n => exact Nat.succ_pos _

/-- The loop goes through an evaluation: from a step that is evaluated, it comes to the
transition for the outcome. -/
theorem ends_loop_of_evaluates (hrun : ∀ f a, (run f a).Balanced) {n m : Nat} {step : Step}
    {frames : BoundedStack Frame} {s t u : Session} {o r : Except ScriptError Value}
    (h : Evaluates run n step s r u) (hholds : Holds base frames s)
    (hnext : (next frames u r).Leads run m o t) :
    (loop run (m + enoughSteps n) step frames).Ends s o t := by
  have hloop {step frames s r u m k} (hanswer : (answer run step).Ends s r u)
      (hnext : (next frames u r).Leads run m o t) (hk : m + 1 ≤ k) :
      (loop run k step frames).Ends s o t :=
    refines_loop (fun f a => .refl _) hk step frames (ends_loop_succ_iff.mpr ⟨r, u, hanswer, hnext⟩)
  -- The pending frames are any that are counted; the evaluation of a request's call adds one.
  induction h generalizing frames m with
  | failed hanswer | value hanswer _ =>
    exact hloop hanswer hnext (Nat.add_le_add_left (enoughSteps_pos _) m)
  | refused hanswer hclaim =>
    rw [← next_request_of_refused hclaim] at hnext
    exact hloop hanswer hnext (Nat.add_le_add_left (enoughSteps_pos _) m)
  | @followed n step step' s t u u' r depth o o' hanswer hclaim hcall hfollow hstep ihcall ihstep =>
    have hholds' := hholds.congr (balanced_answer hrun step hanswer)
    have hback := hholds'.congr
      (Session.control_released_of_claimed hclaim (hcall.control_eq hrun))
    -- Read backwards: what follows leads to the end ...
    have hgo := leads_go_iff.mpr (ihstep hback hnext)
    -- ... the outcome of the requested call leads to what follows ...
    rw [← next_pushed_of_follow (fun v => hcall.isFinal) hfollow] at hgo
    have hrequest := leads_go_iff.mpr (ihcall (hholds'.claimed hclaim _) hgo)
    -- ... and the request leads to its call, with one frame more.
    rw [← next_request_of_claimed hholds' hclaim] at hrequest
    exact hloop hanswer hrequest (by rw [enoughSteps]; omega)
  | @passed n step s u u' r depth o hanswer hclaim hcall hfollow ihcall =>
    have hholds' := hholds.congr (balanced_answer hrun step hanswer)
    -- A frame that lets a value through costs the loop a step of its own.
    obtain ⟨m', hm', hpass⟩ := leads_pushed_of_pass (fun v => hcall.isFinal) hfollow hnext
    have hrequest := leads_go_iff.mpr (ihcall (hholds'.claimed hclaim _) hpass)
    rw [← next_request_of_claimed hholds' hclaim] at hrequest
    have hpos := enoughSteps_pos n
    exact hloop hanswer hrequest (by rw [enoughSteps]; omega)

/-- **The loop evaluates its step**: when it ends, the step has been evaluated and the transition
for the outcome been made. -/
theorem evaluates_of_ends_loop (hrun : ∀ f a, (run f a).Balanced) {fuel : Nat} {step : Step}
    {frames : BoundedStack Frame} {s t : Session} {o : Except ScriptError Value}
    (h : (loop run fuel step frames).Ends s o t) (hholds : Holds base frames s) :
    ∃ r u n, n < fuel ∧ Evaluates run fuel step s r u ∧ (next frames u r).Leads run n o t := by
  -- A requested call and what follows it take their steps one after the other, so the second use
  -- of the hypothesis is at the number of steps that the first has left.
  induction fuel using Nat.strongRecOn generalizing step frames s with
  | ind fuel ih =>
    obtain _ | fuel := fuel
    · exact absurd h Action.not_ends_exhausted
    obtain ⟨r, u, hanswer, hnext⟩ := ends_loop_succ_iff.mp h
    rcases r with e | v
    · exact ⟨.error e, u, fuel, Nat.lt_succ_self _, .failed hanswer, hnext⟩
    rcases v.request_or_isFinal with ⟨r, rfl⟩ | hv
    · cases hclaim : u.depth.claim? u.capacity with
      | none =>
        rw [next_request_of_refused hclaim] at hnext
        exact ⟨_, u, fuel, Nat.lt_succ_self _, .refused hanswer hclaim, hnext⟩
      | some depth =>
        have hholds' := hholds.congr (balanced_answer hrun step hanswer)
        rw [next_request_of_claimed hholds' hclaim, leads_go_iff] at hnext
        -- The requested call, with its frame on the stack ...
        obtain ⟨r', u', n, hn, hcall, hnext'⟩ :=
          ih fuel (Nat.lt_succ_self _) hnext (hholds'.claimed hclaim _)
        have hfinal (v : Value) (hv : r' = .ok v) := hcall.isFinal hv
        cases hfollow : follow ⟨r.continuation, r.handler⟩ u' r' with
        | none =>
          obtain ⟨m, hm, hleads⟩ := leads_of_leads_pushed hfinal hfollow hnext'
          exact ⟨r', _, m, by omega, .passed hanswer hclaim hcall hfollow, hleads⟩
        | some step' =>
          -- ... and what follows it, with the frame off again.
          rw [next_pushed_of_follow hfinal hfollow, leads_go_iff] at hnext'
          have hback := hholds'.congr
            (Session.control_released_of_claimed hclaim (hcall.control_eq hrun))
          obtain ⟨r'', u'', m, hm, hstep, hleads⟩ := ih n (by omega) hnext' hback
          have hstep' := hstep.refines (fun f a => .refl _) (Nat.le_of_lt hn)
          exact ⟨r'', u'', m, by omega, .followed hanswer hclaim hcall hfollow hstep', hleads⟩
    · exact ⟨.ok v, u, fuel, Nat.lt_succ_self _, .value hanswer hv, hnext⟩

theorem next_new {r : Except ScriptError Value} (hr : ∀ v, r = .ok v → v.IsFinal) (capacity : Nat)
    (s : Session) : next (.new capacity) s r = .stop r s := by
  rcases r with e | v
  · have hnone : catching e (.new capacity) s = [] := by
      simp [catching, BoundedStack.new]
    rw [next_error, raise, hnone]
    rfl
  · exact next_final (hr v rfl) _ _

theorem run_refines_evaluate (hrun : ∀ f a, (run f a).Balanced) (n : Nat) (target : Value)
    (args : List Value) :
    (Trampoline.run run n target args).Refines (evaluate run n target args) := by
  intro s o t h
  obtain ⟨r, u, m, -, heval, hnext⟩ :=
    evaluates_of_ends_loop hrun (Action.ends_get_bind.mp h) (holds_new s)
  rw [next_new (fun v => heval.isFinal), leads_stop_iff] at hnext
  obtain ⟨rfl, rfl⟩ := hnext
  exact ends_evaluate_iff.mpr heval

theorem evaluate_refines_run (hrun : ∀ f a, (run f a).Balanced) (n : Nat) (target : Value)
    (args : List Value) :
    (evaluate run n target args).Refines (Trampoline.run run (enoughSteps n) target args) := by
  intro s o t h
  have heval := ends_evaluate_iff.mp h
  have hstop : (next (.new s.capacity) t o).Leads run 0 o t := by
    rw [next_new (fun v => heval.isFinal), leads_stop_iff]
    exact ⟨rfl, rfl⟩
  have hloop := ends_loop_of_evaluates hrun heval (holds_new s) hstop
  rw [Nat.zero_add] at hloop
  exact Action.ends_get_bind.mpr hloop

end Trampoline

theorem Direct.refines_evaluate {run run' : Function → Arguments → Action Value}
    (hrun : ∀ f a, (run f a).Refines (run' f a)) (n : Nat) (target : Value) (args : List Value) :
    (evaluate run n target args).Refines (evaluate run' n target args) :=
  fun _ _ _ h =>
    ends_evaluate_iff.mpr ((ends_evaluate_iff.mp h).refines hrun (Nat.le_refl n))

namespace Session

/-- Every call by way of the trampoline is one by direct recursion. -/
theorem process_refines_direct (n : Nat) (target : Value) (args : List Value) :
    (process n target args).Refines (direct n target args) := by
  induction n generalizing target args with
  | zero => exact Action.Refines.exhausted _
  | succ n ih =>
    have hrun (f : Function) (a : Arguments) :
        (f.run (reentryOf (process n)) a).Refines (f.run (reentryOf (direct n)) a) :=
      (reentrant_run f a).refines (refines_reentryOf ih)
    have htrampoline := Trampoline.run_refines_evaluate (balanced_run n) n target args
    exact htrampoline.trans (Direct.refines_evaluate hrun n target args)

/-- A direct evaluation whose functions get back into the script by way of the trampoline is a call
by way of the trampoline, with more steps. -/
theorem evaluate_refines_process (m n : Nat) (target : Value) (args : List Value) :
    (Direct.evaluate (Function.run (reentry m)) n target args).Refines
      (process (max m (Trampoline.enoughSteps n) + 1) target args) := by
  have hmore := refines_functionRun (Nat.le_max_left m (Trampoline.enoughSteps n))
  have htrampoline := Trampoline.evaluate_refines_run (balanced_run m) n target args
  exact htrampoline.trans (Trampoline.refines_run hmore (Nat.le_max_right _ _) target args)

/-- **A call ends as it is evaluated.** -/
theorem ends_process_iff_evaluates {target : Value} {args : List Value} {s t : Session}
    {o : Except ScriptError Value} :
    (∃ n, (process n target args).Ends s o t) ↔
      ∃ m n, Direct.Evaluates (Function.run (reentry m)) n (.call target args) s o t := by
  constructor
  · rintro ⟨_ | n, h⟩
    · exact absurd h Action.not_ends_exhausted
    · have heval := Trampoline.run_refines_evaluate (balanced_run n) n target args h
      exact ⟨n, n, Direct.ends_evaluate_iff.mp heval⟩
  · rintro ⟨m, n, h⟩
    exact ⟨_, evaluate_refines_process m n target args (Direct.ends_evaluate_iff.mpr h)⟩

/-- Every call by direct recursion is one by way of the trampoline, with more steps. -/
theorem exists_direct_refines_process (n : Nat) :
    ∃ m, ∀ target args, (direct n target args).Refines (process m target args) := by
  induction n with
  | zero => exact ⟨0, fun _ _ => Action.Refines.exhausted _⟩
  | succ n ih =>
    obtain ⟨m, hm⟩ := ih
    refine ⟨max m (Trampoline.enoughSteps n) + 1, fun target args => ?_⟩
    have hrun (f : Function) (a : Arguments) :
        (f.run (reentryOf (direct n)) a).Refines (f.run (reentry m) a) :=
      (reentrant_run f a).refines (refines_reentryOf hm)
    have hdirect := Direct.refines_evaluate hrun n target args
    exact hdirect.trans (evaluate_refines_process m n target args)

/-- **The trampoline is direct recursion**: a call ends by way of it exactly as it ends by direct
recursion, with the same outcome, and leaving the same session: the same counters, and the same
functions called with the same arguments in the same order. -/
theorem process_iff_direct (target : Value) (args : List Value) (s t : Session)
    (o : Except ScriptError Value) :
    (∃ n, (process n target args).Ends s o t) ↔ ∃ n, (direct n target args).Ends s o t := by
  constructor
  · rintro ⟨n, h⟩
    exact ⟨n, process_refines_direct n target args h⟩
  · rintro ⟨n, h⟩
    obtain ⟨m, hm⟩ := exists_direct_refines_process n
    exact ⟨m, hm target args h⟩

end Session

end ScriptHost
