import ScriptHost.Proofs.ProtectedCall

/-!
# Caught failures

When the call of a request fails and the request's frame catches the error, the handler is asked. A
handler says with a leading `true` that it has dealt with the error, and the trampoline turns this
flag to `false` before the answer leaves the protected call. It does so when the handler answers. A
handler may answer with a request of its own; the value that this request comes to later leaves the
protected call as it is.

The statements here forget the bound on the steps, and hold under any pending frames.

## Main definitions

* `Step.Answers`: the answer to a step, a value or a request.
* `Step.Settles`: how a step comes out when its requests are followed.
* `Step.Leaves`: the value that a step hands to the pending frames.

## Main results

* `Step.Settles.leaves`: what a step comes out with is what leaves it.
* `Step.failure_marked_in_answer`: which failures are reported as failed.
-/

namespace ScriptHost

namespace Direct

variable {run : Function → Arguments → Action Value} {handler : Function} {error : Value}
  {s t : Session}

/-- A handler is run on the error, and its answer marked. -/
theorem ends_answer_recover {v : Value}
    (h : (Trampoline.answer run (.call (.function handler) [error])).Ends s (.ok v) t) :
    (Trampoline.answer run (.recover handler error)).Ends s (.ok (markFailed v)) t :=
  Action.ends_bind_iff.mpr (Or.inl ⟨v, t, h, Action.ends_pure.mpr ⟨rfl, rfl⟩⟩)

/-- A handler that answers with a request is evaluated as any other call: a request has no flag
to be turned. -/
theorem Evaluates.recover_of_request {n : Nat} {o : Except ScriptError Value} {w : Session}
    {q : Request} (h : Evaluates run n (.call (.function handler) [error]) s o t)
    (hanswer : (Trampoline.answer run (.call (.function handler) [error])).Ends s
      (.ok (.request q)) w) :
    Evaluates run n (.recover handler error) s o t := by
  have hrecover : (Trampoline.answer run (.recover handler error)).Ends s (.ok (.request q)) w :=
    ends_answer_recover hanswer
  cases h with
  | failed ha => cases (ha.unique hanswer).1
  | value ha hv => exact absurd (Except.ok.inj (ha.unique hanswer).1) (hv q)
  | refused ha hclaim =>
    obtain ⟨-, rfl⟩ := ha.unique hanswer
    exact .refused hrecover hclaim
  | followed ha hclaim hcall hfollow hstep =>
    obtain ⟨hq, rfl⟩ := ha.unique hanswer
    cases hq
    exact .followed hrecover hclaim hcall hfollow hstep
  | passed ha hclaim hcall hfollow =>
    obtain ⟨hq, rfl⟩ := ha.unique hanswer
    cases hq
    exact .passed hrecover hclaim hcall hfollow

end Direct

namespace Step

open Session (bare balanced_run process reentry refines_functionRun)

/-! ## Steps without a bound -/

/-- **A step is answered** with a value or a request. -/
def Answers (step : Step) (s : Session) (v : Value) (t : Session) : Prop :=
  ∃ m, (Trampoline.answer (Function.run (reentry m)) step).Ends s (.ok v) t

/-- How a step comes out when the requests that it makes are followed to their end. -/
def Settles (step : Step) (s : Session) (o : Except ScriptError Value) (t : Session) : Prop :=
  ∃ m n, Direct.Evaluates (Function.run (reentry m)) n step s o t

/-- A value leaves a step: whatever frames are pending, the trampoline goes on from the step as
it does when it passes on the value. -/
def Leaves (step : Step) (s : Session) (v : Value) (t : Session) : Prop :=
  ∀ base frames, Trampoline.Holds base frames s → ∀ o u,
    (∃ m n, (Trampoline.loop (Function.run (reentry m)) n step frames).Ends s o u) ↔
      ∃ m n, (Trampoline.loop (Function.run (reentry m)) n (.deliver v) frames).Ends t o u

section

variable {step : Step} {s t t' u : Session} {o o' : Except ScriptError Value} {v v' : Value}

theorem Answers.unique (h : Answers step s v t) (h' : Answers step s v' t') : v = v' ∧ t = t' := by
  obtain ⟨m, h⟩ := h
  obtain ⟨m', h'⟩ := h'
  have hmore := Trampoline.refines_answer (refines_functionRun (Nat.le_max_left m m')) step h
  have hmore' := Trampoline.refines_answer (refines_functionRun (Nat.le_max_right m m')) step h'
  obtain ⟨hv, ht⟩ := hmore.unique hmore'
  exact ⟨Except.ok.inj hv, ht⟩

theorem evaluates_more {m m' n n' : Nat}
    (h : Direct.Evaluates (Function.run (reentry m)) n step s o t) (hm : m ≤ m') (hn : n ≤ n') :
    Direct.Evaluates (Function.run (reentry m')) n' step s o t :=
  h.refines (refines_functionRun hm) hn

theorem Settles.unique (h : Settles step s o t) (h' : Settles step s o' t') :
    o = o' ∧ t = t' := by
  obtain ⟨m, n, h⟩ := h
  obtain ⟨m', n', h'⟩ := h'
  have hmore := evaluates_more h (Nat.le_max_left m m') (Nat.le_max_left n n')
  have hmore' := evaluates_more h' (Nat.le_max_right m m') (Nat.le_max_right n n')
  exact hmore.ends.unique hmore'.ends

theorem settles_of_ends_process {k : Nat} {target : Value} {args : List Value}
    (h : (process k target args).Ends s o t) : Settles (.call target args) s o t :=
  Session.ends_process_iff_evaluates.mp ⟨k, h⟩

/-- A request whose frame makes a step of the outcome of its call comes out as that step. -/
theorem Answers.settles {step' : Step} {r : Request} {depth : CallDepth} {u' : Session}
    (hanswer : Answers step s (.request r) u) (hclaim : u.depth.claim? u.capacity = some depth)
    (hcall : Settles (.call r.target r.args) { u with depth } o' u')
    (hfollow : Direct.follow ⟨r.continuation, r.handler⟩ u' o' = some step')
    (hstep : Settles step' (u'.released 1) o t) : Settles step s o t := by
  obtain ⟨m₁, hanswer⟩ := hanswer
  obtain ⟨m₂, n₂, hcall⟩ := hcall
  obtain ⟨m₃, n₃, hstep⟩ := hstep
  have hanswer' := Trampoline.refines_answer
    (refines_functionRun (show m₁ ≤ max m₁ (max m₂ m₃) by omega)) step hanswer
  have hcall' := evaluates_more hcall (show m₂ ≤ max m₁ (max m₂ m₃) by omega)
    (Nat.le_max_left n₂ n₃)
  have hstep' := evaluates_more hstep (show m₃ ≤ max m₁ (max m₂ m₃) by omega)
    (Nat.le_max_right n₂ n₃)
  exact ⟨_, _, .followed hanswer' hclaim hcall' hfollow hstep'⟩

/-- The loop passes a value on in one step. -/
theorem ends_loop_deliver_iff {run : Function → Arguments → Action Value} {n : Nat}
    {frames : BoundedStack Frame} :
    (Trampoline.loop run (n + 1) (.deliver v) frames).Ends s o t ↔
      (Trampoline.next frames s (.ok v)).Leads run n o t := by
  rw [Trampoline.ends_loop_succ_iff]
  constructor
  · rintro ⟨r, u, hanswer, hnext⟩
    obtain ⟨rfl, rfl⟩ := Action.ends_pure.mp hanswer
    exact hnext
  · exact fun hnext => ⟨.ok v, s, Action.ends_pure.mpr ⟨rfl, rfl⟩, hnext⟩

/-- **What a step comes out with is what leaves it.** -/
theorem Settles.leaves (h : Settles step s (.ok v) t) : Leaves step s v t := by
  intro base frames hholds o u
  constructor
  · rintro ⟨m, n, hloop⟩
    obtain ⟨r, w, k, -, heval, hnext⟩ :=
      Trampoline.evaluates_of_ends_loop (balanced_run m) hloop hholds
    -- The step comes out in one way only.
    obtain ⟨rfl, rfl⟩ := Settles.unique ⟨m, n, heval⟩ h
    exact ⟨m, k + 1, ends_loop_deliver_iff.mpr hnext⟩
  · rintro ⟨m, _ | n, hloop⟩
    · exact absurd hloop Action.not_ends_exhausted
    obtain ⟨m', n', heval⟩ := h
    have hmore := Trampoline.refines_loop (refines_functionRun (Nat.le_max_left m m'))
      (Nat.le_refl (n + 1)) (.deliver v) frames hloop
    have heval' := evaluates_more heval (Nat.le_max_right m m') (Nat.le_refl n')
    exact ⟨_, _, Trampoline.ends_loop_of_evaluates (balanced_run _) heval' hholds
      (ends_loop_deliver_iff.mp hmore)⟩

end

/-! ## What becomes of a handler's answer -/

section

variable {handler : Function} {error v : Value} {s t : Session}

/-- A step comes out with its own answer if it is not answered with a request, and only then. -/
theorem Settles.answers_iff {step : Step} (h : Settles step s (.ok v) t) :
    Answers step s v t ↔ ¬ ∃ q w, Answers step s (.request q) w := by
  obtain ⟨m, n, h⟩ := h
  constructor
  · rintro hvalue ⟨q, w, hrequest⟩
    exact h.isFinal rfl q (hvalue.unique hrequest).1
  · intro hnone
    cases h with
    | value hanswer _ => exact ⟨m, hanswer⟩
    | followed hanswer _ _ _ _ | passed hanswer _ _ _ => exact absurd ⟨_, _, m, hanswer⟩ hnone

/-- An answer is marked if it is a value. -/
theorem Answers.settles_recover (h : Answers (.call (.function handler) [error]) s v t)
    (hv : (markFailed v).IsFinal) :
    Settles (.recover handler error) s (.ok (markFailed v)) t := by
  obtain ⟨m, hanswer⟩ := h
  exact ⟨m, 1, .value (Direct.ends_answer_recover hanswer) hv⟩

/-- What a request comes to is not marked. -/
theorem Settles.recover_of_request {o : Except ScriptError Value} {q : Request} {w : Session}
    (h : Settles (.call (.function handler) [error]) s o t)
    (hrequest : Answers (.call (.function handler) [error]) s (.request q) w) :
    Settles (.recover handler error) s o t := by
  obtain ⟨m, n, h⟩ := h
  obtain ⟨m', hanswer⟩ := hrequest
  have heval := evaluates_more h (Nat.le_max_left m m') (Nat.le_refl n)
  exact ⟨_, n, heval.recover_of_request
    (Trampoline.refines_answer (refines_functionRun (Nat.le_max_right m m')) _ hanswer)⟩

end

/-- **Which failures are reported as failed.** The call of a request fails with an error that the
request's frame catches, and the handler, its requests followed, comes to a tuple that begins with
`true`. If the handler itself has answered with this tuple, what leaves the request is the tuple
with `false` in front. Otherwise the handler has answered with a request, and what leaves is the
tuple as it is. -/
theorem failure_marked_in_answer {step : Step} {s u u' t : Session} {r : Request}
    {handler : Function} {depth : CallDepth} {e : ScriptError} {rest : List Value} {m n : Nat}
    (hanswer : Answers step s (.request r) u) (hhandler : r.handler = some handler)
    (hclaim : u.depth.claim? u.capacity = some depth)
    (hfailed : (process m r.target r.args).Ends { u with depth } (.error e) u')
    (hcatch : u'.settings.catches e = true)
    (hrun : (process n (.function handler) [e.toValue]).Ends (u'.released 1)
      (.ok (.tuple (.bool true :: rest))) t) :
    (Answers (.call (.function handler) [e.toValue]) (u'.released 1)
        (.tuple (.bool true :: rest)) t ↔
      ¬ ∃ q w, Answers (.call (.function handler) [e.toValue]) (u'.released 1) (.request q) w) ∧
    (Answers (.call (.function handler) [e.toValue]) (u'.released 1)
        (.tuple (.bool true :: rest)) t →
      Leaves step s (.ofList (.bool false :: rest)) t ∧
      ((∀ v ∈ rest, v.isTuple = false) → Leaves step s (.tuple (.bool false :: rest)) t)) ∧
    ((∃ q w, Answers (.call (.function handler) [e.toValue]) (u'.released 1) (.request q) w) →
      Leaves step s (.tuple (.bool true :: rest)) t) := by
  have hfollow : Direct.follow ⟨r.continuation, r.handler⟩ u' (.error e) =
      some (.recover handler e.toValue) := by
    simp [Direct.follow, hcatch, hhandler]
  have hsettles := settles_of_ends_process hrun
  have hleaves {v : Value} (h : Settles (.recover handler e.toValue) (u'.released 1) (.ok v) t) :
      Leaves step s v t :=
    (hanswer.settles hclaim (settles_of_ends_process hfailed) hfollow h).leaves
  refine ⟨hsettles.answers_iff, fun hvalue => ?_, ?_⟩
  · have hmarked : Leaves step s (.ofList (.bool false :: rest)) t := by
      apply hleaves
      apply hvalue.settles_recover
      intro q hq
      cases hq
    refine ⟨hmarked, fun hflat => ?_⟩
    rwa [Value.ofList_eq_tuple (List.forall_mem_cons.mpr ⟨rfl, hflat⟩)] at hmarked
  · rintro ⟨q, w, hrequest⟩
    exact hleaves (hsettles.recover_of_request hrequest)

/-- A function that fails. -/
def failing : Function := ⟨2, "g", .program (.raise (.runtime "failed"))⟩

/-- A handler that evaluates a program. -/
def handling (body : Expr) : Function := ⟨3, "handler", .program body⟩

/-- A function that asks for a call that fails, with a handler. -/
def asking (body : Expr) : Function :=
  ⟨9, "f", .program (.request (.function "g" (.raise (.runtime "failed"))) [] .nil
    (.function "handler" body))⟩

/-- A session after some calls, with the stamps below a given one in use. -/
def called (nextStamp : Nat) (depth : CallDepth) (calls : List Invocation) : Session :=
  { bare 1 with heap := { (bare 1).heap with nextStamp }, depth, invocations := calls }

theorem answers_asking (body : Expr) :
    Answers (.call (.function (asking body)) []) (bare 1)
      (.request ⟨4, .function failing, [], none, some (handling body)⟩)
      (called 5 .zero [⟨asking body, .none⟩]) :=
  ⟨0, rfl⟩

theorem ends_failing (calls : List Invocation) :
    (process 2 (.function failing) []).Ends (called 5 ⟨0, 1⟩ calls) (.error (.runtime "failed"))
      (called 5 ⟨0, 1⟩ (⟨failing, .none⟩ :: calls)) :=
  rfl

/-- A handler that answers with a pair. -/
theorem failure_marked_in_answer_of_pair :
    ∃ (s u u' t : Session) (r : Request) (handler : Function) (e : ScriptError) (f : Value),
      Answers (.call f []) s (.request r) u ∧
      r.handler = some handler ∧ u.depth.claim? u.capacity = some ⟨0, 1⟩ ∧
      (process 2 r.target r.args).Ends { u with depth := ⟨0, 1⟩ } (.error e) u' ∧
      u'.settings.catches e = true ∧
      (process 2 (.function handler) [e.toValue]).Ends (u'.released 1)
        (.ok (.tuple [.bool true, .nil])) t ∧
      Leaves (.call f []) s (.tuple [.bool false, .nil]) t := by
  let body : Expr := .tuple [.bool true, .nil]
  let calls : List Invocation := [⟨failing, .none⟩, ⟨asking body, .none⟩]
  have hanswer := answers_asking body
  have hfailed := ends_failing [⟨asking body, .none⟩]
  have hrun : (process 2 (.function (handling body)) [.string "failed"]).Ends (called 5 .zero calls)
      (.ok (.tuple [.bool true, .nil]))
      (called 5 .zero (⟨handling body, ⟨[.string "failed"], false⟩⟩ :: calls)) := rfl
  obtain ⟨-, hvalue, -⟩ := failure_marked_in_answer hanswer rfl rfl hfailed rfl hrun
  exact ⟨_, _, _, _, _, _, _, _, hanswer, rfl, rfl, hfailed, rfl, hrun,
    (hvalue ⟨0, rfl⟩).2 (by simp [Value.isTuple])⟩

/-- **A failure that is reported as success**: the handler answers with a request, which comes to a
pair that begins with `true`, and the protected call comes to the same pair. -/
theorem failure_reported_as_success :
    ∃ (s u u' t : Session) (r : Request) (handler : Function) (e : ScriptError) (f : Value),
      Answers (.call f []) s (.request r) u ∧
      r.handler = some handler ∧ u.depth.claim? u.capacity = some ⟨0, 1⟩ ∧
      (process 2 r.target r.args).Ends { u with depth := ⟨0, 1⟩ } (.error e) u' ∧
      u'.settings.catches e = true ∧
      (process 4 (.function handler) [e.toValue]).Ends (u'.released 1)
        (.ok (.tuple [.bool true, .nil])) t ∧
      ∃ n, (process n f []).Ends s (.ok (.tuple [.bool true, .nil])) t := by
  let body : Expr := .request (.function "k" (.tuple [.bool true, .nil])) [] .nil .nil
  let k : Function := ⟨5, "k", .program (.tuple [.bool true, .nil])⟩
  let calls : List Invocation := [⟨failing, .none⟩, ⟨asking body, .none⟩]
  let calls' : List Invocation := ⟨handling body, ⟨[.string "failed"], false⟩⟩ :: calls
  have hanswer := answers_asking body
  have hfailed := ends_failing [⟨asking body, .none⟩]
  have hrequest : Answers (.call (.function (handling body)) [.string "failed"])
      (called 5 .zero calls) (.request ⟨6, .function k, [], none, none⟩) (called 7 .zero calls') :=
    ⟨0, rfl⟩
  have hrun : (process 4 (.function (handling body)) [.string "failed"]).Ends (called 5 .zero calls)
      (.ok (.tuple [.bool true, .nil])) (called 7 .zero (⟨k, .none⟩ :: calls')) := rfl
  have hrecover := (settles_of_ends_process hrun).recover_of_request hrequest
  have hsettles := hanswer.settles rfl (settles_of_ends_process hfailed) rfl hrecover
  exact ⟨_, _, _, _, _, _, _, _, hanswer, rfl, rfl, hfailed, rfl, hrun,
    Session.ends_process_iff_evaluates.mpr hsettles⟩

end Step

end ScriptHost
