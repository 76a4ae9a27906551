import ScriptHost.Proofs.DirectEvaluation
import ScriptHost.Module

/-!
# Protected calls

A protected call runs a target and reports how it ended: a pair of a flag and a value. The flag is
made `true` by both functions that a protected call answers with; the trampoline turns it to `false`
on the way through the handler.

## Main definitions

* `Value.Flat`: tuples hold no tuples.
* `reported`: what a protected call makes of the outcome of its target.
* `Session.protecting`: the session in which the target runs.

## Main results

* `Session.ends_process_pcall_iff`: a protected call ends with the report of how its target ends.
* `Session.ends_callGlobal_pcall_iff`: the same of a call that is an entry.
* `Session.protected_call_reports`: the same of the global function, however it is called.
-/

namespace ScriptHost

namespace Value

/-- Whether a value is a tuple. -/
def isTuple : Value → Bool
  | tuple _ => true
  | _ => false

/-- **Flat values**: tuples hold no tuples. -/
def Flat : Value → Prop
  | tuple items => ∀ v ∈ items, v.isTuple = false
  | _ => True

instance : DecidablePred Flat
  | tuple items => inferInstanceAs (Decidable (∀ v ∈ items, v.isTuple = false))
  | nil | bool _ | number _ | string _ | table _ | function _ | userdata _ | request _ =>
    inferInstanceAs (Decidable True)

theorem Flat.isTuple_first {v : Value} (h : v.Flat) : v.first.isTuple = false := by
  match v with
  | tuple [] => rfl
  | tuple (w :: ws) => exact h w List.mem_cons_self
  | nil | bool _ | number _ | string _ | table _ | function _ | userdata _ | request _ => rfl

theorem flat_of_isTuple {v : Value} (h : v.isTuple = false) : v.Flat := by
  cases v with
  | tuple items => cases h
  | _ => trivial

theorem first_of_isTuple {v : Value} (h : v.isTuple = false) : v.first = v := by
  cases v with
  | tuple items => cases h
  | _ => rfl

/-- Several single values make a tuple of just these. -/
theorem ofList_eq_tuple {vs : List Value} (h : ∀ v ∈ vs, v.isTuple = false) :
    ofList vs = tuple vs := by
  unfold ofList
  congr 1
  induction vs with
  | nil => rfl
  | cons v vs ih =>
    obtain ⟨hv, hvs⟩ := List.forall_mem_cons.mp h
    rw [List.flatMap_cons, ih hvs]
    cases v with
    | tuple items => cases hv
    | _ => rfl

theorem ofList_pair {v w : Value} (hv : v.isTuple = false) (hw : w.isTuple = false) :
    ofList [v, w] = tuple [v, w] :=
  ofList_eq_tuple (List.forall_mem_cons.mpr ⟨hv, List.forall_mem_singleton.mpr hw⟩)

end Value

/-- The first argument of a call with one flat value is what that value stands for. -/
theorem Arguments.get_ofList_singleton {v : Value} (h : v.Flat) (isMethodCall : Bool) :
    (Arguments.ofList [v] isMethodCall).get 0 = v.first := by
  match v with
  | .tuple [] => rfl
  | .tuple (w :: ws) => exact Value.first_of_isTuple (h w List.mem_cons_self)
  | .nil | .bool _ | .number _ | .string _ | .table _ | .function _ | .userdata _
  | .request _ => rfl

/-! ## What is reported -/

/-- **What a protected call reports** of the outcome of its target: a result after `true`, an error
that can be caught after `false`. Other errors stay as they are. -/
def reported (settings : Settings) : Except ScriptError Value → Except ScriptError Value
  | .ok v => .ok (.tuple [.bool true, v.first])
  | .error e =>
    if settings.catches e then .ok (.tuple [.bool false, e.toValue.first]) else .error e

/-- Outcomes with a flat result, or an error whose value is flat. -/
def FlatOutcome : Except ScriptError Value → Prop
  | .ok v => v.Flat
  | .error e => e.toValue.Flat

/-- The flag says whether the target failed. -/
theorem reported_flag_iff (settings : Settings) (r : Except ScriptError Value) :
    (∃ v, reported settings r = .ok (.tuple [.bool true, v])) ↔ ∃ v, r = .ok v := by
  rcases r with e | v
  · by_cases h : settings.catches e = true <;> simp [reported, h]
  · simp [reported]

/-- The frame that a protected call asks for. -/
def protectedFrame : Frame := ⟨some protectedContinuation, some protectedHandler⟩

section

variable (re : Reentry)

/-- Both functions of a protected call answer with `true` and the value they get. -/
theorem exec_run_report {f : Function} (hf : f = protectedContinuation ∨ f = protectedHandler)
    {v : Value} (hv : v.Flat) (s : Session) :
    (f.run re (.ofList [v] false)).exec s =
      (.ok (.tuple [.bool true, v.first]),
        { s with invocations := ⟨f, .ofList [v] false⟩ :: s.invocations }) := by
  have hget := Arguments.get_ofList_singleton hv false
  have hpair : Value.ofList [.bool true, v.first] = .tuple [.bool true, v.first] :=
    Value.ofList_pair rfl hv.isTuple_first
  rw [← hpair, ← hget]
  rcases hf with rfl | rfl <;> rfl

theorem ends_answer_continuation {v : Value} (hv : v.Flat) (s : Session) :
    ∃ t, (Trampoline.answer (Function.run re)
      (.call (.function protectedContinuation) [v.first])).Ends s
        (.ok (.tuple [.bool true, v.first])) t := by
  have hsingle := hv.isTuple_first
  have hrun := exec_run_report re (Or.inl rfl) (Value.flat_of_isTuple hsingle) s
  rw [Value.first_of_isTuple hsingle] at hrun
  exact ⟨_, Action.ends_ok_iff.mpr hrun⟩

theorem ends_answer_handler {v : Value} (hv : v.Flat) (s : Session) :
    ∃ t, (Trampoline.answer (Function.run re) (.recover protectedHandler v)).Ends s
      (.ok (.tuple [.bool false, v.first])) t := by
  have hrun := exec_run_report re (Or.inr rfl) hv s
  have hmark : markFailed (.tuple [.bool true, v.first]) = .tuple [.bool false, v.first] :=
    Value.ofList_pair rfl hv.isTuple_first
  have hanswer := Action.exec_bind_of_ok hrun fun w => (pure (markFailed w) : Action Value)
  rw [Action.exec_pure, hmark] at hanswer
  exact ⟨_, Action.ends_ok_iff.mpr hanswer⟩

/-- The frame of a protected call turns an outcome into its report, or leaves it alone. -/
theorem follow_protectedFrame {r : Except ScriptError Value} (hr : FlatOutcome r) (s t : Session) :
    (∃ step v u, Direct.follow protectedFrame t r = some step ∧
        (Trampoline.answer (Function.run re) step).Ends s (.ok (.tuple v)) u ∧
        reported t.settings r = .ok (.tuple v)) ∨
      Direct.follow protectedFrame t r = none ∧ reported t.settings r = r := by
  rcases r with e | v
  · by_cases hcatch : t.settings.catches e = true
    · obtain ⟨u, hu⟩ := ends_answer_handler re hr s
      exact Or.inl ⟨_, _, u, if_pos hcatch, hu, if_pos hcatch⟩
    · exact Or.inr ⟨if_neg hcatch, if_neg hcatch⟩
  · obtain ⟨u, hu⟩ := ends_answer_continuation re hr s
    exact Or.inl ⟨_, _, u, rfl, hu, rfl⟩

end

namespace Session

/-- The session in which the target of a protected call runs: the call is noted, the request
made, and its frame counted. -/
def protecting (s : Session) (p : Function) (a : Arguments) (depth : CallDepth) : Session :=
  { s with heap := s.heap.newStamp.2, invocations := ⟨p, a⟩ :: s.invocations, depth }

section

variable {s : Session} {p : Function} {target : Value} {args rest : List Value} {depth : CallDepth}

/-- A protected call answers with the request for its target. -/
theorem ends_answer_pcall (re : Reentry) (hp : p.code = .builtin .pcall)
    (hargs : (Arguments.ofList args false).values = target :: rest) (s : Session) :
    (Trampoline.answer (Function.run re) (.call (.function p) args)).Ends s
      (.ok (.request ⟨s.heap.nextStamp, target, rest, protectedContinuation, protectedHandler⟩))
      (s.protecting p (.ofList args false) s.depth) := by
  show (p.run re (.ofList args false)).Ends s _ _
  obtain ⟨stamp, name, code⟩ := p
  obtain rfl : code = .builtin .pcall := hp
  generalize Arguments.ofList args false = a at hargs ⊢
  obtain ⟨values, isMethodCall⟩ := a
  obtain rfl : values = target :: rest := hargs
  rfl

theorem settings_of_evaluates_protected {m n : Nat} {r : Except ScriptError Value} {u : Session}
    (h : Direct.Evaluates (Function.run (reentry m)) n (.call target rest)
      (s.protecting p (.ofList args false) depth) r u) : u.settings = s.settings :=
  congrArg Control.settings (h.control_eq (balanced_run m))

/-- A protected call that ends has run its target to the end, and reports how that ended. -/
theorem exists_ends_target_of_ends_pcall (hp : p.code = .builtin .pcall)
    (hargs : (Arguments.ofList args false).values = target :: rest)
    (hclaim : s.depth.claim? s.capacity = some depth)
    (hflat : ∀ n r u, (process n target rest).Ends (s.protecting p (.ofList args false) depth) r u →
      FlatOutcome r)
    {n : Nat} {o : Except ScriptError Value} {t : Session}
    (h : (process n (.function p) args).Ends s o t) :
    ∃ n r u, (process n target rest).Ends (s.protecting p (.ofList args false) depth) r u ∧
      o = reported s.settings r := by
  -- The evaluation of the protected call is that of its request: the target, then its frame.
  obtain ⟨m, n, heval⟩ := ends_process_iff_evaluates.mp ⟨n, h⟩
  obtain ⟨n', r, u, -, hcall, hafter⟩ :=
    heval.of_request (ends_answer_pcall (reentry m) hp hargs s) hclaim
  obtain ⟨k, hk⟩ := ends_process_iff_evaluates.mpr ⟨m, n', hcall⟩
  refine ⟨k, r, u, hk, ?_⟩
  rw [← settings_of_evaluates_protected hcall]
  rcases follow_protectedFrame (reentry m) (hflat k r u hk) (u.released 1) u with
    ⟨step, v, w, hfollow, hreport, heq⟩ | ⟨hfollow, heq⟩
  · rcases hafter with ⟨step', hfollow', hstep⟩ | ⟨hfollow', -⟩
    · obtain rfl := Option.some.inj (hfollow'.symm.trans hfollow)
      rw [heq, (hstep.of_final hreport (fun _ h => nomatch h)).1]
    · cases hfollow'.symm.trans hfollow
  · rcases hafter with ⟨step', hfollow', -⟩ | ⟨-, rfl, -⟩
    · cases hfollow'.symm.trans hfollow
    · exact heq.symm

/-- A protected call whose target ends does end. -/
theorem exists_ends_pcall_of_ends_target (hp : p.code = .builtin .pcall)
    (hargs : (Arguments.ofList args false).values = target :: rest)
    (hclaim : s.depth.claim? s.capacity = some depth)
    {n : Nat} {r : Except ScriptError Value} {u : Session}
    (h : (process n target rest).Ends (s.protecting p (.ofList args false) depth) r u)
    (hflat : FlatOutcome r) :
    ∃ n t, (process n (.function p) args).Ends s (reported s.settings r) t := by
  obtain ⟨m, n, hcall⟩ := ends_process_iff_evaluates.mp ⟨n, h⟩
  have hanswer := ends_answer_pcall (reentry m) hp hargs s
  suffices heval : ∃ n t, Direct.Evaluates (Function.run (reentry m)) n (.call (.function p) args) s
      (reported u.settings r) t by
    obtain ⟨n, t, heval⟩ := heval
    rw [settings_of_evaluates_protected hcall] at heval
    obtain ⟨k, hk⟩ := ends_process_iff_evaluates.mpr ⟨m, n, heval⟩
    exact ⟨k, t, hk⟩
  rcases follow_protectedFrame (reentry m) hflat (u.released 1) u with
    ⟨step, v, w, hfollow, hreport, heq⟩ | ⟨hfollow, heq⟩
  -- The report is a step of its own and needs some depth, also where the target needed none.
  · have hmore := hcall.refines (fun f a => .refl _) (Nat.le_succ n)
    rw [heq]
    exact ⟨n + 2, w, .followed hanswer hclaim hmore hfollow
      (.value hreport (fun _ h => nomatch h))⟩
  · rw [heq]
    exact ⟨n + 1, _, .passed hanswer hclaim hcall hfollow⟩

/-- **A protected call ends with the report** of how its target ends, and ends only if that ends. -/
theorem ends_process_pcall_iff (s : Session) (hp : p.code = .builtin .pcall)
    (hargs : (Arguments.ofList args false).values = target :: rest)
    (hclaim : s.depth.claim? s.capacity = some depth)
    (hflat : ∀ n r u, (process n target rest).Ends (s.protecting p (.ofList args false) depth) r u →
      FlatOutcome r) (o : Except ScriptError Value) :
    (∃ n t, (process n (.function p) args).Ends s o t) ↔
      ∃ n r u, (process n target rest).Ends (s.protecting p (.ofList args false) depth) r u ∧
        o = reported s.settings r := by
  constructor
  · rintro ⟨n, t, h⟩
    exact exists_ends_target_of_ends_pcall hp hargs hclaim hflat h
  · rintro ⟨n, r, u, h, rfl⟩
    exact exists_ends_pcall_of_ends_target hp hargs hclaim h (hflat n r u h)

/-- An error that a protected call lets through leaves the outermost call as it is. -/
theorem mapError_reported (settings : Settings) (r : Except ScriptError Value) (target : Value)
    (b : Bool) :
    (reported settings r).mapError (fun e => if b then rethrown target e else e) =
      reported settings r := by
  rcases r with e | v
  · by_cases hcatch : settings.catches e = true
    · simp [reported, hcatch]
    · have hhost : e.recoverable = false := by
        simp only [Settings.catches, Bool.or_eq_true, not_or, Bool.not_eq_true] at hcatch
        exact hcatch.1
      -- The only errors left are failures of the host, which are not wrapped again.
      cases e with
      | hostInvocation method cause => cases b <;> simp [reported, hcatch, rethrown]
      | _ => cases hhost
  · rfl

theorem ends_callGlobal_of_function {re : Reentry} {name : String}
    (hglobal : (s.heap.table s.globals).get (.name name) = .function p)
    {o : Except ScriptError Value} {t : Session} :
    (callGlobal re name args).Ends s o t ↔ (re.call (.function p) args).Ends s o t := by
  unfold callGlobal
  rw [Action.ends_get_bind, hglobal]

/-- **A protected call that is an entry** ends with the report, too. -/
theorem ends_callGlobal_pcall_iff
    (hglobal : (s.heap.table s.globals).get (.name "pcall") = .function p)
    (hp : p.code = .builtin .pcall)
    (hargs : (Arguments.ofList args false).values = target :: rest) {entered : CallDepth}
    (hentered : s.depth.enter? s.capacity = some entered)
    (hclaim : entered.claim? s.capacity = some depth)
    (hflat : ∀ n r u, (process n target rest).Ends (s.protecting p (.ofList args false) depth) r u →
      FlatOutcome r) (o : Except ScriptError Value) :
    (∃ n t, (callGlobal (reentry n) "pcall" args).Ends s o t) ↔
      ∃ n r u, (process n target rest).Ends (s.protecting p (.ofList args false) depth) r u ∧
        o = reported s.settings r := by
  -- Within the entry it is a call in place, and no report is changed on the way out of the entry.
  have hreports := ends_process_pcall_iff { s with depth := entered } hp hargs hclaim hflat
  constructor
  · rintro ⟨n, t, h⟩
    rw [ends_callGlobal_of_function hglobal] at h
    obtain ⟨o', u, hcall, -, rfl⟩ := (ends_enter_of_enter? hentered).mp h
    obtain ⟨k, r, u', hr, rfl⟩ := (hreports o').mp ⟨n, u, hcall⟩
    exact ⟨k, r, u', hr, mapError_reported _ _ _ _⟩
  · intro h
    obtain ⟨n, t, hcall⟩ := (hreports o).mpr h
    obtain ⟨k, r, u, -, rfl⟩ := h
    refine ⟨n, _, (ends_callGlobal_of_function hglobal).mpr
      ((ends_enter_of_enter? hentered).mpr ⟨_, t, hcall, rfl, ?_⟩)⟩
    exact (mapError_reported _ _ _ _).symm

/-- **The law of protected calls.** The global function, with the target in front of its arguments
and a frame to claim, gives exactly the report of how the target ends on the arguments after it; so
it does when it is called in place, and when it is called as an entry. The flag of the report is
`true` exactly when the target did not fail. -/
theorem protected_call_reports
    (hglobal : (s.heap.table s.globals).get (.name "pcall") = .function p)
    (hp : p.code = .builtin .pcall)
    (hargs : (Arguments.ofList args false).values = target :: rest)
    (hflat : ∀ n r u, (process n target rest).Ends (s.protecting p (.ofList args false) depth) r u →
      FlatOutcome r) :
    (s.depth.claim? s.capacity = some depth → ∀ o,
      (∃ n t, (process n (.function p) args).Ends s o t) ↔
        ∃ n r u, (process n target rest).Ends (s.protecting p (.ofList args false) depth) r u ∧
          o = reported s.settings r) ∧
    (∀ entered, s.depth.enter? s.capacity = some entered →
      entered.claim? s.capacity = some depth → ∀ o,
      (∃ n t, (callGlobal (reentry n) "pcall" args).Ends s o t) ↔
        ∃ n r u, (process n target rest).Ends (s.protecting p (.ofList args false) depth) r u ∧
          o = reported s.settings r) ∧
    ∀ r, (∃ v, reported s.settings r = .ok (.tuple [.bool true, v])) ↔ ∃ v, r = .ok v := by
  refine ⟨fun hclaim => ends_process_pcall_iff s hp hargs hclaim hflat,
    fun entered hentered hclaim => ?_, reported_flag_iff s.settings⟩
  exact ends_callGlobal_pcall_iff hglobal hp hargs hentered hclaim hflat

end

/-- A function that calls itself under protection, with a budget of two: the inner protected call
finds the budget spent, and the outer one reports the overflow. -/
theorem protected_call_reports_overflow :
    ∃ (s : Session) (p : Function) (f : Value),
      (s.heap.table s.globals).get (.name "pcall") = .function p ∧
      f = .function ⟨3, "f", .program (.callGlobal "pcall" [.argument 0])⟩ ∧
      s.capacity = 2 ∧ s.depth.enter? s.capacity = some ⟨1, 0⟩ ∧
      CallDepth.claim? ⟨1, 0⟩ s.capacity = some ⟨1, 1⟩ ∧
      ∃ n t, (callGlobal (reentry n) "pcall" [f, f]).Ends s
        (.ok (.tuple [.bool false, .string "stack overflow"])) t := by
  let p : Function := ⟨2, "pcall", .builtin .pcall⟩
  let f : Value := .function ⟨3, "f", .program (.callGlobal "pcall" [.argument 0])⟩
  let s : Session := ((setGlobal "pcall" (.function p)).run (bare 2)).2
  obtain ⟨u, htarget⟩ : ∃ u, (process 5 f [f]).Ends
      (s.protecting p (.ofList [f, f] false) ⟨1, 1⟩) (.error .stackOverflow) u := ⟨_, rfl⟩
  have hflat : ∀ n r u', (process n f [f]).Ends
      (s.protecting p (.ofList [f, f] false) ⟨1, 1⟩) r u' → FlatOutcome r := by
    intro n r u' h
    obtain ⟨rfl, -⟩ := ends_process_unique h htarget
    trivial
  have hlaw := protected_call_reports (show (s.heap.table s.globals).get _ = .function p from rfl)
    rfl rfl hflat
  refine ⟨s, p, f, rfl, rfl, rfl, rfl, rfl, ?_⟩
  exact (hlaw.2.1 ⟨1, 0⟩ rfl rfl _).mpr ⟨5, _, u, htarget, rfl⟩

end Session

end ScriptHost
