import ScriptHost.Proofs.FlatPrograms
import ScriptHost.Proofs.Trampoline
import Mathlib.Logic.Relation

/-!
# Tuples stay flat

A tuple that is made of values gives the values of each tuple among them a place of their own, so no
tuple stands in it. No call can lead out of the values that are flat throughout: not the trampoline,
which hands results and errors to functions it does not know, and not the host methods, which answer
with several values at once.

## Main definitions

* `Value.elements`: the values a value stands for.
* `Trampoline.Transition.AllFlat`: all that the trampoline holds between two answers is flat.
* `Session.CallLeads`: one session is left by a call on the other.

## Main results

* `Value.ofList_splice`: a tuple in the middle of a list may be made before or after.
* `Trampoline.allFlat_next`, `Trampoline.keepsFlat_loop`: one transition, and the whole loop.
* `Session.callsKeepFlat_process`, `Session.keepsFlat_reentry`: calls into the script.
* `Session.allFlat_of_calls`: any number of calls.
* `Session.protected_call_reports_of_allFlat`: protected calls report, with no condition on what
  their target answers.
* `Session.tuples_stay_flat`: what follows for tuples and for all values that calls return.
-/

namespace ScriptHost

open ScriptHost.Action (KeepsFlat)

/-! ## Tuples of values -/

namespace Value

/-- **The values a value stands for**: those in a tuple, or the value alone. -/
def elements : Value → List Value
  | tuple items => items
  | v => [v]

theorem ofList_eq (vs : List Value) : ofList vs = tuple (vs.flatMap elements) := rfl

/-- A tuple in the middle may be made before the tuple around it, or with it. -/
theorem ofList_splice (xs ys zs : List Value) :
    ofList (xs ++ [ofList ys] ++ zs) = ofList (xs ++ ys ++ zs) := by
  simp [ofList_eq, elements]

example : ofList [nil, ofList [bool true, nil], bool false] =
    tuple [nil, bool true, nil, bool false] := rfl

end Value

/-! ## The trampoline -/

theorem allFlat_markFailed {v : Value} (hv : v.AllFlat) : (markFailed v).AllFlat := by
  unfold markFailed
  split
  · obtain ⟨-, hitems⟩ := Value.allFlat_tuple.mp hv
    obtain ⟨-, hrest⟩ := List.forall_mem_cons.mp hitems
    exact Value.allFlat_ofList (List.forall_mem_cons.mpr ⟨trivial, hrest⟩)
  · exact hv

/-- The function a call runs is flat throughout, and so are its arguments. -/
theorem flat_callee {s : Session} (hs : s.AllFlat) {target : Value} (htarget : target.AllFlat)
    {args : List Value} (hargs : ∀ v ∈ args, v.AllFlat) :
    OutcomeAllFlat (fun p => p.1.AllFlat ∧ p.2.AllFlat) (callee s.heap target args) := by
  fun_induction callee s.heap target args with
  | case1 f args => exact ⟨htarget, Arguments.allFlat_ofList hargs false⟩
  | case2 | case5 | case7 | case8 => trivial
  | case3 v vs args ih => exact ih ((Value.allFlat_tuple.mp htarget).2 v List.mem_cons_self) hargs
  | case4 t args m hm | case6 u args m hm =>
    refine ⟨hs.metamethod? hm, ?_⟩
    exact Arguments.allFlat_ofList (List.forall_mem_cons.mpr ⟨htarget, hargs⟩) true

/-- What the trampoline does next, with values that are flat throughout. -/
def Step.AllFlat : Step → Prop
  | call target args => target.AllFlat ∧ ∀ v ∈ args, v.AllFlat
  | recover handler error => handler.AllFlat ∧ error.AllFlat
  | deliver v => v.AllFlat

/-- Frames whose functions are flat throughout. -/
structure Frame.AllFlat (frame : Frame) : Prop where
  continuation : ∀ f, frame.continuation = some f → f.AllFlat
  handler : ∀ f, frame.handler = some f → f.AllFlat

namespace Trampoline

/-- **All that the trampoline holds** between two answers is flat throughout. -/
def Transition.AllFlat : Transition → Prop
  | go step frames s =>
    step.AllFlat ∧ (∀ frame ∈ frames.newestFirst, frame.AllFlat) ∧ s.AllFlat
  | stop o s => OutcomeAllFlat Value.AllFlat o ∧ s.AllFlat

section

variable {frames : BoundedStack Frame} (hframes : ∀ frame ∈ frames.newestFirst, frame.AllFlat)
  {s : Session} (hs : s.AllFlat)

include hs in
theorem allFlat_released (n : Nat) : (s.released n).AllFlat := hs.congr rfl rfl rfl rfl rfl

include hframes hs

/-- An error arrives at a handler with its value. -/
theorem allFlat_raise {e : ScriptError} (he : e.toValue.AllFlat) :
    (raise e frames s).AllFlat := by
  have hcatching : ∀ frame ∈ catching e frames s, frame.AllFlat := by
    intro frame hframe
    unfold catching at hframe
    split at hframe
    · exact hframes frame ((List.dropWhile_sublist _).subset hframe)
    · cases hframe
  unfold raise
  split
  · rename_i k handler below hcaught
    rw [hcaught] at hcatching
    obtain ⟨hframe, hbelow⟩ := List.forall_mem_cons.mp hcatching
    exact ⟨⟨hframe.handler handler rfl, he⟩, hbelow, allFlat_released hs _⟩
  · exact ⟨he, allFlat_released hs _⟩

/-- A value arrives at a continuation as a single value. -/
theorem allFlat_deliver {v : Value} (hv : v.AllFlat) : (deliver v frames s).AllFlat := by
  obtain ⟨capacity, newestFirst⟩ := frames
  cases newestFirst with
  | nil => exact ⟨hv, hs⟩
  | cons frame below =>
    obtain ⟨hframe, hbelow⟩ := List.forall_mem_cons.mp hframes
    obtain ⟨continuation, handler⟩ := frame
    cases continuation with
    | none => exact ⟨hv, hbelow, allFlat_released hs 1⟩
    | some k =>
      refine ⟨⟨hframe.continuation k rfl, ?_⟩, hbelow, allFlat_released hs 1⟩
      exact List.forall_mem_singleton.mpr hv.first

/-- One transition keeps everything flat. -/
theorem allFlat_next {o : Except ScriptError Value} (ho : OutcomeAllFlat Value.AllFlat o) :
    (next frames s o).AllFlat := by
  cases o with
  | error e => exact allFlat_raise hframes hs ho
  | ok v =>
    rcases v.request_or_isFinal with ⟨r, rfl⟩ | hfinal
    · -- The functions of the new frame stand in the request.
      obtain ⟨htarget, hargs, hcontinuation, hhandler⟩ := Value.allFlat_request.mp ho
      rw [next_request]
      cases hpush : push? ⟨r.continuation, r.handler⟩ frames s with
      | none => exact allFlat_raise hframes hs trivial
      | some p =>
        obtain ⟨depth, -, hpushed, hdepth⟩ := push?_eq_some hpush
        refine ⟨⟨htarget, hargs⟩, ?_, ?_⟩
        · rw [hpushed]
          exact List.forall_mem_cons.mpr ⟨⟨hcontinuation, hhandler⟩, hframes⟩
        · rw [hdepth]
          exact hs.congr rfl rfl rfl rfl rfl
    · rw [next_final hfinal]
      exact allFlat_deliver hframes hs ho

end

section

variable {run : Function → Arguments → Action Value}
  (hrun : ∀ f a, f.AllFlat → a.AllFlat → KeepsFlat (run f a) Value.AllFlat)
include hrun

theorem keepsFlat_answer {step : Step} (hstep : step.AllFlat) :
    KeepsFlat (answer run step) Value.AllFlat := by
  cases step with
  | call target args =>
    intro s o t hs hends
    have hcallee := flat_callee hs hstep.1 hstep.2
    rcases ends_invoke_iff.mp hends with ⟨f, a, hfound, hran⟩ | ⟨e, hfound, rfl, rfl⟩
    · rw [hfound] at hcallee
      exact hrun f a hcallee.1 hcallee.2 hs hran
    · rw [hfound] at hcallee
      exact ⟨hs, hcallee⟩
  | recover handler error =>
    refine (hrun handler _ hstep.1 ?_).map fun v hv => allFlat_markFailed hv
    exact Arguments.allFlat_ofList (List.forall_mem_singleton.mpr hstep.2) false
  | deliver v => exact .pure hstep

/-- The loop keeps sessions flat, whatever functions it runs. -/
theorem keepsFlat_loop (fuel : Nat) {step : Step} (hstep : step.AllFlat)
    {frames : BoundedStack Frame} (hframes : ∀ frame ∈ frames.newestFirst, frame.AllFlat) :
    KeepsFlat (loop run fuel step frames) Value.AllFlat := by
  -- The induction is on the bound. What is kept from one answer to the next is that the step, the
  -- pending frames and the session are flat.
  induction fuel generalizing step frames with
  | zero => exact .exhausted
  | succ fuel ih =>
    intro s o t hs hends
    obtain ⟨r, u, hanswer, hleads⟩ := ends_loop_succ_iff.mp hends
    obtain ⟨hu, hr⟩ := keepsFlat_answer hrun hstep hs hanswer
    have hnext := allFlat_next hframes hu hr
    cases hgo : next frames u r with
    | go step' frames' s' =>
      rw [hgo] at hnext hleads
      obtain ⟨hstep', hframes', hs'⟩ := hnext
      exact ih hstep' hframes' hs' (leads_go_iff.mp hleads)
    | stop o' s' =>
      rw [hgo] at hnext hleads
      obtain ⟨rfl, rfl⟩ := leads_stop_iff.mp hleads
      exact ⟨hnext.2, hnext.1⟩

theorem callsKeepFlat_run (fuel : Nat) : CallsKeepFlat (Trampoline.run run fuel) := by
  intro target args htarget hargs
  have hstep : (Step.call target args).AllFlat := ⟨htarget, hargs⟩
  exact .get fun s _ => keepsFlat_loop hrun fuel hstep (List.forall_mem_nil _)

end

end Trampoline

/-! ## Calls into the script -/

namespace Session

theorem allFlat_rethrown (target : Value) (e : ScriptError) :
    (rethrown target e).toValue.AllFlat := by
  cases e <;> trivial

theorem callsKeepFlat_enter {process : Value → List Value → Action Value}
    (hprocess : CallsKeepFlat process) : CallsKeepFlat (enter process) := by
  intro target args htarget hargs
  unfold enter
  refine .get fun s hs => ?_
  split
  · exact .fail trivial
  · refine KeepsFlat.bind (.set (hs.congr rfl rfl rfl rfl rfl)) fun _ _ => ?_
    refine (hprocess target args htarget hargs).attempt.bind fun outcome houtcome => ?_
    refine KeepsFlat.bind (.modify fun t ht => ht.congr rfl rfl rfl rfl rfl) fun _ _ => ?_
    cases outcome with
    | ok v => exact .pure houtcome
    | error e =>
      refine .get fun t _ => ?_
      split
      · exact .fail (allFlat_rethrown target e)
      · exact .fail houtcome

/-- Calls that do not count as entries keep sessions flat. -/
theorem callsKeepFlat_process (fuel : Nat) : CallsKeepFlat (process fuel) := by
  induction fuel with
  | zero => exact fun _ _ _ _ => .exhausted
  | succ fuel ih =>
    -- Functions get back into the script with a smaller bound.
    have hre : (reentry fuel).KeepsFlat := ⟨callsKeepFlat_enter ih, ih⟩
    exact Trampoline.callsKeepFlat_run (fun f a hf ha => keepsFlat_run hre hf ha) fuel

/-- Both ways into the script keep sessions flat. -/
theorem keepsFlat_reentry (fuel : Nat) : (reentry fuel).KeepsFlat :=
  ⟨callsKeepFlat_enter (callsKeepFlat_process fuel), callsKeepFlat_process fuel⟩

/-- A call of a value with arguments, all of it flat throughout, ends and leaves a session. -/
def CallLeads (s t : Session) : Prop :=
  ∃ fuel target args o,
    target.AllFlat ∧ (∀ v ∈ args, v.AllFlat) ∧ (call fuel target args).Ends s o t

/-- Any number of calls, failing ones among them, leave a session that is flat throughout. -/
theorem allFlat_of_calls {s t : Session} (hs : s.AllFlat)
    (hcalls : Relation.ReflTransGen CallLeads s t) : t.AllFlat := by
  induction hcalls with
  | refl => exact hs
  | tail _ hlast ih =>
    obtain ⟨fuel, target, args, o, htarget, hargs, hends⟩ := hlast
    exact ((keepsFlat_reentry fuel).call target args htarget hargs ih hends).1

/-- A call of what is flat throughout has an outcome that protected calls can report. -/
theorem flatOutcome_of_ends_process {s t : Session} (hs : s.AllFlat) {target : Value}
    (htarget : target.AllFlat) {args : List Value} (hargs : ∀ v ∈ args, v.AllFlat) {fuel : Nat}
    {o : Except ScriptError Value} (h : (process fuel target args).Ends s o t) : FlatOutcome o := by
  obtain ⟨-, ho⟩ := callsKeepFlat_process fuel target args htarget hargs hs h
  cases o <;> exact Value.AllFlat.flat ho

theorem AllFlat.protecting {s : Session} (hs : s.AllFlat) {p : Function} (hp : p.AllFlat)
    {a : Arguments} (ha : a.AllFlat) (depth : CallDepth) : (s.protecting p a depth).AllFlat where
  tables := hs.tables
  assigned := hs.assigned
  toHost := hs.toHost
  toScript := hs.toScript
  methods := hs.methods
  invocations := List.forall_mem_cons.mpr ⟨⟨hp, ha⟩, hs.invocations⟩

/-- **Protected calls in flat sessions** report how their target ended, whatever it is. Nothing has
to be known of the outcomes of the target: in a session that is flat throughout, as any number of
calls leave it, a target and arguments that are flat throughout have flat outcomes only. -/
theorem protected_call_reports_of_allFlat {s : Session} (hs : s.AllFlat) {p : Function}
    (hglobal : (s.heap.table s.globals).get (.name "pcall") = .function p)
    (hp : p.code = .builtin .pcall) {target : Value} {args rest : List Value}
    (hargs : (Arguments.ofList args false).values = target :: rest)
    (hflat : ∀ v ∈ args, v.AllFlat) {depth : CallDepth} :
    (s.depth.claim? s.capacity = some depth → ∀ o,
      (∃ n t, (process n (.function p) args).Ends s o t) ↔
        ∃ n r u, (process n target rest).Ends (s.protecting p (.ofList args false) depth) r u ∧
          o = reported s.settings r) ∧
    (∀ entered, s.depth.enter? s.capacity = some entered →
      entered.claim? s.capacity = some depth → ∀ o,
      (∃ n t, (callGlobal (reentry n) "pcall" args).Ends s o t) ↔
        ∃ n r u, (process n target rest).Ends (s.protecting p (.ofList args false) depth) r u ∧
          o = reported s.settings r) := by
  -- All that the target runs with is at hand in the session and in the arguments.
  have hp' : p.AllFlat := by
    have hget := hs.tables s.globals (.name "pcall")
    rw [hglobal] at hget
    exact hget
  have ha : (Arguments.ofList args false).AllFlat := Arguments.allFlat_ofList hflat false
  obtain ⟨htarget, hrest⟩ : target.AllFlat ∧ ∀ v ∈ rest, v.AllFlat := by
    apply List.forall_mem_cons.mp
    rw [← hargs]
    exact ha
  have houtcome n r u
      (h : (process n target rest).Ends (s.protecting p (.ofList args false) depth) r u) :
      FlatOutcome r :=
    flatOutcome_of_ends_process (hs.protecting hp' ha depth) htarget hrest h
  constructor
  · intro hclaim
    exact ends_process_pcall_iff s hp hargs hclaim houtcome
  · intro entered hentered hclaim
    exact ends_callGlobal_pcall_iff hglobal hp hargs hentered hclaim houtcome

/-- **Tuples stay flat.** A tuple made of flat values holds their elements one after the other, and
no tuple; a tuple in the middle may be made before or after. Conversion to scripts, calls of methods
with any host code, the trampoline with any functions, and the calls of a session keep everything
flat if what they are given is flat, what the session holds, and what host code and functions
answer. So after any number of calls in a new session, all values that calls return are flat. -/
theorem tuples_stay_flat :
    (∀ vs : List Value, (∀ v ∈ vs, v.Flat) →
      Value.ofList vs = .tuple (vs.flatMap Value.elements) ∧
        ∀ w ∈ vs.flatMap Value.elements, w.isTuple = false) ∧
    (∀ xs ys zs : List Value,
      Value.ofList (xs ++ [.ofList ys] ++ zs) = .ofList (xs ++ ys ++ zs)) ∧
    (∀ v : Value, v.AllFlat → v.Flat ∧ (markFailed v).AllFlat) ∧
    (∀ h : HostValue, h.AllFlat → (toScript h).KeepsFlat Value.AllFlat) ∧
    (∀ host : Method → HostCall → Action HostReply, HostKeepsFlat host →
      ∀ (id : MethodId) (receiver : Option Object) (a : Arguments),
        (∀ o, receiver = some o → o.AllFlat) → a.AllFlat →
          (execute host id receiver a).KeepsFlat Value.AllFlat) ∧
    (∀ run : Function → Arguments → Action Value,
      (∀ f a, f.AllFlat → a.AllFlat → (run f a).KeepsFlat Value.AllFlat) →
        ∀ fuel, CallsKeepFlat (Trampoline.run run fuel)) ∧
    (∀ fuel, (reentry fuel).KeepsFlat ∧ HostKeepsFlat (HostCode.run (reentry fuel))) ∧
    ∀ capacity s, Relation.ReflTransGen CallLeads (new capacity) s →
      s.AllFlat ∧ ∀ fuel target args v t, target.AllFlat → (∀ w ∈ args, w.AllFlat) →
        (call fuel target args).Ends s (.ok v) t → v.Flat := by
  refine ⟨fun vs hvs => ⟨Value.ofList_eq vs, Value.flat_ofList hvs⟩, Value.ofList_splice,
    fun v hv => ⟨hv.flat, allFlat_markFailed hv⟩, keepsFlat_toScript, ?_, ?_, ?_, ?_⟩
  · intro host hhost id receiver a hreceiver ha
    exact keepsFlat_execute hhost hreceiver ha id
  · intro run hrun fuel
    exact Trampoline.callsKeepFlat_run hrun fuel
  · intro fuel
    exact ⟨keepsFlat_reentry fuel, hostKeepsFlat_hostCode (keepsFlat_reentry fuel)⟩
  · intro capacity s hcalls
    have hs := allFlat_of_calls (allFlat_new capacity) hcalls
    refine ⟨hs, fun fuel target args v t htarget hargs hends => ?_⟩
    have hv := ((keepsFlat_reentry fuel).call target args htarget hargs hs hends).2
    exact Value.AllFlat.flat hv

end Session

end ScriptHost
