import ScriptHost.Proofs.Indifference
import ScriptHost.Module

/-!
# Errors that leave the outermost call

A host may ask for errors to leave the outermost call as failures of the host. An entry inside
another one is never the outermost, so nothing that happens inside a call depends on this choice:
two runs that differ in it go through the same calls with the same outcomes, and only the error that
leaves at the end may be another one.

That nothing inside depends on the choice is said of observed calls. They do what the call does, and
after everything a function does and after each of its calls back into the script an observer is
told the outcome and may note it down.

## Main definitions

* `Observed.process`, `Observed.call`: observed calls.
* `Leaving target o o'`: an outcome as it is without wrapping and as it leaves the outermost call.
* `Session.AgreesInside`: two runs differ in the choice and in the error that leaves.

## Main results

* `Observed.indifferent_process`: observed calls are indifferent.
* `Session.rethrow_changes_leaving_error`: the choice changes the error that leaves the outermost
  call and nothing else.
-/

namespace ScriptHost

/-! ## Observed calls -/

namespace Observed

section

variable (note : Except ScriptError Value → Update Unit)

/-- Tells the observer how an action ends. -/
def seen (a : Action Value) : Action Value := do
  let outcome ← a.attempt
  note outcome
  Action.ofExcept outcome

/-- **An observed call** that does not count as an entry: the observer is told the outcome of every
function, and of every call back into the script from inside a function. -/
def process : Nat → Value → List Value → Action Value
  | 0, _, _ => throw .exhausted
  | fuel + 1, target, args =>
    let re : Reentry :=
      { call := fun target args =>
          seen note (Session.enter (fun target args => process fuel target args) target args)
        process := fun target args => seen note (process fuel target args) }
    Trampoline.run (fun f a => seen note (f.run re a)) fuel target args

/-- **An observed call.** -/
def call (fuel : Nat) (target : Value) (args : List Value) : Action Value :=
  Session.enter (process note fuel) target args

end

theorem seen_silent (a : Action Value) : seen (fun _ => pure ()) a = a := by
  funext s
  show (seen (fun _ => pure ()) a).exec s = a.exec s
  unfold seen
  rcases a.exec_cases s with ⟨t, hexec⟩ | ⟨o, t, hends⟩
  · have hattempt : a.attempt.exec s = (.error .exhausted, t) := by
      rw [Action.exec_attempt, hexec]
    rw [Action.exec_bind_of_error hattempt, hexec]
  · rw [Action.exec_bind_of_ok hends, Action.ends_iff_exec_eq.mp hends]
    exact Action.exec_ofExcept o t

theorem process_silent (fuel : Nat) : process (fun _ => pure ()) fuel = Session.process fuel := by
  induction fuel with
  | zero => rfl
  | succ fuel ih =>
    funext target args
    simp only [process, Session.process, seen_silent, ih]
    rfl

/-- An observer that notes nothing observes the call itself. -/
theorem call_silent (fuel : Nat) : call (fun _ => pure ()) fuel = Session.call fuel := by
  funext target args
  unfold call
  rw [process_silent]
  rfl

end Observed

/-! ## Indifference -/

open ScriptHost.Action (Indifferent)

/-- While an entry is active, an indifferent action ends for one choice as it does for the other. -/
theorem Action.Indifferent.ends_withRethrow_iff {α : Type} {a : Action α} {b : Bool}
    (h : a.Indifferent (.rethrow b)) {s t : Session} {o : Except ScriptError α}
    (hs : s.depth.entries ≠ 0) :
    a.Ends (s.withRethrow b) o t ↔ ∃ u, a.Ends s o u ∧ t = u.withRethrow b := by
  rw [ends_iff_exec_eq, ← Session.under_rethrow, h.exec_eq s hs]
  simp only [ends_iff_exec_eq]
  constructor
  · intro heq
    obtain ⟨hfst, hsnd⟩ := Prod.mk.inj heq
    exact ⟨(a.exec s).2, Prod.ext hfst rfl, hsnd.symm⟩
  · rintro ⟨u, hu, rfl⟩
    rw [hu]
    rfl

namespace Observed

variable {note : Except ScriptError Value → Update Unit}

theorem indifferent_seen {d : Disguise} (hnote : ∀ o, (liftM (note o) : Action Unit).Indifferent d)
    {a : Action Value} (h : a.Indifferent d) : (seen note a).Indifferent d := by
  refine h.attempt.bind fun outcome => ?_
  refine (hnote outcome).bind fun _ => ?_
  exact (Action.Calm.ofExcept outcome).indifferent

/-- Observed calls are indifferent, if what the observer notes is. -/
theorem indifferent_process_under {d : Disguise}
    (hnote : ∀ o, (liftM (note o) : Action Unit).Indifferent d) (fuel : Nat) (target : Value)
    (args : List Value) : (process note fuel target args).Indifferent d := by
  induction fuel generalizing target args with
  | zero => exact Indifferent.exhausted
  | succ fuel ih =>
    refine Trampoline.indifferent_run (fun f a => ?_) fuel target args
    refine indifferent_seen hnote ((reentrant_run f a).indifferent ⟨?_, ?_⟩)
    · exact fun target args => indifferent_seen hnote (Session.indifferent_enter ih target args)
    · exact fun target args => indifferent_seen hnote (ih target args)

theorem indifferent_process (hnote : ∀ o, (note o).Quiet) (fuel : Nat) (b : Bool) (target : Value)
    (args : List Value) : (process note fuel target args).Indifferent (.rethrow b) :=
  indifferent_process_under (fun o => (Action.Quiet.lift (hnote o)).indifferent b) fuel target args

end Observed

/-! ## The outermost call -/

/-- How an outcome leaves the outermost call when errors are to leave it as failures of the
host: a value and a failure of the host as they are, and any other error as the cause of a failure
of the function called, or of the script if no function was called. -/
inductive Leaving (target : Value) :
    Except ScriptError Value → Except ScriptError Value → Prop
  | value (v : Value) : Leaving target (.ok v) (.ok v)
  | host (method : String) (cause : HostCause) :
      Leaving target (.error (.hostInvocation method cause))
        (.error (.hostInvocation method cause))
  | function {f : Function} {e : ScriptError} (htarget : target = .function f)
      (he : ∀ method cause, e ≠ .hostInvocation method cause) :
      Leaving target (.error e) (.error (.hostInvocation f.name (.error e)))
  | script {e : ScriptError} (htarget : ∀ f, target ≠ .function f)
      (he : ∀ method cause, e ≠ .hostInvocation method cause) :
      Leaving target (.error e) (.error (.hostInvocation "<script>" (.error e)))

/-- An outcome leaves in one way only. -/
theorem Leaving.unique {target : Value} {o o' o'' : Except ScriptError Value}
    (h : Leaving target o o') (h' : Leaving target o o'') : o' = o'' := by
  cases h with
  | value v => cases h'; rfl
  | host method cause =>
    cases h' with
    | host => rfl
    | function _ he | script _ he => exact absurd rfl (he method cause)
  | function htarget he =>
    cases h' with
    | host method cause => exact absurd rfl (he method cause)
    | function htarget' => rw [Value.function.inj (htarget.symm.trans htarget')]
    | script htarget' => exact absurd htarget (htarget' _)
  | script htarget he =>
    cases h' with
    | host method cause => exact absurd rfl (he method cause)
    | function htarget' => exact absurd htarget' (htarget _)
    | script => rfl

theorem leaving_rethrown (target : Value) (r : Except ScriptError Value) :
    Leaving target r (r.mapError (Session.rethrown target)) := by
  rcases r with e | v
  · by_cases hhost : ∃ method cause, e = .hostInvocation method cause
    · obtain ⟨method, cause, rfl⟩ := hhost
      exact .host method cause
    · have he : ∀ method cause, e ≠ .hostInvocation method cause :=
        fun method cause h => hhost ⟨method, cause, h⟩
      have hwrap : Session.rethrown target e =
          .hostInvocation (Session.entryName target) (.error e) := by
        cases e with
        | hostInvocation method cause => exact absurd rfl (he method cause)
        | _ => rfl
      rw [mapError_error, hwrap]
      cases target with
      | function f => exact .function rfl he
      | _ => exact .script (fun f h => by cases h) he
  · exact .value v

namespace Session

/-- Two runs that differ in how errors leave the outermost call, from one session: if one ends,
so does the other, the sessions they leave differ in nothing but that choice, and the outcomes are
one outcome before and after leaving. -/
def AgreesInside (a : Action Value) (target : Value) (s : Session) : Prop :=
  (∀ o t, a.Ends (s.withRethrow false) o t →
    ∃ o', Leaving target o o' ∧ a.Ends (s.withRethrow true) o' (t.withRethrow true)) ∧
  ∀ o' t', a.Ends (s.withRethrow true) o' t' →
    ∃ o t, a.Ends (s.withRethrow false) o t ∧ t' = t.withRethrow true

/-- The outermost entry is let in within the budget. -/
theorem enter?_of_idle {d : CallDepth} {capacity : Nat} (hidle : d.entries = 0)
    (hwithin : d.inUse ≤ capacity) : d.enter? capacity = some d.entered := by
  refine CallDepth.enter?_eq_some_iff.mpr ⟨?_, rfl⟩
  simpa [CallDepth.inUse, CallDepth.entered, hidle] using hwithin

/-- The outermost entry, for either choice: the call it makes is the same, and the choice decides
how its error leaves. -/
theorem ends_enter_outermost {process : Value → List Value → Action Value}
    (hprocess : ∀ b target args, (process target args).Indifferent (.rethrow b)) {target : Value}
    {args : List Value} {s t : Session} {o : Except ScriptError Value} (b : Bool)
    (hidle : s.depth.entries = 0) (hwithin : s.depth.inUse ≤ s.capacity) :
    (enter process target args).Ends (s.withRethrow b) o t ↔
      ∃ r u, (process target args).Ends { s with depth := s.depth.entered } r u ∧
        t = { u with depth := u.depth.leave }.withRethrow b ∧
        o = if b then r.mapError (rethrown target) else r := by
  have hentered := enter?_of_idle hidle hwithin
  have hisIdle : (s.withRethrow b).depth.isIdle = true := by
    show (s.depth.entries == 0) = true
    simp [hidle]
  have hactive : ({ s with depth := s.depth.entered } : Session).depth.entries ≠ 0 :=
    Nat.succ_ne_zero _
  have hcall (r : Except ScriptError Value) (u : Session) :
      (process target args).Ends { s.withRethrow b with depth := s.depth.entered } r u ↔
        ∃ u', (process target args).Ends { s with depth := s.depth.entered } r u' ∧
          u = u'.withRethrow b :=
    (hprocess b target args).ends_withRethrow_iff hactive
  rw [ends_enter_of_enter? (s := s.withRethrow b) hentered, hisIdle]
  have hwrap (r : Except ScriptError Value) (u : Session) :
      (r.mapError fun e =>
        if true && (u.withRethrow b).settings.rethrowNested then rethrown target e else e) =
        if b then r.mapError (rethrown target) else r := by
    have hb : (u.withRethrow b).settings.rethrowNested = b := rfl
    rw [hb]
    cases b <;> cases r <;> rfl
  constructor
  · rintro ⟨r, u, hr, rfl, rfl⟩
    obtain ⟨u', hu', rfl⟩ := (hcall r u).mp hr
    exact ⟨r, u', hu', rfl, hwrap r u'⟩
  · rintro ⟨r, u', hu', rfl, rfl⟩
    exact ⟨r, _, (hcall r _).mpr ⟨u', hu', rfl⟩, rfl, (hwrap r u').symm⟩

theorem agreesInside_enter {process : Value → List Value → Action Value}
    (hprocess : ∀ b target args, (process target args).Indifferent (.rethrow b)) (target : Value)
    (args : List Value) {s : Session} (hidle : s.depth.entries = 0)
    (hwithin : s.depth.inUse ≤ s.capacity) :
    AgreesInside (enter process target args) target s := by
  constructor
  · intro o t h
    obtain ⟨r, u, hr, rfl, hoff⟩ := (ends_enter_outermost hprocess false hidle hwithin).mp h
    obtain rfl : o = r := hoff
    refine ⟨_, leaving_rethrown target o, ?_⟩
    exact (ends_enter_outermost hprocess true hidle hwithin).mpr ⟨o, u, hr, rfl, rfl⟩
  · intro o' t' h
    obtain ⟨r, u, hr, rfl, -⟩ := (ends_enter_outermost hprocess true hidle hwithin).mp h
    have hoff := (ends_enter_outermost hprocess false hidle hwithin).mpr ⟨r, u, hr, rfl, rfl⟩
    exact ⟨r, _, hoff, rfl⟩

/-- **Only the error that leaves the outermost call changes.** From a session with no active entry,
within the budget, two runs of a call that differ in how errors leave the outermost call invoke the
same functions on the same arguments in the same order and leave the same session; their outcomes
are the same value or failure of the host, or another error and that error wrapped once under the
name of the function called. The same holds of observed calls, whatever the observer notes down: so
every error that a protected call or a call back into the script meets inside is the same in both
runs. -/
theorem rethrow_changes_leaving_error {note : Except ScriptError Value → Update Unit}
    (hnote : ∀ o, (note o).Quiet) (fuel : Nat) (target : Value) (args : List Value) {s : Session}
    (hidle : s.depth.entries = 0) (hwithin : s.depth.inUse ≤ s.capacity) :
    AgreesInside (call fuel target args) target s ∧
      AgreesInside (Observed.call note fuel target args) target s := by
  constructor
  · have hsilent : ∀ o, (fun _ => pure () : Except ScriptError Value → Update Unit) o |>.Quiet :=
      fun _ => Update.Quiet.pure ()
    rw [← Observed.call_silent]
    exact agreesInside_enter (Observed.indifferent_process hsilent fuel) target args hidle hwithin
  · exact agreesInside_enter (Observed.indifferent_process hnote fuel) target args hidle hwithin

/-- A function protects itself against an error of a call back into the script, and fails later on
its own: for both choices the observer meets both errors, the first one is caught, and only the
second one is wrapped. -/
theorem rethrow_changes_leaving_error_after_protection :
    ∃ (f : Function) (args : List Value) (note : Except ScriptError Value → Update Unit)
      (t u : Session),
      f = ⟨2, "f", .program (.seq [.call (.argument 0) [.argument 1], .raise (.runtime "late")])⟩ ∧
      args = [.function ⟨3, "pcall", .builtin .pcall⟩,
        .function ⟨4, "g", .program (.raise (.runtime "early"))⟩] ∧
      (∀ o, (note o).Quiet) ∧
      (bare 2).depth.entries = 0 ∧ (bare 2).depth.inUse ≤ (bare 2).capacity ∧
      (call 6 (.function f) args).Ends (bare 2) (.error (.runtime "late")) t ∧
      (call 6 (.function f) args).Ends ((bare 2).withRethrow true)
        (.error (.hostInvocation "f" (.error (.runtime "late")))) (t.withRethrow true) ∧
      (Observed.call note 6 (.function f) args).Ends ((bare 2).withRethrow true)
        (.error (.hostInvocation "f" (.error (.runtime "late")))) (u.withRethrow true) ∧
      u.log = [.value (.string "late"), .value (.string "early")] := by
  let f : Function :=
    ⟨2, "f", .program (.seq [.call (.argument 0) [.argument 1], .raise (.runtime "late")])⟩
  let args : List Value := [.function ⟨3, "pcall", .builtin .pcall⟩,
    .function ⟨4, "g", .program (.raise (.runtime "early"))⟩]
  let note (o : Except ScriptError Value) : Update Unit :=
    o.casesOn (fun e => addLog (.value (.string e.message))) fun _ => pure ()
  have hnote (o : Except ScriptError Value) : (note o).Quiet := by
    cases o with
    | ok v => exact Update.Quiet.pure ()
    | error e => exact quiet_addLog _
  have hwithin : (bare 2).depth.inUse ≤ (bare 2).capacity := by decide
  obtain ⟨hplain, hobserved⟩ :=
    rethrow_changes_leaving_error hnote 6 (.function f) args (s := bare 2) rfl hwithin
  have hleaves : Leaving (.function f) (.error (.runtime "late"))
      (.error (.hostInvocation "f" (.error (.runtime "late")))) := by
    refine .function rfl fun _ _ h => ?_
    cases h
  obtain ⟨t, hoff⟩ : ∃ t, (call 6 (.function f) args).Ends (bare 2)
      (.error (.runtime "late")) t := ⟨_, rfl⟩
  obtain ⟨u, hlog, huoff⟩ : ∃ u, u.log = [.value (.string "late"), .value (.string "early")] ∧
      (Observed.call note 6 (.function f) args).Ends (bare 2) (.error (.runtime "late")) u :=
    ⟨_, rfl, rfl⟩
  obtain ⟨o, ho, hon⟩ := hplain.1 _ t hoff
  obtain ⟨o', ho', huon⟩ := hobserved.1 _ u huoff
  obtain rfl := ho.unique hleaves
  obtain rfl := ho'.unique hleaves
  exact ⟨f, args, note, t, u, rfl, rfl, hnote, rfl, hwithin, hoff, hon, huon, hlog⟩

end Session

end ScriptHost
