import ScriptHost.Proofs.Rethrow
import ScriptHost.Proofs.Routing
import ScriptHost.Registration

/-!
# When plans are made

The plan of a method is made with the method, by its first call, or anew for every call, as the
method and the settings say; and what the settings say may change from call to call. None of this
can be told from outside. Calls of a method bind the same arguments, end in the same way and leave
the same session as if its plan were made anew every time, whatever programs run in between and
however the settings change.

## Main definitions

* `MethodEvent`: calls of a method, programs, and changes of the mode in the settings.

## Main results

* `MethodEvent.exec_perform_reflected`, `execAll_perform_reflected`: one event, and a history, where
  every plan is made anew.
* `MethodEvent.advances_perform`, `advances_execAll`: what happens to methods meanwhile.
* `Session.access_mode_unobservable`: a method built with any mode, over any history.
-/

namespace ScriptHost

/-- **What happens while a method is in a session.** -/
inductive MethodEvent where
  /-- The host calls the method. -/
  | call (receiver : Option Object) (a : Arguments)
  /-- A program runs, and may call this method and others. -/
  | program (e : Expr)
  /-- The host sets the mode of methods that name none. -/
  | setMode (mode : AccessMode)

/-- The event in a session, with a bound on the steps. Setting the mode gives no value. -/
def MethodEvent.perform (fuel : Nat) (id : MethodId) : MethodEvent → Action Value
  | call receiver a => Session.execute (HostCode.run (Session.reentry fuel)) id receiver a
  | program e => e.eval (Session.reentry fuel) .none
  | setMode mode => do
    Session.configure (·.setAccessMode mode)
    return .nil

open ScriptHost.Action (Indifferent)

namespace Session

theorem indifferent_process (d : Disguise) (fuel : Nat) (target : Value) (args : List Value) :
    (process fuel target args).Indifferent d := by
  rw [← Observed.process_silent]
  refine Observed.indifferent_process_under (fun _ => ?_) fuel target args
  exact (Action.Calm.lift (Update.Calm.pure ())).indifferent

theorem indifferent_reentry (d : Disguise) (fuel : Nat) : (reentry fuel).Indifferent d :=
  ⟨indifferent_enter (indifferent_process d fuel), indifferent_process d fuel⟩

/-- Settings change, or the change is refused and nothing does. -/
theorem exec_configure (change : Settings → Except ScriptError Settings) (s : Session) :
    (configure change).exec s =
      match change s.settings with
      | .ok settings => (.ok (), { s with settings })
      | .error e => (.error (.error e), s) := by
  unfold configure
  rw [Action.exec_bind_of_ok (Action.exec_get s)]
  cases change s.settings <;> rfl

end Session

namespace MethodEvent

variable (fuel : Nat) (id : MethodId)

/-- Calls and programs are indifferent. -/
theorem indifferent_perform {event : MethodEvent} (h : ∀ mode, event ≠ .setMode mode)
    (d : Disguise) : (event.perform fuel id).Indifferent d := by
  cases event with
  | call receiver a =>
    exact (reentrant_execute id receiver a).indifferent (Session.indifferent_reentry d fuel)
  | program e => exact (reentrant_eval .none e).indifferent (Session.indifferent_reentry d fuel)
  | setMode mode => exact absurd rfl (h mode)

theorem exec_setMode (mode : AccessMode) (s : Session) :
    ((setMode mode).perform fuel id).exec s =
      match s.settings.setAccessMode mode with
      | .ok settings => (.ok .nil, { s with settings })
      | .error e => (.error (.error e), s) := by
  rw [perform, Action.exec_bind, Session.exec_configure]
  cases s.settings.setAccessMode mode <;> rfl

/-- An event does the same where every plan is made anew. -/
theorem exec_perform_reflected (event : MethodEvent) (s : Session) :
    (event.perform fuel id).exec s.reflected =
      (((event.perform fuel id).exec s).1, ((event.perform fuel id).exec s).2.reflected) := by
  by_cases hmode : ∃ mode, event = .setMode mode
  · -- The settings change, and those of the two sessions are the same.
    obtain ⟨mode, rfl⟩ := hmode
    have hsettings : s.reflected.settings = s.settings := rfl
    rw [exec_setMode, exec_setMode, hsettings]
    cases s.settings.setAccessMode mode <;> rfl
  · have hcalls := indifferent_perform fuel id (fun mode h => hmode ⟨mode, h⟩) .reflection
    exact hcalls.exec_eq s trivial

/-- **An event does nothing to methods** but keep their plans. -/
theorem advances_perform (event : MethodEvent) (s : Session) :
    s.Advances ((event.perform fuel id).exec s).2 := by
  by_cases hmode : ∃ mode, event = .setMode mode
  · obtain ⟨mode, rfl⟩ := hmode
    rw [exec_setMode]
    cases s.settings.setAccessMode mode with
    | ok settings => exact Session.advances_of_methods_eq rfl
    | error e => exact Session.Advances.refl s
  · have hcalls := indifferent_perform fuel id (fun mode h => hmode ⟨mode, h⟩) .reflection
    exact hcalls.respects s

/-- **A history goes the same way** where every plan is made anew. -/
theorem execAll_perform_reflected (events : List MethodEvent) (s : Session) :
    Action.execAll (perform fuel id) s.reflected events =
      ((Action.execAll (perform fuel id) s events).1,
        (Action.execAll (perform fuel id) s events).2.reflected) := by
  induction events generalizing s with
  | nil => rfl
  | cons event events ih =>
    simp only [Action.execAll, exec_perform_reflected, ih]

theorem advances_execAll (events : List MethodEvent) (s : Session) :
    s.Advances (Action.execAll (perform fuel id) s events).2 := by
  induction events generalizing s with
  | nil => exact Session.Advances.refl s
  | cons event events ih => exact (advances_perform fuel id event s).trans (ih _)

end MethodEvent

/-! ## A method over its history -/

/-- What can be built with any mode can be built with its plan made anew for every call. -/
theorem Declaration.build_reflection {d : Declaration} {m : Method} (h : d.build = .ok m) :
    { d with mode := .reflection }.build = .ok m.reflected := by
  have hvalid := problem?_of_build h
  have hmode : d.mode ≠ .hideMembers := by
    intro hidden
    rw [problem?, if_pos hidden] at hvalid
    cases hvalid
  -- The mode is looked at by the first check alone.
  have hvalid' : { d with mode := .reflection }.problem? = none := by
    rw [problem?, if_neg hmode] at hvalid
    exact (if_neg AccessMode.noConfusion).trans hvalid
  rw [build, hvalid] at h
  obtain rfl := Except.ok.inj h
  rw [build, hvalid']
  dsimp only
  rw [ite_self]
  rfl

/-- A method with a parameter that carries a result besides its value makes its plan anew. -/
theorem Declaration.mode_of_byRef {d : Declaration} {m : Method} (h : d.build = .ok m)
    (hbyRef : d.parameters.any (·.byRef) = true) : m.mode = .reflection := by
  rw [build, problem?_of_build h] at h
  obtain rfl := Except.ok.inj h
  exact if_pos hbyRef

namespace MethodSlot

/-- What a method starts with: its plan if that is made with the method, and otherwise none. -/
def initial (m : Method) : MethodSlot := if m.mode = .preoptimized then optimized m else fresh m

theorem method_initial (m : Method) : (initial m).method = m := by
  unfold initial
  split <;> rfl

theorem kept_initial {m : Method} (h : m.mode = .reflection) : (initial m).kept = none := by
  unfold initial
  rw [h]
  rfl

theorem Advances.method_eq {slot later : MethodSlot} (h : slot.Advances later) :
    later.method = slot.method := by
  rcases h with rfl | ⟨-, rfl⟩ <;> rfl

/-- No plan comes to be kept for a method whose plan is made anew for every call. -/
theorem Advances.kept_eq_none {slot later : MethodSlot} (h : slot.Advances later)
    (hmode : slot.method.mode = .reflection) (hnone : slot.kept = none) : later.kept = none := by
  rcases h with rfl | ⟨hother, -⟩
  · exact hnone
  · exact absurd hmode hother

end MethodSlot

namespace Session

theorem run_addMethod (s : Session) (m : Method) :
    (addMethod m).run s =
      (⟨s.methods.size⟩, { s with methods := s.methods.push (.initial m) }) := rfl

section

variable {s added : Session} {m : Method} {id : MethodId}
  (hadded : (addMethod m).run s = (id, added))
include hadded

/-- Methods that differ in when their plans are made are the same where every plan is made anew. -/
theorem exists_addMethod_reflected :
    ∃ added', (addMethod m.reflected).run s = (id, added') ∧
      added'.reflected = added.reflected := by
  have hinitial (m : Method) :
      (MethodSlot.initial m).reflected = MethodSlot.fresh m.reflected := by
    rw [MethodSlot.reflected, MethodSlot.method_initial]
  rw [run_addMethod] at hadded
  obtain ⟨rfl, rfl⟩ := Prod.mk.inj hadded
  refine ⟨_, run_addMethod s m.reflected, ?_⟩
  unfold reflected
  dsimp only
  rw [Array.map_push, Array.map_push, hinitial, hinitial]
  rfl

/-- What becomes of a method over a history: it stays the method it is, and no plan is kept for
it if its plan is made anew for every call. -/
theorem slot_of_execAll {fuel : Nat} {events : List MethodEvent}
    {outcomes : List (Except Interrupt Value)} {t : Session}
    (hrun : Action.execAll (MethodEvent.perform fuel id) added events = (outcomes, t)) :
    ∃ slot, t.method? id = some slot ∧ slot.method = m ∧
      (m.mode = .reflection → slot.kept = none) := by
  have hinitial : added.method? id = some (.initial m) := by
    rw [run_addMethod] at hadded
    obtain ⟨rfl, rfl⟩ := Prod.mk.inj hadded
    exact Array.getElem?_push_size
  have hlater := MethodEvent.advances_execAll fuel id events added
  rw [hrun] at hlater
  obtain ⟨slot, hslot, hadvances⟩ := hlater id _ hinitial
  refine ⟨slot, hslot, hadvances.method_eq.trans (MethodSlot.method_initial m), fun hmode => ?_⟩
  refine hadvances.kept_eq_none ?_ (MethodSlot.kept_initial hmode)
  rw [MethodSlot.method_initial, hmode]

end

/-- What a call of a method comes to is the same where every plan is made anew. -/
theorem comesTo_reflected_iff {s : Session} {id : MethodId} {slot : MethodSlot} {m : Method}
    (hslot : s.method? id = some slot) (hmethod : slot.method = m) {receiver : Option Object}
    {a : Arguments} {call : HostCall} :
    s.reflected.ComesTo id receiver a m.reflected call ↔ s.ComesTo id receiver a m call := by
  subst hmethod
  have hreflected : s.reflected.method? id = some slot.reflected := by
    rw [method?_reflected, hslot]
    rfl
  rw [comesTo_iff_bind hslot, ← s.bind_reflected slot.method receiver a]
  exact comesTo_iff_bind hreflected

/-- **When plans are made cannot be told.** A method that is built with any mode and taken into any
session is called any number of times, by the host and by programs, while the mode of methods that
name none is set in between. At every point its plan is the one its declaration asks for, whether it
is kept or made anew, and a method with a parameter that carries a result besides its value never
has one kept. Built with its plan made anew for every call, the method comes to the same calls of
the host code at every point, the same events have the same outcomes, and the session they leave
differs in nothing but the plans that are kept. -/
theorem access_mode_unobservable {d : Declaration} {m : Method} (hbuild : d.build = .ok m)
    {s added t : Session} {id : MethodId} (hadded : (addMethod m).run s = (id, added))
    (fuel : Nat) (events : List MethodEvent) {outcomes : List (Except Interrupt Value)}
    (hrun : Action.execAll (MethodEvent.perform fuel id) added events = (outcomes, t)) :
    (∃ slot, t.method? id = some slot ∧ slot.method = m ∧
      ((bindingPlan id slot).run t).1 = m.plan ∧ (∀ plan, slot.kept = some plan → plan = m.plan) ∧
      (d.parameters.any (·.byRef) = true → slot.kept = none)) ∧
    ∃ (m' : Method) (added' t' : Session),
      { d with mode := .reflection }.build = .ok m' ∧ (addMethod m').run s = (id, added') ∧
      Action.execAll (MethodEvent.perform fuel id) added' events = (outcomes, t') ∧
      t'.reflected = t.reflected ∧
      ∀ receiver a call, t'.ComesTo id receiver a m' call ↔ t.ComesTo id receiver a m call := by
  obtain ⟨added', hadded', hsame⟩ := exists_addMethod_reflected hadded
  obtain ⟨slot, hslot, hmethod, hkept⟩ := slot_of_execAll hadded hrun
  -- Both histories are the one in which every plan is made anew.
  have hanew := MethodEvent.execAll_perform_reflected fuel id events added
  have hanew' := MethodEvent.execAll_perform_reflected fuel id events added'
  rw [hsame, hanew, hrun] at hanew'
  obtain ⟨houtcomes, hsessions⟩ := Prod.mk.inj hanew'
  have hrun' : Action.execAll (MethodEvent.perform fuel id) added' events =
      (outcomes, (Action.execAll (MethodEvent.perform fuel id) added' events).2) :=
    Prod.ext houtcomes.symm rfl
  obtain ⟨slot', hslot', hmethod', -⟩ := slot_of_execAll hadded' hrun'
  constructor
  · refine ⟨slot, hslot, hmethod, ?_, fun plan hplan => ?_, fun hbyRef => ?_⟩
    · rcases run_bindingPlan_cases id slot t with hplan | ⟨-, hplan⟩
      · rw [hplan, hmethod]
      · rw [hplan, hmethod]
    · rw [slot.plan_of_kept plan hplan, hmethod]
    · exact hkept (Declaration.mode_of_byRef hbuild hbyRef)
  · refine ⟨m.reflected, added', _, Declaration.build_reflection hbuild, hadded', hrun',
      hsessions.symm, fun receiver a call => ?_⟩
    rw [← comesTo_reflected_iff hslot hmethod, ← comesTo_reflected_iff hslot' hmethod', hsessions]
    rfl

/-- A method that names no mode is called while plans are made anew, then while they are kept, and
once with an argument of the wrong type; one change of the mode is refused. In the end its plan is
kept, and the outcomes are those of the method that makes its plan anew. -/
theorem access_mode_unobservable_over_changes :
    ∃ (d : Declaration) (m : Method) (added t : Session) (id : MethodId)
      (events : List MethodEvent) (outcomes : List (Except Interrupt Value)),
      d.mode = .default ∧ d.build = .ok m ∧ (addMethod m).run (bare 1) = (id, added) ∧
      events = [.setMode .reflection, .call none ⟨[.string "a"], false⟩, .setMode .lazyOptimized,
        .setMode .default, .call none ⟨[.string "b"], false⟩, .call none ⟨[.nil], false⟩] ∧
      Action.execAll (MethodEvent.perform 1 id) added events = (outcomes, t) ∧
      (∃ e, outcomes = [.ok .nil, .ok (.string "a"), .ok .nil, .error (.error e), .ok (.string "b"),
        .error (.error (.badType 1 "f" "string" .nil))]) ∧
      (∃ slot, t.method? id = some slot ∧ slot.kept = some m.plan ∧
        ((bindingPlan id slot).run t).1 = m.plan) ∧
      ∃ (m' : Method) (added' t' : Session),
        { d with mode := .reflection }.build = .ok m' ∧
        (addMethod m').run (bare 1) = (id, added') ∧
        Action.execAll (MethodEvent.perform 1 id) added' events = (outcomes, t') := by
  let d : Declaration :=
    { name := "f"
      isStatic := true
      parameters := [{ name := "x", type := .string }]
      code := .body (.argument 0) }
  let events : List MethodEvent :=
    [.setMode .reflection, .call none ⟨[.string "a"], false⟩, .setMode .lazyOptimized,
      .setMode .default, .call none ⟨[.string "b"], false⟩, .call none ⟨[.nil], false⟩]
  let m : Method :=
    { name := "f"
      kind := .method
      isStatic := true
      extensionOf := none
      genericCount := 0
      parameters := [{ name := "x", type := .string }]
      returns := none
      mode := .default
      code := .body (.argument 0) }
  let outcomes : List (Except Interrupt Value) :=
    [.ok .nil, .ok (.string "a"), .ok .nil,
      .error (.error (.badArgument 1 "set_default_access_mode"
        "Default is not a concrete access mode")),
      .ok (.string "b"), .error (.error (.badType 1 "f" "string" .nil))]
  let added : Session := ((addMethod m).run (bare 1)).2
  let t : Session := (Action.execAll (MethodEvent.perform 1 ⟨0⟩) added events).2
  have hbuild : d.build = .ok m := rfl
  have hadded : (addMethod m).run (bare 1) = (⟨0⟩, added) := rfl
  have houtcomes : (Action.execAll (MethodEvent.perform 1 ⟨0⟩) added events).1 = outcomes := rfl
  have hrun : Action.execAll (MethodEvent.perform 1 ⟨0⟩) added events = (outcomes, t) :=
    Prod.ext houtcomes rfl
  have hkept : t.method? ⟨0⟩ = some (.optimized m) := rfl
  obtain ⟨⟨slot, hslot, -, hplan, -, -⟩, m', added', t', hbuild', hadded', hrun', -, -⟩ :=
    access_mode_unobservable hbuild hadded 1 events hrun
  obtain rfl : MethodSlot.optimized m = slot := Option.some.inj (hkept.symm.trans hslot)
  exact ⟨d, m, added, t, ⟨0⟩, events, outcomes, rfl, hbuild, hadded, rfl, hrun, ⟨_, rfl⟩,
    ⟨_, hslot, rfl, hplan⟩, m', added', t', hbuild', hadded', hrun'⟩

end Session

end ScriptHost
