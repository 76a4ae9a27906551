import ScriptHost.Proofs.Quiet
import ScriptHost.Method.HostCode

/-!
# Plans that are kept

A call of a method asks for its plan, binds its arguments by it and runs the host code. The plan is
the method's own whether it was kept or is made anew, so all that a call does up to its host code is
calm: it may keep the plan, and nothing that follows can tell.

## Main definitions

* `Session.prepare`: a call of a method up to its host code.
* `Session.concluded`: what is made of the reply of the host code.

## Main results

* `Session.run_bindingPlan_cases`: the plan a call uses, and what happens to the session.
* `Session.calm_prepare`: a call of a method is calm up to its host code.
* `Session.execute_eq`: a whole call.
-/

namespace ScriptHost

namespace Session

/-- What keeping the plan of a method does. -/
theorem run_bindingPlan (id : MethodId) (slot : MethodSlot) (s : Session) :
    (bindingPlan id slot).run s =
      if s.accessMode slot.method = .reflection then (slot.method.plan, s)
      else
        match slot.kept with
        | some plan => (plan, s)
        | none =>
          (slot.method.plan,
            { s with methods := s.methods.setIfInBounds id.index (.optimized slot.method) }) := by
  unfold bindingPlan
  rw [Update.run_get_bind]
  split
  · rfl
  · rcases slot with ⟨m, _ | plan, _⟩ <;> rfl

/-- A method whose plan is made anew for every call has no other mode in force. -/
theorem accessMode_of_reflection (s : Session) {m : Method} (h : m.mode = .reflection) :
    s.accessMode m = .reflection := by
  unfold accessMode
  rw [h]
  rfl

/-- The plan a call uses is the method's own. The session stays as it is, or the plan is kept
for a method that may keep it. -/
theorem run_bindingPlan_cases (id : MethodId) (slot : MethodSlot) (s : Session) :
    (bindingPlan id slot).run s = (slot.method.plan, s) ∨
      (slot.method.mode ≠ .reflection ∧ (bindingPlan id slot).run s = (slot.method.plan,
        { s with methods := s.methods.setIfInBounds id.index (.optimized slot.method) })) := by
  rw [run_bindingPlan]
  by_cases hmode : s.accessMode slot.method = .reflection
  · rw [if_pos hmode]
    exact Or.inl rfl
  · rw [if_neg hmode]
    cases hkept : slot.kept with
    | some plan => exact Or.inl (by rw [slot.plan_of_kept plan hkept])
    | none => exact Or.inr ⟨fun h => hmode (s.accessMode_of_reflection h), rfl⟩

section

variable {id : MethodId} {slot : MethodSlot} {s : Session} (hslot : s.method? id = some slot)
include hslot

theorem advances_bindingPlan : s.Advances ((bindingPlan id slot).run s).2 := by
  rcases run_bindingPlan_cases id slot s with hrun | ⟨hmode, hrun⟩ <;> rw [hrun]
  · exact Advances.refl s
  · intro id' slot' hslot'
    unfold method? at hslot hslot' ⊢
    dsimp only
    by_cases hid : id.index = id'.index
    · obtain ⟨hlt, -⟩ := Array.getElem?_eq_some_iff.mp hslot
      rw [← hid, hslot] at hslot'
      obtain rfl : slot = slot' := Option.some.inj hslot'
      rw [← hid, Array.getElem?_setIfInBounds_self_of_lt hlt]
      exact ⟨_, rfl, Or.inr ⟨hmode, rfl⟩⟩
    · rw [Array.getElem?_setIfInBounds_ne hid]
      exact ⟨slot', hslot', Or.inl rfl⟩

/-- Where every plan is made anew, it is not seen that one is kept. -/
theorem reflected_bindingPlan : ((bindingPlan id slot).run s).2.reflected = s.reflected := by
  rcases run_bindingPlan_cases id slot s with hrun | ⟨-, hrun⟩ <;> rw [hrun]
  have hsame : (s.methods.setIfInBounds id.index (.optimized slot.method)).map
      MethodSlot.reflected = s.methods.map MethodSlot.reflected := by
    refine Array.ext_getElem? fun i => ?_
    rw [Array.getElem?_map, Array.getElem?_map]
    unfold method? at hslot
    by_cases hi : id.index = i
    · obtain ⟨hlt, -⟩ := Array.getElem?_eq_some_iff.mp hslot
      rw [← hi, Array.getElem?_setIfInBounds_self_of_lt hlt, hslot]
      rfl
    · rw [Array.getElem?_setIfInBounds_ne hi]
  unfold reflected
  rw [hsame]

end

/-! ## Calls up to their host code -/

/-- **What is made of the reply** of the host code. -/
def concluded (m : Method) : HostReply → Action Value
  | .failed message => Action.fail (.hostInvocation m.name (.text message))
  | .returned result args => assemble m result args

/-- **A call of a method up to its host code**: the method, as if its plan were made anew for every
call, and what its arguments are bound to. -/
def prepare (id : MethodId) (receiver : Option Object) (a : Arguments) :
    Action (Method × HostCall) := do
  match (← get).method? id with
  | none => Action.fail (.runtime "no overload to call")
  | some slot =>
    let plan ← bindingPlan id slot
    let call ← Action.ofExcept ((← get).bind slot.method plan receiver a)
    return (slot.method.reflected, call)

section

variable {id : MethodId} {slot : MethodSlot} {s : Session} (receiver : Option Object)
  (a : Arguments)

/-- What binding by the plan a call uses does: the plan is the method's own, and keeping it does not
change what arguments are converted to. -/
theorem exec_bindingPlan_bind {α : Type} (f : HostCall → Action α) :
    (liftM (bindingPlan id slot) >>= fun plan => get >>= fun t =>
        Action.ofExcept (t.bind slot.method plan receiver a) >>= f).exec s =
      match s.bind slot.method slot.method.plan receiver a with
      | .error e => (.error (.error e), ((bindingPlan id slot).run s).2)
      | .ok call => (f call).exec ((bindingPlan id slot).run s).2 := by
  obtain ⟨t, hplan, hheap, hconverters⟩ : ∃ t : Session,
      (bindingPlan id slot).run s = (slot.method.plan, t) ∧ t.heap = s.heap ∧
        t.converters = s.converters := by
    rcases run_bindingPlan_cases id slot s with hrun | ⟨-, hrun⟩ <;> exact ⟨_, hrun, rfl, rfl⟩
  have hlift : (liftM (bindingPlan id slot) : Action (List Binding)).exec s =
      (.ok slot.method.plan, t) := by
    rw [Action.exec_lift, hplan]
  rw [Action.exec_bind_of_ok hlift, Action.exec_bind_of_ok (Action.exec_get t), Action.exec_bind,
    Action.exec_ofExcept, bind_congr hheap hconverters, hplan]
  cases s.bind slot.method slot.method.plan receiver a <;> rfl

/-- A call of a method: the arguments are bound, and if they can be, the host code runs on them
and the result is made of its reply. -/
theorem exec_execute_eq (hslot : s.method? id = some slot)
    (host : Method → HostCall → Action HostReply) :
    (execute host id receiver a).exec s =
      match s.bind slot.method slot.method.plan receiver a with
      | .error e => (.error (.error e), ((bindingPlan id slot).run s).2)
      | .ok call =>
        (host slot.method call >>= concluded slot.method).exec
          ((bindingPlan id slot).run s).2 := by
  have hconcluded (call : HostCall) :
      (host slot.method call >>= fun reply =>
        match reply with
        | .failed message => Action.fail (.hostInvocation slot.method.name (.text message))
        | .returned result args => liftM (assemble slot.method result args)) =
      host slot.method call >>= concluded slot.method := by
    refine congrArg _ (funext fun reply => ?_)
    cases reply <;> rfl
  unfold execute
  rw [Action.exec_bind_of_ok (Action.exec_get s), hslot]
  simp only [← hconcluded]
  exact exec_bindingPlan_bind receiver a _

theorem exec_prepare (hslot : s.method? id = some slot) :
    (prepare id receiver a).exec s =
      match s.bind slot.method slot.method.plan receiver a with
      | .error e => (.error (.error e), ((bindingPlan id slot).run s).2)
      | .ok call => (.ok (slot.method.reflected, call), ((bindingPlan id slot).run s).2) := by
  unfold prepare
  rw [Action.exec_bind_of_ok (Action.exec_get s), hslot]
  exact exec_bindingPlan_bind receiver a _

theorem exec_prepare_of_none (hslot : s.method? id = none) :
    (prepare id receiver a).exec s = (.error (.error (.runtime "no overload to call")), s) := by
  unfold prepare
  rw [Action.exec_bind_of_ok (Action.exec_get s), hslot]
  rfl

/-- Calls of one method in two sessions bind the same arguments up to their host code, if binding
gives the same in both. -/
theorem exec_prepare_of_bind_eq {s' : Session} {slot' : MethodSlot}
    (hslot : s.method? id = some slot) (hslot' : s'.method? id = some slot')
    (hmethod : slot'.method.reflected = slot.method.reflected)
    (hbind : s'.bind slot'.method slot'.method.plan receiver a =
      s.bind slot.method slot.method.plan receiver a) :
    (prepare id receiver a).exec s' =
      (((prepare id receiver a).exec s).1, ((bindingPlan id slot').run s').2) := by
  rw [exec_prepare receiver a hslot', exec_prepare receiver a hslot, hbind, hmethod]
  cases s.bind slot.method slot.method.plan receiver a <;> rfl

/-- A call of a method up to its host code leaves what asking for its plan leaves. -/
theorem exec_prepare_snd (hslot : s.method? id = some slot) :
    ((prepare id receiver a).exec s).2 = ((bindingPlan id slot).run s).2 := by
  rw [exec_prepare receiver a hslot]
  cases s.bind slot.method slot.method.plan receiver a <;> rfl

end

/-- Binding does not look at when the plan is made. -/
theorem bindFrom_reflected (s : Session) (m : Method) (receiver : Option Object) (a : Arguments)
    (cursor : Nat) (typeArgs : List HostType) (bound : List HostValue)
    (rest : List (Parameter × Binding)) :
    s.bindFrom m.reflected receiver a cursor typeArgs bound rest =
      s.bindFrom m receiver a cursor typeArgs bound rest := by
  have hname : m.reflected.name = m.name := rfl
  induction rest generalizing cursor typeArgs bound with
  | nil => rfl
  | cons p rest ih =>
    obtain ⟨p, binding⟩ := p
    cases binding <;> simp only [bindFrom, convertArgument, collectVariadic, hname, ih]

theorem bind_reflected (s : Session) (m : Method) (receiver : Option Object) (a : Arguments) :
    s.reflected.bind m.reflected m.reflected.plan receiver a = s.bind m m.plan receiver a := by
  rw [bind_congr (s := s) (t := s.reflected) rfl rfl]
  unfold Session.bind
  simp only [bindFrom_reflected]
  rfl

/-- Where every plan is made anew, a call binds the same arguments and leaves the session as it is.
-/
theorem exec_prepare_reflected (id : MethodId) (receiver : Option Object) (a : Arguments)
    (s : Session) :
    (prepare id receiver a).exec s.reflected =
      (((prepare id receiver a).exec s).1, ((prepare id receiver a).exec s).2.reflected) := by
  have hmethod := s.method?_reflected id
  cases hslot : s.method? id with
  | none =>
    rw [hslot] at hmethod
    rw [exec_prepare_of_none receiver a hslot, exec_prepare_of_none receiver a hmethod]
  | some slot =>
    rw [hslot] at hmethod
    have hplan : ((bindingPlan id slot.reflected).run s.reflected).2 = s.reflected := by
      rw [run_bindingPlan, if_pos (accessMode_of_reflection _ rfl)]
    rw [exec_prepare_of_bind_eq receiver a hslot hmethod rfl
        (s.bind_reflected slot.method receiver a),
      hplan, exec_prepare_snd receiver a hslot, reflected_bindingPlan hslot]

/-- A change of the session that asking for a plan does not notice is not noticed up to the host
code either, as long as arguments are converted to the same. -/
theorem exec_prepare_changed {f : Session → Session} {id : MethodId}
    (receiver : Option Object) (a : Arguments) {s : Session}
    (hheap : (f s).heap = s.heap) (hconverters : (f s).converters = s.converters)
    (hmethod : (f s).method? id = s.method? id)
    (hplan : ∀ slot, ((bindingPlan id slot).run (f s)).2 =
      f ((bindingPlan id slot).run s).2) :
    (prepare id receiver a).exec (f s) =
      (((prepare id receiver a).exec s).1, f ((prepare id receiver a).exec s).2) := by
  cases hslot : s.method? id with
  | none =>
    rw [hslot] at hmethod
    rw [exec_prepare_of_none receiver a hslot, exec_prepare_of_none receiver a hmethod]
  | some slot =>
    rw [hslot] at hmethod
    have hbind := bind_congr hheap hconverters slot.method slot.method.plan receiver a
    rw [exec_prepare_of_bind_eq receiver a hslot hmethod rfl hbind, hplan,
      exec_prepare_snd receiver a hslot]

theorem exec_prepare_withRethrow (id : MethodId) (receiver : Option Object) (a : Arguments)
    (s : Session) (b : Bool) :
    (prepare id receiver a).exec (s.withRethrow b) =
      (((prepare id receiver a).exec s).1, ((prepare id receiver a).exec s).2.withRethrow b) := by
  refine exec_prepare_changed (f := (·.withRethrow b)) receiver a rfl rfl rfl fun slot => ?_
  -- The mode in force is looked up in settings that differ in nothing else.
  have hmode : (s.withRethrow b).accessMode slot.method = s.accessMode slot.method := rfl
  rw [run_bindingPlan, run_bindingPlan, hmode]
  split
  · rfl
  · split <;> rfl

theorem exec_prepare_after (id : MethodId) (receiver : Option Object) (a : Arguments)
    (s : Session) (calls : List Invocation) :
    (prepare id receiver a).exec (s.after calls) =
      (((prepare id receiver a).exec s).1, ((prepare id receiver a).exec s).2.after calls) := by
  refine exec_prepare_changed (f := (·.after calls)) receiver a rfl rfl rfl fun slot => ?_
  have hmode : (s.after calls).accessMode slot.method = s.accessMode slot.method := rfl
  rw [run_bindingPlan, run_bindingPlan, hmode]
  split
  · rfl
  · split <;> rfl

/-- **Keeping plans changes no call**: a call of a method is calm up to its host code. -/
theorem calm_prepare (id : MethodId) (receiver : Option Object) (a : Arguments) :
    (prepare id receiver a).Calm := by
  refine ⟨fun s => ?_, fun s => ?_, fun s d => ?_⟩
  · show ((prepare id receiver a).exec s).2.control = s.control
    cases hslot : s.method? id with
    | none => rw [exec_prepare_of_none receiver a hslot]
    | some slot =>
      rw [exec_prepare_snd receiver a hslot]
      rcases run_bindingPlan_cases id slot s with hrun | ⟨-, hrun⟩
      · rw [hrun]
      · rw [hrun]
        rfl
  · show s.Advances ((prepare id receiver a).exec s).2
    cases hslot : s.method? id with
    | none =>
      rw [exec_prepare_of_none receiver a hslot]
      exact Advances.refl s
    | some slot =>
      rw [exec_prepare_snd receiver a hslot]
      exact advances_bindingPlan hslot
  · cases d with
    | rethrow b => exact exec_prepare_withRethrow id receiver a s b
    | reflection => exact exec_prepare_reflected id receiver a s
    | earlier calls => exact exec_prepare_after id receiver a s calls

/-- **A whole call of a method**: all that comes before its host code, the host code, and what is
made of the reply. None of these depends on when the plan is made. -/
theorem execute_eq (re : Reentry) (id : MethodId) (receiver : Option Object) (a : Arguments) :
    execute (HostCode.run re) id receiver a =
      prepare id receiver a >>= fun p => HostCode.run re p.1 p.2 >>= concluded p.1 := by
  funext s
  show (execute (HostCode.run re) id receiver a).exec s = Action.exec _ s
  cases hslot : s.method? id with
  | none =>
    rw [Action.exec_bind_of_error (exec_prepare_of_none receiver a hslot)]
    unfold execute
    rw [Action.exec_bind_of_ok (Action.exec_get s), hslot]
    rfl
  | some slot =>
    rw [exec_execute_eq receiver a hslot, Action.exec_bind, exec_prepare receiver a hslot]
    cases s.bind slot.method slot.method.plan receiver a <;> rfl

end Session

end ScriptHost
