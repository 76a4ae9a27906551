import ScriptHost.Proofs.PlainBinding

/-!
# Results and output parameters

What a host method returns goes back to the script together with the parameters that carry results.
Which of them do is found out among the declared parameters, and their values are read back from the
arguments as the host code left them. The two lists go side by side, so each value that goes back is
that of its own parameter, whatever the host code wrote and wherever it wrote it.

## Main definitions

* `Method.declared`, `Parameter.carriesResult`: the parameters whose values may go back.
* `Method.carried`: the values that go back beside the result.
* `HostCall.setOuts`, `lastWrite?`: what host code writes to its arguments.
* `Method.Answers`: the value a script gets.
* `Session.HostReturns`: the host code of a call runs and returns.

## Main results

* `Method.map_outIndices`: the positions that are read back are those of the output parameters.
* `HostCall.getElem?_args_setOuts`: arguments after some writes.
* `Session.run_assemble`: how the value for the script is made.
* `Session.outputs_follow_result`: the value of every call that succeeds.
-/

namespace ScriptHost

/-! ## Output parameters -/

/-- Whether the value of a parameter goes back to the script. -/
def Parameter.carriesResult (p : Parameter) : Bool := p.isOut || p.byRef

namespace Method

/-- The parameters without the type slots. -/
def declared (m : Method) : List Parameter := m.parameters.drop m.genericCount

/-- **The values that go back** beside the result: of every output parameter the argument at its own
position, in declared order. -/
def carried (m : Method) (args : List HostValue) : List HostValue :=
  ((m.declared.zip args).filter (·.1.carriesResult)).map (·.2)

theorem outIndices_eq_nil_iff (m : Method) :
    m.outIndices = [] ↔ ∀ p ∈ m.declared, p.carriesResult = false := by
  unfold outIndices
  rw [List.map_eq_nil_iff, List.filter_eq_nil_iff]
  constructor
  · intro h p hp
    obtain ⟨i, hi⟩ := List.mem_iff_getElem?.mp hp
    have hmem : (p, i) ∈ m.declared.zipIdx := List.mem_zipIdx_iff_getElem?.mpr hi
    simpa [Parameter.carriesResult] using h (p, i) hmem
  · intro h q hq
    have hp := h q.1 (List.fst_mem_of_mem_zipIdx hq)
    simpa [Parameter.carriesResult] using hp

/-- Reading back: the positions of the output parameters give the values that go back, if there
are as many arguments as parameters. -/
theorem map_outIndices (m : Method) {args : List HostValue}
    (hlength : args.length = m.declared.length) :
    m.outIndices.map (args.getD · .null) = m.carried args := by
  have hzip : m.declared.zip args = m.declared.zipIdx.map fun q => (q.1, args.getD q.2 .null) := by
    apply List.ext_getElem?
    intro i
    rw [List.getElem?_map, List.getElem?_zipIdx, List.zip_eq_zipWith, List.getElem?_zipWith,
      Nat.zero_add]
    cases hp : m.declared[i]? with
    | none => rfl
    | some p =>
      obtain ⟨hi, -⟩ := List.getElem?_eq_some_iff.mp hp
      rw [← hlength] at hi
      rw [List.getElem?_eq_getElem hi]
      simp [List.getD_eq_getElem?_getD, hi]
  unfold outIndices carried
  rw [hzip, List.filter_map, List.map_map, List.map_map]
  rfl

end Method

/-! ## What host code writes -/

/-- The last value that some writes put at a position. -/
def lastWrite? (writes : List (Nat × HostValue)) (i : Nat) : Option HostValue :=
  ((writes.filter (·.1 == i)).getLast?).map (·.2)

namespace HostCall

/-- The call after some writes to its arguments, one after the other. -/
def setOuts (c : HostCall) (writes : List (Nat × HostValue)) : HostCall :=
  writes.foldl (fun c w => c.setOut w.1 w.2) c

/-- Arguments after some writes: the last value written, or what was bound. -/
theorem getElem?_args_setOuts (c : HostCall) (writes : List (Nat × HostValue)) (i : Nat) :
    (c.setOuts writes).args[i]? = c.args[i]?.map fun bound => (lastWrite? writes i).getD bound := by
  induction writes generalizing c with
  | nil => simp [setOuts, lastWrite?]
  | cons w writes ih =>
    have hstep : c.setOuts (w :: writes) = (c.setOut w.1 w.2).setOuts writes := rfl
    rw [hstep, ih]
    by_cases hi : w.1 = i
    · subst hi
      have hlast : lastWrite? (w :: writes) w.1 = some ((lastWrite? writes w.1).getD w.2) := by
        unfold lastWrite?
        rw [List.filter_cons_of_pos (by simp), List.getLast?_cons, Option.map_some]
        cases (writes.filter (·.1 == w.1)).getLast? <;> rfl
      rw [hlast, setOut]
      cases hbound : c.args[w.1]? with
      | none =>
        rw [List.getElem?_eq_none]
        · rfl
        · rw [List.length_set]
          exact List.getElem?_eq_none_iff.mp hbound
      | some bound =>
        obtain ⟨hlt, -⟩ := List.getElem?_eq_some_iff.mp hbound
        rw [List.getElem?_set_self hlt]
        rfl
    · have hlast : lastWrite? (w :: writes) i = lastWrite? writes i := by
        unfold lastWrite?
        rw [List.filter_cons_of_neg (by simpa using hi)]
      rw [hlast, setOut, List.getElem?_set_ne hi]

theorem length_args_setOuts (c : HostCall) (writes : List (Nat × HostValue)) :
    (c.setOuts writes).args.length = c.args.length := by
  induction writes generalizing c with
  | nil => rfl
  | cons w writes ih => exact (ih (c.setOut w.1 w.2)).trans (List.length_set ..)

end HostCall

/-! ## The value for the script -/

/-- A result as one value, or none if it is void. -/
def HostValue.primary : HostValue → List HostValue
  | .void => []
  | h => [h]

namespace Session

theorem outValues_eq (args : List HostValue) (indices : List Nat) :
    outValues args indices = toScriptAll (indices.map (args.getD · .null)) := by
  induction indices with
  | nil => rfl
  | cons i indices ih => rw [outValues, ih, List.map_cons, toScriptAll]

/-- **How the value for the script is made**: of the result alone if no parameter carries a result,
and otherwise of the result, unless it is void, and of all values that go back, one after the other.
-/
theorem run_assemble (m : Method) (result : HostValue) {args : List HostValue}
    (hlength : args.length = m.declared.length) (t : Session) :
    (assemble m result args).run t =
      if m.outIndices = [] then (toScript result).run t
      else
        let r := (toScriptAll (result.primary ++ m.carried args)).run t
        (.ofList r.1, r.2) := by
  rw [← m.map_outIndices hlength]
  unfold assemble
  cases hindices : m.outIndices with
  | nil => rfl
  | cons i indices =>
    rw [if_neg (List.cons_ne_nil i indices)]
    dsimp only
    rw [outValues_eq]
    cases result with
    | void => rfl
    | _ =>
      simp only [HostValue.primary, List.cons_append, List.nil_append]
      rw [toScriptAll]
      rfl

end Session

/-- The value a script gets for what host code returned in a session: the result converted, if
no parameter carries a result, and otherwise the tuple of the result, unless it is void, and of all
values that go back, converted one after the other. A tuple among them gives way to its values. -/
structure Method.Answers (m : Method) (result : HostValue) (args : List HostValue) (t : Session)
    (v : Value) (u : Session) : Prop where
  plain : (∀ p ∈ m.declared, p.carriesResult = false) → (Session.toScript result).run t = (v, u)
  outputs : (∃ p ∈ m.declared, p.carriesResult = true) → ∃ vs,
    (Session.toScriptAll (result.primary ++ m.carried args)).run t = (vs, u) ∧ v = .ofList vs ∧
      ((∀ w ∈ vs, w.isTuple = false) → v = .tuple vs)

theorem Method.answers_of_run_assemble {m : Method} {result : HostValue} {args : List HostValue}
    (hlength : args.length = m.declared.length) {t u : Session} {v : Value}
    (h : (Session.assemble m result args).run t = (v, u)) : m.Answers result args t v u := by
  rw [Session.run_assemble m result hlength] at h
  constructor
  · intro hplain
    rwa [if_pos (m.outIndices_eq_nil_iff.mpr hplain)] at h
  · rintro ⟨p, hp, hcarries⟩
    have hindices : m.outIndices ≠ [] := by
      intro hnil
      have hnone := m.outIndices_eq_nil_iff.mp hnil p hp
      rw [hcarries] at hnone
      cases hnone
    rw [if_neg hindices] at h
    obtain ⟨hv, hu⟩ := Prod.mk.inj h
    refine ⟨_, Prod.ext rfl hu, hv.symm, fun hsingle => ?_⟩
    rw [← hv]
    exact Value.ofList_eq_tuple hsingle

namespace Session

/-- The host code of a call runs and returns: the arguments are bound to a call of it, and on
that call it returns a result and the arguments as it left them. -/
def HostReturns (s : Session) (host : Method → HostCall → Action HostReply) (id : MethodId)
    (receiver : Option Object) (a : Arguments) (m : Method) (call : HostCall) (result : HostValue)
    (args : List HostValue) (t : Session) : Prop :=
  ∃ s', (∀ host, (execute host id receiver a).exec s = (host m call >>= concluded m).exec s') ∧
    (host m call).exec s' = (.ok (.returned result args), t)

/-- A call succeeds with what is made of a result that its host code returns. -/
theorem exec_bind_concluded_eq_ok_iff {m : Method} {x : Action HostReply} {s u : Session}
    {v : Value} :
    (x >>= concluded m).exec s = (.ok v, u) ↔
      ∃ result args t, x.exec s = (.ok (.returned result args), t) ∧
        (assemble m result args).run t = (v, u) := by
  constructor
  · intro h
    rcases hx : x.exec s with ⟨i | reply, t⟩
    · rw [Action.exec_bind_of_error hx] at h
      cases h
    · rw [Action.exec_bind_of_ok hx] at h
      cases reply with
      | failed message => cases h
      | returned result args =>
        obtain ⟨hv, hu⟩ := Prod.mk.inj h
        exact ⟨result, args, t, rfl, Prod.ext (Except.ok.inj hv) hu⟩
  · rintro ⟨result, args, t, hx, hassemble⟩
    rw [Action.exec_bind_of_ok hx, concluded, Action.exec_lift, hassemble]

theorem length_args_of_bind {m : Method} (hvalid : m.Valid) {s : Session} {receiver : Option Object}
    {a : Arguments} {call : HostCall} (h : s.bind m m.plan receiver a = .ok call) :
    call.args.length = m.declared.length := by
  rw [bind_eq_bindPlainly hvalid] at h
  obtain ⟨-, hvalues⟩ := of_bindPlainly_eq_ok s.toHost h
  rw [← (mapM_eq_ok_iff.mp hvalues).length_eq]
  simp [Method.routes, Method.declared, Method.plan]

/-- **Output parameters follow the result.** A call of a method succeeds exactly when its arguments
can be bound and its host code returns. If the host code keeps the number of its arguments, the
script gets the result converted, or a tuple of it and of the values that the output parameters have
after the call, each once, in declared order and each at its own position. Host code that only
writes to its arguments keeps their number, and each of them is what was last written to it, or else
what was bound. -/
theorem outputs_follow_result {m : Method} (hvalid : m.Valid) {s : Session} {id : MethodId}
    {slot : MethodSlot} (hslot : s.method? id = some slot) (hmethod : slot.method = m)
    (receiver : Option Object) (a : Arguments) (host : Method → HostCall → Action HostReply) :
    ((∃ v u, (execute host id receiver a).exec s = (.ok v, u)) ↔
      ∃ call result args t, s.HostReturns host id receiver a m call result args t) ∧
    (∀ v u call result args t, (execute host id receiver a).exec s = (.ok v, u) →
      s.HostReturns host id receiver a m call result args t →
      args.length = call.args.length → m.Answers result args t v u) ∧
    ∀ (call : HostCall) writes, (call.setOuts writes).args.length = call.args.length ∧
      ∀ i, (call.setOuts writes).args[i]? =
        call.args[i]?.map fun bound => (lastWrite? writes i).getD bound := by
  subst hmethod
  refine ⟨⟨?_, ?_⟩, ?_, fun call writes => ⟨call.length_args_setOuts writes,
    call.getElem?_args_setOuts writes⟩⟩
  · rintro ⟨v, u, hexec⟩
    obtain ⟨s', -, -, hcall⟩ := exec_execute hslot receiver a
    cases hbind : s.bind slot.method slot.method.plan receiver a with
    | error e =>
      rw [hcall, hbind] at hexec
      cases hexec
    | ok call =>
      rw [hbind] at hcall
      rw [hcall] at hexec
      obtain ⟨result, args, t, hhost, -⟩ := exec_bind_concluded_eq_ok_iff.mp hexec
      exact ⟨call, result, args, t, s', hcall, hhost⟩
  · rintro ⟨call, result, args, t, s', hcall, hhost⟩
    exact ⟨_, _, (hcall host).trans
      (exec_bind_concluded_eq_ok_iff.mpr ⟨result, args, t, hhost, rfl⟩)⟩
  · rintro v u call result args t hexec ⟨s', hcall, hhost⟩ hlength
    rw [hcall] at hexec
    obtain ⟨result', args', t', hhost', hassemble⟩ := exec_bind_concluded_eq_ok_iff.mp hexec
    obtain ⟨⟨rfl, rfl⟩, rfl⟩ : (result = result' ∧ args = args') ∧ t = t' := by
      simpa using hhost.symm.trans hhost'
    have hbind := (comesTo_iff_bind hslot).mp ⟨s', hcall⟩
    exact Method.answers_of_run_assemble (hlength.trans (length_args_of_bind hvalid hbind))
      hassemble

/-- A generic method with a parameter that only carries a result, one that is at hand in the call
and one that carries a result besides its value. The host code returns nothing and writes to the
last two: the script gets a tuple of nil and what was written. -/
theorem outputs_follow_result_of_void :
    ∃ (d : Declaration) (m : Method) (s u : Session) (a : Arguments) (call : HostCall)
      (writes : List (Nat × HostValue)) (host : Method → HostCall → Action HostReply) (v : Value),
      d.genericCount = 1 ∧
      d.parameters = [{ name := "x", type := .bool, isOut := true },
        { name := "here", type := .context }, { name := "y", type := .string, byRef := true }] ∧
      d.build = .ok m ∧ s.method? ⟨0⟩ = some (.fresh m) ∧
      a = ⟨[.string "t", .string "before"], false⟩ ∧
      call = ⟨none, [.text], [.null, .context, .text "before"]⟩ ∧
      writes = [(2, .text "after"), (1, .null), (3, .null)] ∧
      host = (fun _ c => return .returned .void (c.setOuts writes).args) ∧
      (execute host ⟨0⟩ none a).exec s = (.ok v, u) ∧
      m.Answers .void (call.setOuts writes).args s v u ∧ v = .tuple [.nil, .string "after"] := by
  let d : Declaration :=
    { name := "f"
      isStatic := true
      genericCount := 1
      parameters := [{ name := "x", type := .bool, isOut := true },
        { name := "here", type := .context }, { name := "y", type := .string, byRef := true }]
      code := .body (.value .void) }
  obtain ⟨m, hbuild⟩ : ∃ m, d.build = .ok m := ⟨_, rfl⟩
  let s : Session := { bare 1 with methods := #[.fresh m] }
  let a : Arguments := ⟨[.string "t", .string "before"], false⟩
  let call : HostCall := ⟨none, [.text], [.null, .context, .text "before"]⟩
  let writes : List (Nat × HostValue) := [(2, .text "after"), (1, .null), (3, .null)]
  let host (_ : Method) (c : HostCall) : Action HostReply :=
    return .returned .void (c.setOuts writes).args
  have hslot : s.method? ⟨0⟩ = some (.fresh m) := rfl
  have hreturns : s.HostReturns host ⟨0⟩ none a m call .void (call.setOuts writes).args s := by
    obtain rfl := Except.ok.inj hbuild
    exact ⟨s, fun host => exec_execute_eq none a hslot host, rfl⟩
  obtain ⟨hsucceeds, hanswers, hwrites⟩ :=
    outputs_follow_result (.built hbuild) hslot rfl none a host
  obtain ⟨v, u, hexec⟩ := hsucceeds.mpr ⟨call, .void, _, s, hreturns⟩
  have hanswer := hanswers v u call .void _ s hexec hreturns (hwrites call writes).1
  have hv : v = .tuple [.nil, .string "after"] := by
    have hvs :
        (toScriptAll (HostValue.void.primary ++ m.carried (call.setOuts writes).args)).run s =
          ([.nil, .string "after"], s) := by
      obtain rfl := Except.ok.inj hbuild
      rfl
    obtain ⟨vs, hrun, -, htuple⟩ := hanswer.outputs (by
      obtain rfl := Except.ok.inj hbuild
      exact ⟨_, List.mem_cons_self, rfl⟩)
    obtain ⟨rfl, -⟩ := Prod.mk.inj (hvs.symm.trans hrun)
    exact htuple (by simp [Value.isTuple])
  exact ⟨d, m, s, u, a, call, writes, host, v, rfl, rfl, hbuild, hslot, rfl, rfl, rfl, rfl, hexec,
    hanswer, hv⟩

end Session

end ScriptHost
