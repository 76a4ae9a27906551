import ScriptHost.Proofs.KeptPlan
import ScriptHost.Module

/-!
# Where the arguments of a host method come from

Binding goes through the parameters of a method with one cursor into the arguments of the call, and
some bindings move it and some do not. Said without the cursor: each declared parameter gets one
value, and the argument it is made of stands behind those that the parameters before it use up.

## Main definitions

* `Binding.takesArgument`, `Method.argumentsBefore`: which bindings use up an argument, and how many
  do so before a parameter.
* `Session.Gathers`, `Session.Receives`: what a variadic parameter and what any parameter gets.
* `Session.Refuses`: why a parameter gets nothing, and which argument that is about.
* `Session.Routed`: the call of the host code that a declaration asks for.
* `Session.ComesTo`: a call of a method comes to a call of the host code.

## Main results

* `Session.bindFrom_typeSlots_cases`: the type slots of a method.
* `Session.bindFrom_cons_cases`: one declared parameter.
* `Session.bindFrom_cases`: all declared parameters.
* `Session.exec_execute`: a call of a method binds, runs the host code and makes its result.
* `Session.comesTo_iff_bind`: what a call of a method comes to is what binding makes of it.
* `Session.arguments_routed`: what a call of a method comes to is what its declaration asks for.
-/

namespace ScriptHost

/-- Whether a binding uses up an argument; an extension takes its receiver from the arguments if it
has no other. -/
def Binding.takesArgument (hasReceiver : Bool) : Binding → Bool
  | .typeSlot | .convert => true
  | .extensionReceiver => !hasReceiver
  | .script | .context | .arguments | .out | .variadic => false

/-- **How many arguments** the parameters before a position use up. -/
def Method.argumentsBefore (m : Method) (hasReceiver : Bool) (i : Nat) : Nat :=
  (m.plan.take i).countP (·.takesArgument hasReceiver)

/-- Where the arguments of a call start: the receiver of a method call is none of them. -/
def Arguments.offset (a : Arguments) : Nat := if a.isMethodCall then 1 else 0

namespace Session

/-- Whether some values are one host array with a given element type and nothing else. -/
def IsLoneArray (element : ParamType) (vs : List Value) (given : HostArray) : Prop :=
  ∃ u, vs = [.userdata u] ∧ u.object.array? = some given ∧ given.element = element

/-- **What a variadic parameter gets** for the arguments that are left, from a position on: a single
host array of the right element type as it is, and otherwise the array of all of them, each
converted at the element type. -/
inductive Gathers (s : Session) (function : String) (element : ParamType) (position : Nat)
    (extra : List Value) : HostValue → Prop
  | lone {given : HostArray} (h : IsLoneArray element extra given) :
      Gathers s function element position extra (.array given)
  | each {items : List HostValue} (hlone : ∀ given, ¬ IsLoneArray element extra given)
      (hlength : items.length = extra.length)
      (hitems : ∀ k v item, extra[k]? = some v → items[k]? = some item →
        s.toHost v element none ⟨function, position + k + 1⟩ = .ok item) :
      Gathers s function element position extra (.array ⟨element, [items.length], items⟩)

/-- A parameter gets the argument at a position, or nil beyond the last, converted at its type with
the type arguments in place and with its own default. -/
def ReceivesConverted (s : Session) (function : String) (a : Arguments)
    (typeArgs : List HostType) (p : Parameter) (position : Nat) (h : HostValue) : Prop :=
  s.toHost ((a.raw? position).getD .nil) (p.type.substitute typeArgs) p.default
    ⟨function, position + 1⟩ = .ok h

/-- **What a declared parameter gets** when the arguments before a position are used up. -/
def Receives (s : Session) (function : String) (receiver : Option Object) (a : Arguments)
    (typeArgs : List HostType) (p : Parameter) (position : Nat) : Binding → HostValue → Prop
  | .typeSlot, _ => False
  | .extensionReceiver, h =>
    match receiver with
    | some o => h = .object o
    | none => s.ReceivesConverted function a typeArgs p position h
  | .script, h => h = .script
  | .context, h => h = .context
  | .arguments, h => h = .arguments a.skipReceiver
  | .out, h => h = .null
  | .variadic, h =>
    ∃ element, p.type.substitute typeArgs = .array element ∧
      s.Gathers function element position (a.values.drop position) h
  | .convert, h => s.ReceivesConverted function a typeArgs p position h

/-- Why a parameter gets nothing when the arguments before a position are used up: an argument
stands for no type, or it cannot be converted. The error is about the argument at the second
position. -/
inductive Refuses (s : Session) (m : Method) (receiver : Option Object) (a : Arguments)
    (typeArgs : List HostType) (p : Parameter) (position : Nat) :
    Binding → Nat → ScriptError → Prop
  | typeSlot (h : (a.get position).typeArgument? = none) :
      Refuses s m receiver a typeArgs p position .typeSlot position (.genericBinding m.name)
  | extensionReceiver {e : ScriptError} (hreceiver : receiver = none)
      (h : s.convertArgument m a position p typeArgs = .error e) :
      Refuses s m receiver a typeArgs p position .extensionReceiver position e
  | convert {e : ScriptError} (h : s.convertArgument m a position p typeArgs = .error e) :
      Refuses s m receiver a typeArgs p position .convert position e
  | item {element : ParamType} {k : Nat} {v : Value} {e : ScriptError}
      (htype : p.type.substitute typeArgs = .array element)
      (hv : (a.values.drop position)[k]? = some v)
      (h : s.toHost v element none ⟨m.name, position + k + 1⟩ = .error e) :
      Refuses s m receiver a typeArgs p position .variadic (position + k) e

/-- The call of the host code that a declaration asks for: a type argument for each slot, taken
from the first arguments, and a value for each declared parameter. -/
structure Routed (s : Session) (d : Declaration) (m : Method) (receiver : Option Object)
    (a : Arguments) (call : HostCall) : Prop where
  typeArgs_length : call.typeArgs.length = d.genericCount
  typeArgs : ∀ i t, call.typeArgs[i]? = some t →
    (a.get (a.offset + i)).staticType?.or (a.get (a.offset + i)).runtimeType? = some t
  args_length : call.args.length = d.parameters.length
  args : ∀ i p h, d.parameters[i]? = some p → call.args[i]? = some h →
    s.Receives m.name receiver a call.typeArgs p
      (a.offset + m.argumentsBefore receiver.isSome (d.genericCount + i))
      (m.bindingAt (d.genericCount + i) p) h

/-! ## Conversion of the arguments that are left -/

theorem convertEach_ok {s : Session} {function : String} {element : ParamType} {i : Nat}
    {vs : List Value} {items : List HostValue}
    (h : s.convertEach function element i vs = .ok items) :
    items.length = vs.length ∧ ∀ k v item, vs[k]? = some v → items[k]? = some item →
      s.toHost v element none ⟨function, i + k + 1⟩ = .ok item := by
  induction vs generalizing i items with
  | nil =>
    obtain rfl : items = [] := (Except.ok.inj h).symm
    exact ⟨rfl, fun k v item hv => by simp at hv⟩
  | cons v vs ih =>
    rw [convertEach] at h
    cases hv : s.toHost v element none ⟨function, i + 1⟩ with
    | error e =>
      rw [hv] at h
      cases h
    | ok item =>
      cases hvs : s.convertEach function element (i + 1) vs with
      | error e =>
        rw [hv, hvs] at h
        cases h
      | ok rest =>
        rw [hv, hvs] at h
        obtain rfl : items = item :: rest := (Except.ok.inj h).symm
        obtain ⟨hlength, hrest⟩ := ih hvs
        refine ⟨congrArg (· + 1) hlength, fun k w item' hw hitem' => ?_⟩
        cases k with
        | zero =>
          obtain rfl : v = w := by simpa using hw
          obtain rfl : item = item' := by simpa using hitem'
          exact hv
        | succ k =>
          have hsite : i + (k + 1) + 1 = i + 1 + k + 1 := by omega
          rw [hsite]
          exact hrest k w item' (by simpa using hw) (by simpa using hitem')

theorem convertEach_error {s : Session} {function : String} {element : ParamType} {i : Nat}
    {vs : List Value} {e : ScriptError} (h : s.convertEach function element i vs = .error e) :
    ∃ k v, vs[k]? = some v ∧ s.toHost v element none ⟨function, i + k + 1⟩ = .error e := by
  induction vs generalizing i with
  | nil => cases h
  | cons v vs ih =>
    rw [convertEach] at h
    cases hv : s.toHost v element none ⟨function, i + 1⟩ with
    | error e' =>
      rw [hv] at h
      obtain rfl : e' = e := Except.error.inj h
      exact ⟨0, v, rfl, hv⟩
    | ok item =>
      cases hvs : s.convertEach function element (i + 1) vs with
      | error e' =>
        rw [hv, hvs] at h
        obtain rfl : e' = e := Except.error.inj h
        obtain ⟨k, w, hw, he⟩ := ih hvs
        have hsite : i + (k + 1) + 1 = i + 1 + k + 1 := by omega
        exact ⟨k + 1, w, hw, hsite ▸ he⟩
      | ok rest =>
        rw [hv, hvs] at h
        cases h

theorem gathers_of_collectVariadic {s : Session} {m : Method} {a : Arguments} {cursor : Nat}
    {p : Parameter} {typeArgs : List HostType} {element : ParamType} {h : HostValue}
    (htype : p.type.substitute typeArgs = .array element)
    (hcollect : s.collectVariadic m a cursor p typeArgs = .ok h) :
    s.Gathers m.name element cursor (a.values.drop cursor) h := by
  unfold collectVariadic at hcollect
  simp only [htype] at hcollect
  split at hcollect
  · rename_i given hgiven
    obtain rfl : h = .array given := (Except.ok.inj hcollect).symm
    split at hgiven
    · rename_i u hextra
      obtain ⟨harray, helement⟩ := Option.filter_eq_some_iff.mp hgiven
      exact .lone ⟨u, hextra, harray, by simpa using helement⟩
    · cases hgiven
  · rename_i hgiven
    cases hitems : s.convertEach m.name element cursor (a.values.drop cursor) with
    | error e =>
      rw [hitems] at hcollect
      cases hcollect
    | ok items =>
      rw [hitems] at hcollect
      obtain rfl : h = .array (.ofList element items) := (Except.ok.inj hcollect).symm
      obtain ⟨hlength, heach⟩ := convertEach_ok hitems
      refine .each ?_ hlength heach
      rintro given ⟨u, hextra, harray, helement⟩
      simp [hextra, harray, helement] at hgiven

theorem refuses_of_collectVariadic {s : Session} {m : Method} {receiver : Option Object}
    {a : Arguments} {cursor : Nat} {p : Parameter} {typeArgs : List HostType} {element : ParamType}
    {e : ScriptError} (htype : p.type.substitute typeArgs = .array element)
    (hcollect : s.collectVariadic m a cursor p typeArgs = .error e) :
    ∃ argument, s.Refuses m receiver a typeArgs p cursor .variadic argument e := by
  unfold collectVariadic at hcollect
  simp only [htype] at hcollect
  split at hcollect
  · cases hcollect
  · cases hitems : s.convertEach m.name element cursor (a.values.drop cursor) with
    | ok items =>
      rw [hitems] at hcollect
      cases hcollect
    | error e' =>
      rw [hitems] at hcollect
      obtain rfl : e' = e := Except.error.inj hcollect
      obtain ⟨k, v, hv, he⟩ := convertEach_error hitems
      exact ⟨cursor + k, .item htype hv he⟩

/-! ## One pass through the parameters -/

section

variable {s : Session} {m : Method} {receiver : Option Object} {a : Arguments} {cursor : Nat}
  {typeArgs : List HostType} {bound : List HostValue} {rest : List (Parameter × Binding)}
  {r : List HostType × List HostValue}

/-- The type slots take the first arguments, one each, or one of them stands for no type. -/
theorem bindFrom_typeSlots_cases {slots : List Parameter}
    {o : Except ScriptError (List HostType × List HostValue)}
    (h : s.bindFrom m receiver a cursor typeArgs bound (slots.map (·, .typeSlot) ++ rest) = o) :
    (∃ i p, slots[i]? = some p ∧ (a.get (cursor + i)).typeArgument? = none ∧
        o = .error (.genericBinding m.name)) ∨
      ∃ types, types.length = slots.length ∧
        (∀ i t, types[i]? = some t → (a.get (cursor + i)).typeArgument? = some t) ∧
        s.bindFrom m receiver a (cursor + slots.length) (typeArgs ++ types) bound rest = o := by
  induction slots generalizing cursor typeArgs with
  | nil => exact Or.inr ⟨[], rfl, fun i t ht => by simp at ht, by simpa using h⟩
  | cons p slots ih =>
    have hposition (i : Nat) : cursor + (i + 1) = cursor + 1 + i := by omega
    rw [List.map_cons, List.cons_append, bindFrom] at h
    cases ht : (a.get cursor).typeArgument? with
    | none =>
      rw [ht] at h
      exact Or.inl ⟨0, p, rfl, ht, h.symm⟩
    | some t =>
      rw [ht] at h
      rcases ih h with ⟨i, q, hq, hnone, herror⟩ | ⟨types, hlength, htypes, hrest⟩
      · exact Or.inl ⟨i + 1, q, hq, by rwa [hposition], herror⟩
      · refine Or.inr ⟨t :: types, congrArg (· + 1) hlength, fun i t' ht' => ?_, ?_⟩
        · cases i with
          | zero =>
            obtain rfl : t = t' := by simpa using ht'
            exact ht
          | succ i =>
            rw [hposition]
            exact htypes i t' (by simpa using ht')
        · rw [List.length_cons, hposition slots.length]
          simpa using hrest

/-- One declared parameter gets its value, and the cursor moves on if the value is made of an
argument, or it is refused. A variadic parameter leaves no argument behind. -/
theorem bindFrom_cons_cases {p : Parameter} {b : Binding}
    {o : Except ScriptError (List HostType × List HostValue)} (hb : b ≠ .typeSlot)
    (hvariadic : b = .variadic → ∃ e, p.type = .array e)
    (h : s.bindFrom m receiver a cursor typeArgs bound ((p, b) :: rest) = o) :
    (∃ argument e, s.Refuses m receiver a typeArgs p cursor b argument e ∧ o = .error e) ∨
      ∃ value cursor', s.Receives m.name receiver a typeArgs p cursor b value ∧
        (b ≠ .variadic →
          cursor' = cursor + if b.takesArgument receiver.isSome then 1 else 0) ∧
        s.bindFrom m receiver a cursor' typeArgs (value :: bound) rest = o := by
  subst h
  cases b with
  | typeSlot => exact absurd rfl hb
  | extensionReceiver =>
    cases receiver with
    | some o => exact Or.inr ⟨.object o, cursor, rfl, fun _ => rfl, rfl⟩
    | none =>
      rw [bindFrom]
      cases hvalue : s.convertArgument m a cursor p typeArgs with
      | error e => exact Or.inl ⟨cursor, e, .extensionReceiver rfl hvalue, rfl⟩
      | ok value => exact Or.inr ⟨value, cursor + 1, hvalue, fun _ => rfl, rfl⟩
  | script => exact Or.inr ⟨.script, cursor, rfl, fun _ => rfl, rfl⟩
  | context => exact Or.inr ⟨.context, cursor, rfl, fun _ => rfl, rfl⟩
  | arguments => exact Or.inr ⟨.arguments a.skipReceiver, cursor, rfl, fun _ => rfl, rfl⟩
  | out => exact Or.inr ⟨.null, cursor, rfl, fun _ => rfl, rfl⟩
  | variadic =>
    obtain ⟨element, helement⟩ := hvariadic rfl
    have htype : p.type.substitute typeArgs = .array (element.substitute typeArgs) := by
      rw [helement, ParamType.substitute]
    rw [bindFrom]
    cases hvalue : s.collectVariadic m a cursor p typeArgs with
    | error e =>
      obtain ⟨argument, hrefuses⟩ := refuses_of_collectVariadic htype hvalue
      exact Or.inl ⟨argument, e, hrefuses, rfl⟩
    | ok value =>
      refine Or.inr ⟨value, a.length, ⟨_, htype, gathers_of_collectVariadic htype hvalue⟩, ?_, rfl⟩
      exact fun hne => absurd rfl hne
  | convert =>
    rw [bindFrom]
    cases hvalue : s.convertArgument m a cursor p typeArgs with
    | error e => exact Or.inl ⟨cursor, e, .convert hvalue, rfl⟩
    | ok value => exact Or.inr ⟨value, cursor + 1, hvalue, fun _ => rfl, rfl⟩

/-- **All declared parameters** get their values, each from the argument behind those used up before
it, up to one that is refused, if there is one. -/
theorem bindFrom_cases {o : Except ScriptError (List HostType × List HostValue)}
    (hslots : ∀ q ∈ rest, q.2 ≠ .typeSlot)
    (hlast : ∀ i p, rest[i]? = some (p, .variadic) →
      i + 1 = rest.length ∧ ∃ e, p.type = .array e)
    (h : s.bindFrom m receiver a cursor typeArgs bound rest = o) :
    ∃ values,
      (∀ i p b value, rest[i]? = some (p, b) → values[i]? = some value →
        s.Receives m.name receiver a typeArgs p
          (cursor + ((rest.take i).map (·.2)).countP (·.takesArgument receiver.isSome)) b value) ∧
      (values.length = rest.length ∧ o = .ok (typeArgs, bound.reverse ++ values) ∨
        ∃ p b argument e, rest[values.length]? = some (p, b) ∧
          s.Refuses m receiver a typeArgs p
            (cursor + ((rest.take values.length).map (·.2)).countP
              (·.takesArgument receiver.isSome)) b argument e ∧
          o = .error e) := by
  induction rest generalizing cursor bound with
  | nil =>
    obtain rfl : o = .ok (typeArgs, bound.reverse) := h.symm
    exact ⟨[], fun i p b value hp => by simp at hp, Or.inl ⟨rfl, by simp⟩⟩
  | cons q rest ih =>
    obtain ⟨p, b⟩ := q
    have hb : b ≠ .typeSlot := hslots (p, b) List.mem_cons_self
    have hhead : b = .variadic → rest = [] ∧ ∃ e, p.type = .array e := by
      rintro rfl
      obtain ⟨hlength, harray⟩ := hlast 0 p rfl
      exact ⟨List.length_eq_zero_iff.mp (by simpa using hlength.symm), harray⟩
    obtain ⟨argument, e, hrefuses, herror⟩ | ⟨value, cursor', hvalue, hcursor, hnext⟩ :=
      bindFrom_cons_cases hb (fun hv => (hhead hv).2) h
    · refine ⟨[], fun i p b value _ hv => by simp at hv, Or.inr ⟨p, b, argument, e, rfl, ?_, ?_⟩⟩
      · simpa using hrefuses
      · exact herror
    have hlast' (i : Nat) (p : Parameter) (hp : rest[i]? = some (p, .variadic)) :
        i + 1 = rest.length ∧ ∃ e, p.type = .array e := by
      obtain ⟨hlength, harray⟩ := hlast (i + 1) p hp
      exact ⟨by simpa using hlength, harray⟩
    obtain ⟨values, hvalues, hend⟩ :=
      ih (fun q hq => hslots q (List.mem_cons_of_mem _ hq)) hlast' hnext
    -- A parameter after this one shows that this one is not variadic.
    have hposition (i : Nat) {q : Parameter × Binding} (hq : rest[i]? = some q) :
        cursor + (((p, b) :: rest).take (i + 1) |>.map (·.2)).countP
          (·.takesArgument receiver.isSome) =
            cursor' + ((rest.take i).map (·.2)).countP (·.takesArgument receiver.isSome) := by
      have hne : b ≠ .variadic := by
        intro hv
        rw [(hhead hv).1] at hq
        simp at hq
      rw [hcursor hne, List.take_succ_cons, List.map_cons, List.countP_cons]
      dsimp only
      omega
    refine ⟨value :: values, fun i p' b' value' hp' hvalue' => ?_, ?_⟩
    · cases i with
      | zero =>
        obtain ⟨rfl, rfl⟩ : p = p' ∧ b = b' := by simpa using hp'
        obtain rfl : value = value' := by simpa using hvalue'
        exact hvalue
      | succ i =>
        have hp'' : rest[i]? = some (p', b') := by simpa using hp'
        rw [hposition i hp'']
        exact hvalues i p' b' value' hp'' (by simpa using hvalue')
    · rcases hend with ⟨hlength, hok⟩ | ⟨p', b', argument, e, hp', hrefuses, herror⟩
      · exact Or.inl ⟨congrArg (· + 1) hlength, by simpa using hok⟩
      · refine Or.inr ⟨p', b', argument, e, by simpa using hp', ?_, herror⟩
        rw [List.length_cons, hposition _ hp']
        exact hrefuses

end

end Session

/-! ## The plan of a method that was built -/

/-- Each parameter stands in the plan with its binding. -/
theorem Method.zip_plan (m : Method) :
    m.parameters.zip m.plan = m.parameters.mapIdx fun i p => (p, m.bindingAt i p) := by
  apply List.ext_getElem?
  intro i
  rw [List.zip_eq_zipWith, List.getElem?_zipWith, plan, List.getElem?_mapIdx,
    List.getElem?_mapIdx]
  cases m.parameters[i]? <;> rfl

namespace Declaration

theorem variadicLast_getElem? {ps : List Parameter} (h : variadicLast ps = true) {i : Nat}
    {p : Parameter} (hp : ps[i]? = some p) (hvariadic : p.variadic = true) :
    i + 1 = ps.length ∧ ∃ e, p.type = .array e := by
  induction ps generalizing i with
  | nil => simp at hp
  | cons q rest ih =>
    rw [variadicLast, Bool.and_eq_true] at h
    obtain ⟨hhead, hrest⟩ := h
    cases i with
    | zero =>
      obtain rfl : q = p := by simpa using hp
      simp only [hvariadic, Bool.not_true, Bool.false_or, Bool.and_eq_true,
        List.isEmpty_iff] at hhead
      obtain ⟨rfl, harray⟩ := hhead
      refine ⟨rfl, ?_⟩
      split at harray
      · exact ⟨_, by assumption⟩
      · cases harray
    | succ i =>
      obtain ⟨hlength, harray⟩ := ih hrest (by simpa using hp)
      exact ⟨congrArg (· + 1) hlength, harray⟩

variable {d : Declaration} {m : Method}

theorem problem?_of_build (h : d.build = .ok m) : d.problem? = none := by
  unfold build at h
  split at h
  · cases h
  · assumption

theorem genericCount_of_build (h : d.build = .ok m) : m.genericCount = d.genericCount := by
  unfold build at h
  split at h
  · cases h
  · rw [← Except.ok.inj h]

theorem parameters_of_build (h : d.build = .ok m) :
    m.parameters = typeSlots d.genericCount ++ d.parameters := by
  unfold build at h
  split at h
  · cases h
  · rw [← Except.ok.inj h]

theorem variadicLast_of_build (h : d.build = .ok m) : variadicLast d.parameters = true := by
  have hproblem := problem?_of_build h
  unfold problem? at hproblem
  cases hlast : variadicLast d.parameters with
  | true => rfl
  | false =>
    rw [hlast] at hproblem
    repeat' split at hproblem
    all_goals simp_all

/-- The declared parameters with their bindings. -/
def routes (d : Declaration) (m : Method) : List (Parameter × Binding) :=
  d.parameters.mapIdx fun i p => (p, m.bindingAt (d.genericCount + i) p)

theorem getElem?_routes {i : Nat} {q : Parameter × Binding} :
    (d.routes m)[i]? = some q ↔
      d.parameters[i]? = some q.1 ∧ q.2 = m.bindingAt (d.genericCount + i) q.1 := by
  obtain ⟨p, b⟩ := q
  simp only [routes, List.getElem?_mapIdx, Option.map_eq_some_iff, Prod.mk.injEq]
  constructor
  · rintro ⟨p', hp', rfl, rfl⟩
    exact ⟨hp', rfl⟩
  · rintro ⟨hp, rfl⟩
    exact ⟨p, hp, rfl, rfl⟩

theorem length_typeSlots (n : Nat) : (typeSlots n).length = n := by
  simp [typeSlots]

/-- The parameters of a method that was built: the type slots, then the declared ones. -/
theorem zip_plan_of_build (h : d.build = .ok m) :
    m.parameters.zip m.plan =
      (typeSlots d.genericCount).map (·, .typeSlot) ++ d.routes m := by
  rw [m.zip_plan, parameters_of_build h, List.mapIdx_append, length_typeSlots]
  congr 1
  · apply List.ext_getElem?
    intro i
    rw [List.getElem?_mapIdx, List.getElem?_map]
    cases hslot : (typeSlots d.genericCount)[i]? with
    | none => rfl
    | some p =>
      have hi : i < m.genericCount := by
        obtain ⟨hlt, -⟩ := List.getElem?_eq_some_iff.mp hslot
        rwa [length_typeSlots, ← genericCount_of_build h] at hlt
      simp [Method.bindingAt, hi]
  · simp only [routes, Nat.add_comm]

theorem not_typeSlot_of_mem_routes (h : d.build = .ok m) {q : Parameter × Binding}
    (hq : q ∈ d.routes m) : q.2 ≠ .typeSlot := by
  obtain ⟨i, hi⟩ := List.mem_iff_getElem?.mp hq
  obtain ⟨-, hbinding⟩ := getElem?_routes.mp hi
  have hbeyond : ¬ d.genericCount + i < m.genericCount := by
    rw [genericCount_of_build h]
    omega
  rw [hbinding]
  fun_cases Method.bindingAt m (d.genericCount + i) q.1 <;> simp_all

/-- A variadic parameter is the last one and an array. -/
theorem variadic_of_getElem?_routes (h : d.build = .ok m) {i : Nat} {p : Parameter}
    (hp : (d.routes m)[i]? = some (p, .variadic)) :
    i + 1 = (d.routes m).length ∧ ∃ e, p.type = .array e := by
  obtain ⟨hparameter, hbinding⟩ := getElem?_routes.mp hp
  have hvariadic : p.variadic = true := by
    fun_cases Method.bindingAt m (d.genericCount + i) p <;> simp_all [Method.bindingAt]
  have hlength : (d.routes m).length = d.parameters.length := by simp [routes]
  rw [hlength]
  exact variadicLast_getElem? (variadicLast_of_build h) hparameter hvariadic

/-- The plan of a method that was built: the type slots, then what the declared parameters are
bound to. -/
theorem plan_of_build (h : d.build = .ok m) :
    m.plan = List.replicate d.genericCount .typeSlot ++ (d.routes m).map (·.2) := by
  have hlength : m.plan.length ≤ m.parameters.length := by simp [Method.plan]
  rw [← List.map_snd_zip hlength, zip_plan_of_build h, List.map_append, List.map_map]
  congr 1
  have hconst := List.map_const (l := typeSlots d.genericCount) (b := Binding.typeSlot)
  rwa [length_typeSlots] at hconst

/-- Each type slot uses up an argument before the first declared parameter. -/
theorem argumentsBefore_of_build (h : d.build = .ok m) (hasReceiver : Bool) (i : Nat) :
    m.argumentsBefore hasReceiver (d.genericCount + i) =
      d.genericCount +
        (((d.routes m).take i).map (·.2)).countP (·.takesArgument hasReceiver) := by
  unfold Method.argumentsBefore
  rw [plan_of_build h, List.take_append, List.length_replicate, Nat.add_sub_cancel_left,
    List.countP_append, List.take_of_length_le (by simp), List.countP_replicate, List.map_take]
  rfl

end Declaration

namespace Session

/-! ## Calls of methods -/

/-- **A call of a method**: the arguments are bound, and if they can be, the host code runs on them
and the result is made of its reply. -/
theorem exec_execute {s : Session} {id : MethodId} {slot : MethodSlot}
    (hslot : s.method? id = some slot) (receiver : Option Object) (a : Arguments) :
    ∃ t : Session, t.heap = s.heap ∧ t.converters = s.converters ∧ ∀ host,
      (execute host id receiver a).exec s =
        match s.bind slot.method slot.method.plan receiver a with
        | .error e => (.error (.error e), t)
        | .ok call => (host slot.method call >>= concluded slot.method).exec t := by
  refine ⟨((bindingPlan id slot).run s).2, ?_, ?_, exec_execute_eq receiver a hslot⟩ <;>
    rcases run_bindingPlan_cases id slot s with hrun | ⟨-, hrun⟩ <;> rw [hrun]

theorem bind_eq_map (s : Session) (m : Method) (plan : List Binding) (receiver : Option Object)
    (a : Arguments) :
    s.bind m plan receiver a =
      (s.bindFrom m receiver a a.offset [] [] (m.parameters.zip plan)).map fun r =>
        { receiver := if m.isStatic then none else receiver, typeArgs := r.1, args := r.2 } := by
  unfold Session.bind Arguments.offset
  dsimp only
  rcases s.bindFrom m receiver a _ [] [] (m.parameters.zip plan) with e | r <;> rfl

/-- Binding routes: the call it makes of the arguments is the one the declaration asks for. -/
theorem routed_of_bind {s : Session} {d : Declaration} {m : Method} {receiver : Option Object}
    {a : Arguments} {call : HostCall} (hbuild : d.build = .ok m)
    (h : s.bind m m.plan receiver a = .ok call) : s.Routed d m receiver a call := by
  rw [bind_eq_map, Declaration.zip_plan_of_build hbuild] at h
  cases hfrom : s.bindFrom m receiver a a.offset [] []
      ((Declaration.typeSlots d.genericCount).map (·, .typeSlot) ++ d.routes m) with
  | error e =>
    rw [hfrom] at h
    cases h
  | ok r =>
    rw [hfrom] at h
    obtain rfl := Except.ok.inj h
    obtain ⟨_, _, -, -, herror⟩ | ⟨types, hcount, htypes, hrest⟩ := bindFrom_typeSlots_cases hfrom
    · cases herror
    rw [Declaration.length_typeSlots] at hcount hrest
    obtain ⟨values, hvalues, ⟨hlength, hok⟩ | ⟨_, _, _, _, -, -, herror⟩⟩ :=
      bindFrom_cases (fun q => Declaration.not_typeSlot_of_mem_routes hbuild)
        (fun i p => Declaration.variadic_of_getElem?_routes hbuild) hrest
    · rw [List.nil_append] at hvalues
      obtain rfl : r = (types, values) := by simpa using hok
      refine ⟨hcount, htypes, ?_, fun i p h hp hh => ?_⟩
      · simpa [Declaration.routes] using hlength
      · have hroute : (d.routes m)[i]? = some (p, m.bindingAt (d.genericCount + i) p) :=
          Declaration.getElem?_routes.mpr ⟨hp, rfl⟩
        have hreceives := hvalues i p _ h hroute hh
        rwa [Nat.add_assoc, ← Declaration.argumentsBefore_of_build hbuild] at hreceives
    · cases herror

/-- A call of a method comes to a call of the host code: whatever the host code is, it runs on
that call, and the result is made of its reply. -/
def ComesTo (s : Session) (id : MethodId) (receiver : Option Object) (a : Arguments) (m : Method)
    (call : HostCall) : Prop :=
  ∃ t, ∀ host, (execute host id receiver a).exec s = (host m call >>= concluded m).exec t

open Classical in
/-- What a call of a method comes to is what binding makes of its arguments. -/
theorem comesTo_iff_bind {s : Session} {id : MethodId} {slot : MethodSlot}
    (hslot : s.method? id = some slot) {receiver : Option Object} {a : Arguments}
    {call : HostCall} :
    s.ComesTo id receiver a slot.method call ↔
      s.bind slot.method slot.method.plan receiver a = .ok call := by
  obtain ⟨t, -, -, hexec⟩ := exec_execute hslot receiver a
  constructor
  · rintro ⟨u, hu⟩
    -- A host that stops on this call alone tells whether it is the one.
    let host (_ : Method) (c : HostCall) : Action HostReply :=
      if c = call then throw .exhausted else Action.fail .stackOverflow
    have hstops : (host slot.method call >>= concluded slot.method).exec u =
        (.error .exhausted, u) := by
      simp only [host, if_true]
      rfl
    have hbound := (hexec host).symm.trans ((hu host).trans hstops)
    cases hbind : s.bind slot.method slot.method.plan receiver a with
    | error e =>
      rw [hbind] at hbound
      cases hbound
    | ok call' =>
      rw [hbind] at hbound
      by_cases hcall : call' = call
      · rw [hcall]
      · simp only [host, hcall, if_false] at hbound
        cases hbound
  · intro hbind
    rw [hbind] at hexec
    exact ⟨t, hexec⟩

end Session

end ScriptHost
