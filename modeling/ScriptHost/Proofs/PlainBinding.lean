import ScriptHost.Proofs.HostTyping

/-!
# Binding without a cursor

Binding goes through the parameters of a method and carries along the position of the next argument,
the type arguments and the values so far. Nothing of that is needed to say what it does: each type
slot stands for the type of its own argument, each declared parameter has its own position among the
arguments, and the first of them that gets nothing decides. How an argument is converted is left
open here, so that the same can be said of other conversions.

## Main definitions

* `Method.Valid`: the methods that calls can run.
* `Session.typeFor`, `Session.valueFor`: what a type slot and what a declared parameter gets.
* `Session.typesFor`, `Session.valuesFor`: what all of them get.
* `Session.bindPlainly`: binding, each parameter by itself.

## Main results

* `exists_error_of_mapM`: several computations fail with the error of the first that fails.
* `Session.bindPlainly_cases`: what plain binding comes to.
* `Session.bindFrom_cons`: one step of binding.
* `Session.bindFrom_eq_mapM`: all steps behind the type slots.
* `Session.bind_eq_bindPlainly`: binding is plain binding.
-/

namespace ScriptHost

/-! ## Several computations that may fail -/

section

variable {ε α β : Type} {f : α → Except ε β} {x : α} {xs : List α} {e : ε}

theorem error_of_map_eq_error {r : Except ε α} {f : α → β} (h : r.map f = .error e) :
    r = .error e := by
  cases r with
  | error e' => exact congrArg _ (Except.error.inj h)
  | ok y => cases h

theorem mapM_cons_of_ok {y : β} (h : f x = .ok y) :
    (x :: xs).mapM f = (xs.mapM f).map (y :: ·) := by
  rw [List.mapM_cons, h]
  cases xs.mapM f <;> rfl

theorem mapM_cons_of_error (h : f x = .error e) : (x :: xs).mapM f = .error e := by
  rw [List.mapM_cons, h]
  rfl

theorem mapM_congr {m : Type → Type} [Monad m] [LawfulMonad m] {f g : α → m β}
    (h : ∀ x ∈ xs, f x = g x) : xs.mapM f = xs.mapM g := by
  induction xs with
  | nil => rfl
  | cons x xs ih =>
    rw [List.mapM_cons, List.mapM_cons, h x List.mem_cons_self,
      ih fun y hy => h y (List.mem_cons_of_mem x hy)]

/-- Several computations fail with the error of the first that fails. -/
theorem exists_error_of_mapM (h : xs.mapM f = .error e) :
    ∃ (k : Nat) (x : α), xs[k]? = some x ∧ f x = .error e ∧
      ∀ j y, j < k → xs[j]? = some y → ∃ z, f y = .ok z := by
  induction xs with
  | nil => cases h
  | cons x xs ih =>
    cases hx : f x with
    | error e' =>
      rw [mapM_cons_of_error hx] at h
      obtain rfl : e' = e := Except.error.inj h
      exact ⟨0, x, rfl, hx, fun j y hj => absurd hj (Nat.not_lt_zero j)⟩
    | ok y =>
      rw [mapM_cons_of_ok hx] at h
      cases hxs : xs.mapM f with
      | ok ys =>
        rw [hxs] at h
        cases h
      | error e' =>
        rw [hxs] at h
        obtain rfl : e' = e := Except.error.inj h
        obtain ⟨k, z, hz, herror, hbefore⟩ := ih hxs
        refine ⟨k + 1, z, hz, herror, fun j w hj hw => ?_⟩
        cases j with
        | zero =>
          obtain rfl : x = w := by simpa using hw
          exact ⟨y, hx⟩
        | succ j => exact hbefore j w (Nat.lt_of_succ_lt_succ hj) (by simpa using hw)

theorem mapM_eq_error {k : Nat} (hx : xs[k]? = some x) (he : f x = .error e)
    (hbefore : ∀ j y, j < k → xs[j]? = some y → ∃ z, f y = .ok z) : xs.mapM f = .error e := by
  induction xs generalizing k with
  | nil => simp at hx
  | cons y xs ih =>
    cases k with
    | zero =>
      obtain rfl : y = x := by simpa using hx
      exact mapM_cons_of_error he
    | succ k =>
      obtain ⟨z, hz⟩ := hbefore 0 y (Nat.succ_pos k) rfl
      rw [mapM_cons_of_ok hz, ih (by simpa using hx) fun j w hj hw =>
        hbefore (j + 1) w (Nat.succ_lt_succ hj) (by simpa using hw)]
      rfl

end

/-- The items of a table become the items of an array by the whole conversion. -/
theorem Session.standardToHost_table (s : Session) (site : Site) (element : ParamType)
    (t : TableId) :
    s.standardToHost site (.array element) (.table t) =
      ((s.heap.table t).arrayValues.mapM fun item => s.toHost item element none site).map
        fun items => .array (.ofList element items) := by
  rw [standardToHost, mapM_congr (g := fun item => s.toHost item element none site)]
  · cases (s.heap.table t).arrayValues.mapM fun item => s.toHost item element none site <;> rfl
  · intro item _
    cases hcustom : s.customToHost? element item.first with
    | some h => rw [toHost_of_custom hcustom]
    | none => rw [toHost_of_standard hcustom fun _ => rfl]

/-! ## The methods that calls can run -/

namespace Method

/-- **Valid methods**: those that were built from a declaration, and the constructors of arrays. -/
inductive Valid : Method → Prop
  | built {d : Declaration} {m : Method} (h : d.build = .ok m) : Valid m
  | arrayConstructor (element : ParamType) (rank : Nat) : Valid (.arrayConstructor element rank)

theorem exists_build_arrayConstructor (element : ParamType) (rank : Nat) :
    ∃ d : Declaration, d.build = .ok { arrayConstructor element rank with returns := none } := by
  let extents : List Parameter := (arrayConstructor element rank).parameters
  let d : Declaration :=
    { name := (arrayConstructor element rank).name
      kind := .arrayConstructor
      isStatic := true
      parameters := extents
      code := .newArray element }
  have hextents (p : Parameter) (hp : p ∈ extents) :
      p.type = .primitive (.integer .int32) ∧ p.byRef = false ∧ p.variadic = false := by
    obtain ⟨i, -, rfl⟩ := List.mem_map.mp hp
    exact ⟨rfl, rfl, rfl⟩
  have hlast (ps : List Parameter) (hps : ∀ p ∈ ps, p.variadic = false) :
      Declaration.variadicLast ps = true := by
    induction ps with
    | nil => rfl
    | cons p ps ih =>
      rw [Declaration.variadicLast, hps p List.mem_cons_self,
        ih fun q hq => hps q (List.mem_cons_of_mem p hq)]
      rfl
  have hany {f : Parameter → Bool} (hf : ∀ p ∈ extents, f p = false) : extents.any f = false := by
    refine List.any_eq_false.mpr fun p hp => ?_
    rw [hf p hp]
    exact Bool.false_ne_true
  have hpointer : extents.any (·.type.hasPointer) = false := by
    refine hany fun p hp => ?_
    rw [(hextents p hp).1]
    rfl
  have hopen : extents.any (d.isOpen ·.type) = false := by
    refine hany fun p hp => ?_
    rw [(hextents p hp).1]
    rfl
  have hbyRef : extents.any (·.byRef) = false := hany fun p hp => (hextents p hp).2.1
  have hproblem : d.problem? = none := by
    simp [Declaration.problem?, d, hpointer, hopen, hlast extents fun p hp => (hextents p hp).2.2]
  refine ⟨d, ?_⟩
  unfold Declaration.build
  rw [hproblem]
  dsimp only [d]
  rw [hbyRef]
  rfl

/-- The type of its result is all that a valid method has beside what was built. -/
theorem Valid.exists_build {m : Method} (h : m.Valid) :
    ∃ (d : Declaration) (m' : Method) (returns : Option ParamType),
      d.build = .ok m' ∧ m = { m' with returns } := by
  cases h with
  | @built d _ h => exact ⟨d, m, m.returns, h, rfl⟩
  | arrayConstructor element rank =>
    obtain ⟨d, h⟩ := exists_build_arrayConstructor element rank
    exact ⟨d, _, some (.array element), h, rfl⟩

/-- The declared parameters with their bindings, without the type slots. -/
def routes (m : Method) : List (Parameter × Binding) :=
  (m.parameters.zip m.plan).drop m.genericCount

theorem routes_of_build {d : Declaration} {m : Method} (h : d.build = .ok m) :
    m.routes = d.routes m := by
  unfold routes
  rw [Declaration.zip_plan_of_build h, Declaration.genericCount_of_build h, List.drop_left']
  rw [List.length_map, Declaration.length_typeSlots]

end Method

/-- The element type of an array; other types stay. -/
def ParamType.elementType : ParamType → ParamType
  | array element => element
  | t => t

namespace Session

/-- The host array that some values are, if they are one of a given element type and nothing else.
-/
def loneArray? (element : ParamType) : List Value → Option HostArray
  | [.userdata u] => u.object.array?.filter fun given => given.element = element
  | _ => none

/-- **What a type slot gets**: the type that the argument at a position stands for. -/
def typeFor (m : Method) (a : Arguments) (position : Nat) : Except ScriptError HostType :=
  match (a.get position).typeArgument? with
  | some t => .ok t
  | none => .error (.genericBinding m.name)

/-- What the type slots get: the first arguments stand for types, one each. -/
def typesFor (m : Method) (a : Arguments) : Except ScriptError (List HostType) :=
  (List.range' a.offset m.genericCount).mapM (typeFor m a)

/-- Ways to convert a value at a parameter type, with the default for nil and the site of errors. -/
abbrev Conversion := Value → ParamType → Option HostValue → Site → Except ScriptError HostValue

section

variable (convert : Conversion)

/-- What a variadic parameter gets for the arguments that are left, from a position on. -/
def gather (function : String) (element : ParamType) (position : Nat) (extra : List Value) :
    Except ScriptError HostValue :=
  match loneArray? element extra with
  | some given => .ok (.array given)
  | none =>
    ((extra.zipIdx position).mapM fun q => convert q.1 element none ⟨function, q.2 + 1⟩).map
      fun items => .array (.ofList element items)

/-- **What a declared parameter gets** by itself, with the position of its argument. -/
def valueFor (m : Method) (receiver : Option Object) (a : Arguments) (typeArgs : List HostType)
    (position : Nat) (p : Parameter) : Binding → Except ScriptError HostValue
  | .typeSlot | .out => .ok .null
  | .extensionReceiver =>
    match receiver with
    | some o => .ok (.object o)
    | none => argument
  | .script => .ok .script
  | .context => .ok .context
  | .arguments => .ok (.arguments a.skipReceiver)
  | .variadic =>
    gather convert m.name (p.type.substitute typeArgs).elementType position (a.values.drop position)
  | .convert => argument
where
  /-- The argument at the position, converted. -/
  argument : Except ScriptError HostValue :=
    convert ((a.raw? position).getD .nil) (p.type.substitute typeArgs) p.default
      ⟨m.name, position + 1⟩

/-- What the declared parameters get, each at the position behind the arguments that the
parameters before it use up. -/
def valuesFor (m : Method) (receiver : Option Object) (a : Arguments) (typeArgs : List HostType) :
    Except ScriptError (List HostValue) :=
  m.routes.zipIdx.mapM fun q =>
    valueFor convert m receiver a typeArgs
      (a.offset + m.argumentsBefore receiver.isSome (m.genericCount + q.2)) q.1.1 q.1.2

/-- Plain binding: a type for each slot, then a value for each declared parameter. -/
def bindPlainly (m : Method) (receiver : Option Object) (a : Arguments) :
    Except ScriptError HostCall := do
  let typeArgs ← typesFor m a
  let args ← valuesFor convert m receiver a typeArgs
  return { receiver := if m.isStatic then none else receiver, typeArgs, args }

/-- What plain binding comes to: a type slot gets no type, or all do and a declared parameter
gets no value, or all get theirs. -/
theorem bindPlainly_cases (m : Method) (receiver : Option Object) (a : Arguments) :
    (∃ e, typesFor m a = .error e ∧ bindPlainly convert m receiver a = .error e) ∨
      ∃ types, typesFor m a = .ok types ∧
        ((∃ e, valuesFor convert m receiver a types = .error e ∧
            bindPlainly convert m receiver a = .error e) ∨
          ∃ values call, valuesFor convert m receiver a types = .ok values ∧
            bindPlainly convert m receiver a = .ok call ∧ call.typeArgs = types ∧
              call.args = values) := by
  unfold bindPlainly
  cases htypes : typesFor m a with
  | error e => exact Or.inl ⟨e, rfl, rfl⟩
  | ok types =>
    refine Or.inr ⟨types, rfl, ?_⟩
    show (∃ e, _ ∧ (valuesFor convert m receiver a types >>= _) = _) ∨
      ∃ values call, _ ∧ (valuesFor convert m receiver a types >>= _) = _ ∧ _
    cases valuesFor convert m receiver a types with
    | error e => exact Or.inl ⟨e, rfl, rfl⟩
    | ok values => exact Or.inr ⟨values, _, rfl, rfl, rfl, rfl⟩

/-- Plain binding succeeds with the types and the values that all parameters get. -/
theorem of_bindPlainly_eq_ok {m : Method} {receiver : Option Object} {a : Arguments}
    {call : HostCall} (h : bindPlainly convert m receiver a = .ok call) :
    typesFor m a = .ok call.typeArgs ∧
      valuesFor convert m receiver a call.typeArgs = .ok call.args := by
  obtain ⟨e, -, herror⟩ |
      ⟨types, htypes, ⟨e, -, herror⟩ | ⟨values, call', hvalues, hok, rfl, rfl⟩⟩ :=
    bindPlainly_cases convert m receiver a
  · rw [h] at herror
    cases herror
  · rw [h] at herror
    cases herror
  · obtain rfl : call = call' := Except.ok.inj (h.symm.trans hok)
    exact ⟨htypes, hvalues⟩

end

/-! ## One step of binding -/

theorem convertEach_eq_mapM (s : Session) (function : String) (element : ParamType) (i : Nat)
    (vs : List Value) :
    s.convertEach function element i vs =
      (vs.zipIdx i).mapM fun q => s.toHost q.1 element none ⟨function, q.2 + 1⟩ := by
  induction vs generalizing i with
  | nil => rfl
  | cons v vs ih => rw [convertEach, List.zipIdx_cons, List.mapM_cons, ih]

theorem collectVariadic_eq_gather {s : Session} {m : Method} {a : Arguments} {cursor : Nat}
    {p : Parameter} {typeArgs : List HostType} {element : ParamType}
    (htype : p.type.substitute typeArgs = .array element) :
    s.collectVariadic m a cursor p typeArgs =
      gather s.toHost m.name element cursor (a.values.drop cursor) := by
  unfold collectVariadic gather
  simp only [htype, convertEach_eq_mapM]
  generalize a.values.drop cursor = extra
  rcases extra with _ | ⟨v, _ | ⟨w, vs⟩⟩
  · rfl
  · cases v with
    | userdata u =>
      simp only [loneArray?]
      cases Option.filter (fun given => decide (given.element = element)) u.object.array? with
      | some given => rfl
      | none => rfl
    | _ => rfl
  · rfl

section

variable {s : Session} {m : Method} {receiver : Option Object} {a : Arguments} {cursor : Nat}
  {typeArgs : List HostType} {bound : List HostValue} {rest : List (Parameter × Binding)}

/-- One step of binding: a declared parameter gets its value, and the cursor moves on if the
value is made of an argument. -/
theorem bindFrom_cons {p : Parameter} {b : Binding} (hb : b ≠ .typeSlot)
    (hvariadic : b = .variadic → rest = [] ∧ ∃ e, p.type = .array e) :
    s.bindFrom m receiver a cursor typeArgs bound ((p, b) :: rest) =
      valueFor s.toHost m receiver a typeArgs cursor p b >>= fun value =>
        s.bindFrom m receiver a (cursor + if b.takesArgument receiver.isSome then 1 else 0) typeArgs
          (value :: bound) rest := by
  cases b with
  | typeSlot => exact absurd rfl hb
  | script | context | arguments | out => rfl
  | extensionReceiver =>
    cases receiver with
    | some o => rfl
    | none =>
      have hargument : valueFor s.toHost m none a typeArgs cursor p .extensionReceiver =
          s.convertArgument m a cursor p typeArgs := rfl
      rw [bindFrom, hargument]
      cases s.convertArgument m a cursor p typeArgs <;> rfl
  | variadic =>
    obtain ⟨rfl, element, helement⟩ := hvariadic rfl
    have htype : p.type.substitute typeArgs = .array (element.substitute typeArgs) := by
      rw [helement, ParamType.substitute]
    rw [bindFrom, valueFor, collectVariadic_eq_gather htype, htype, ParamType.elementType]
    cases gather s.toHost m.name (element.substitute typeArgs) cursor (a.values.drop cursor) with
    | error e => rfl
    | ok value => exact congrArg _ rfl
  | convert =>
    have hargument : valueFor s.toHost m receiver a typeArgs cursor p .convert =
        s.convertArgument m a cursor p typeArgs := rfl
    rw [bindFrom, hargument]
    cases s.convertArgument m a cursor p typeArgs <;> rfl

/-- **All steps behind the type slots**: each declared parameter gets its value by itself, at the
position behind the arguments that the ones before it use up. -/
theorem bindFrom_eq_mapM {k : Nat} (position : Nat → Nat) (hslots : ∀ q ∈ rest, q.2 ≠ .typeSlot)
    (hlast : ∀ i p, rest[i]? = some (p, .variadic) →
      i + 1 = rest.length ∧ ∃ e, p.type = .array e)
    (hposition : ∀ i < rest.length, position (k + i) =
      cursor + ((rest.take i).map (·.2)).countP (·.takesArgument receiver.isSome)) :
    s.bindFrom m receiver a cursor typeArgs bound rest =
      ((rest.zipIdx k).mapM fun q =>
        valueFor s.toHost m receiver a typeArgs (position q.2) q.1.1 q.1.2).map fun values =>
          (typeArgs, bound.reverse ++ values) := by
  -- The position is that of the first parameter that is left, and moves on as the cursor does.
  induction rest generalizing cursor bound k with
  | nil =>
    rw [bindFrom, List.zipIdx_nil, List.mapM_nil]
    exact congrArg (fun values => Except.ok (typeArgs, values)) (List.append_nil _).symm
  | cons q rest ih =>
    obtain ⟨p, b⟩ := q
    have hb : b ≠ .typeSlot := hslots (p, b) List.mem_cons_self
    have hhead : b = .variadic → rest = [] ∧ ∃ e, p.type = .array e := by
      rintro rfl
      obtain ⟨hlength, harray⟩ := hlast 0 p rfl
      exact ⟨List.length_eq_zero_iff.mp (by simpa using hlength.symm), harray⟩
    have hfirst : position k = cursor := by simpa using hposition 0 (by simp)
    rw [bindFrom_cons hb hhead, List.zipIdx_cons]
    cases hvalue : valueFor s.toHost m receiver a typeArgs cursor p b with
    | error e =>
      rw [mapM_cons_of_error (e := e) (by rw [hfirst]; exact hvalue)]
      rfl
    | ok value =>
      rw [mapM_cons_of_ok (y := value) (by rw [hfirst]; exact hvalue)]
      have hlast' (i : Nat) (p : Parameter) (hp : rest[i]? = some (p, .variadic)) :
          i + 1 = rest.length ∧ ∃ e, p.type = .array e := by
        obtain ⟨hlength, harray⟩ := hlast (i + 1) p hp
        exact ⟨by simpa using hlength, harray⟩
      have hposition' (i : Nat) (hi : i < rest.length) : position (k + 1 + i) =
          (cursor + if b.takesArgument receiver.isSome then 1 else 0) +
            ((rest.take i).map (·.2)).countP (·.takesArgument receiver.isSome) := by
        have h := hposition (i + 1) (by simpa using hi)
        rw [List.take_succ_cons, List.map_cons, List.countP_cons] at h
        rw [Nat.add_assoc, Nat.add_comm 1 i, h]
        dsimp only
        omega
      have hslots' (q : Parameter × Binding) (hq : q ∈ rest) : q.2 ≠ .typeSlot :=
        hslots q (List.mem_cons_of_mem _ hq)
      refine (ih hslots' hlast' hposition').trans ?_
      cases (rest.zipIdx (k + 1)).mapM fun q =>
          valueFor s.toHost m receiver a typeArgs (position q.2) q.1.1 q.1.2 with
      | error e => rfl
      | ok values => exact congrArg (fun values => Except.ok (typeArgs, values)) (by simp)

/-- The type slots take the first arguments, one each. -/
theorem bindFrom_typeSlots {slots : List Parameter} :
    s.bindFrom m receiver a cursor typeArgs bound (slots.map (·, .typeSlot) ++ rest) =
      (List.range' cursor slots.length).mapM (typeFor m a) >>= fun types =>
        s.bindFrom m receiver a (cursor + slots.length) (typeArgs ++ types) bound rest := by
  induction slots generalizing cursor typeArgs with
  | nil =>
    show s.bindFrom m receiver a cursor typeArgs bound rest =
      s.bindFrom m receiver a cursor (typeArgs ++ []) bound rest
    rw [List.append_nil]
  | cons p slots ih =>
    rw [List.map_cons, List.cons_append, bindFrom, List.length_cons, List.range'_succ]
    cases htype : (a.get cursor).typeArgument? with
    | none =>
      have herror : typeFor m a cursor = .error (.genericBinding m.name) := by
        rw [typeFor, htype]
      rw [mapM_cons_of_error herror]
      rfl
    | some t =>
      have hok : typeFor m a cursor = .ok t := by
        rw [typeFor, htype]
      rw [mapM_cons_of_ok hok]
      refine ih.trans ?_
      cases (List.range' (cursor + 1) slots.length).mapM (typeFor m a) with
      | error e => rfl
      | ok types =>
        show s.bindFrom m receiver a (cursor + 1 + slots.length) (typeArgs ++ [t] ++ types) bound
            rest =
          s.bindFrom m receiver a (cursor + (slots.length + 1)) (typeArgs ++ t :: types) bound rest
        rw [List.append_assoc, List.singleton_append, Nat.add_assoc, Nat.add_comm 1]

end

/-! ## Binding -/

/-- Binding does not look at the type of the result. -/
theorem bind_returns (s : Session) (m : Method) (returns : Option ParamType)
    (receiver : Option Object) (a : Arguments) (plan : List Binding) :
    s.bind { m with returns } plan receiver a = s.bind m plan receiver a := by
  have hfrom (cursor : Nat) (typeArgs : List HostType) (bound : List HostValue)
      (rest : List (Parameter × Binding)) :
      s.bindFrom { m with returns } receiver a cursor typeArgs bound rest =
        s.bindFrom m receiver a cursor typeArgs bound rest := by
    induction rest generalizing cursor typeArgs bound with
    | nil => rfl
    | cons q rest ih =>
      obtain ⟨p, binding⟩ := q
      cases binding <;> simp only [bindFrom, convertArgument, collectVariadic, ih]
  unfold Session.bind
  simp only [hfrom]

/-- **Binding is plain binding.** -/
theorem bind_eq_bindPlainly {m : Method} (hvalid : m.Valid) (s : Session)
    (receiver : Option Object) (a : Arguments) :
    s.bind m m.plan receiver a = bindPlainly s.toHost m receiver a := by
  obtain ⟨d, m, returns, hbuild, rfl⟩ := hvalid.exists_build
  rw [bind_returns]
  show s.bind m m.plan receiver a = bindPlainly s.toHost m receiver a
  rw [bind_eq_map, Declaration.zip_plan_of_build hbuild, bindFrom_typeSlots,
    Declaration.length_typeSlots]
  unfold bindPlainly typesFor
  rw [Declaration.genericCount_of_build hbuild]
  cases (List.range' a.offset d.genericCount).mapM (typeFor m a) with
  | error e => rfl
  | ok types =>
    let position (i : Nat) : Nat :=
      a.offset + m.argumentsBefore receiver.isSome (m.genericCount + i)
    have hposition (i : Nat) (_ : i < (d.routes m).length) : position (0 + i) =
        a.offset + d.genericCount +
          (((d.routes m).take i).map (·.2)).countP (·.takesArgument receiver.isSome) := by
      dsimp only [position]
      rw [Nat.zero_add, Declaration.genericCount_of_build hbuild,
        Declaration.argumentsBefore_of_build hbuild, Nat.add_assoc]
    have hvalues : s.bindFrom m receiver a (a.offset + d.genericCount) types [] (d.routes m) =
        (valuesFor s.toHost m receiver a types).map fun values => (types, values) := by
      unfold valuesFor
      rw [Method.routes_of_build hbuild]
      exact bindFrom_eq_mapM position (fun q => Declaration.not_typeSlot_of_mem_routes hbuild)
        (fun i p => Declaration.variadic_of_getElem?_routes hbuild) hposition
    show Except.map _ (s.bindFrom m receiver a (a.offset + d.genericCount) types [] (d.routes m)) =
      valuesFor s.toHost m receiver a types >>= _
    rw [hvalues]
    cases valuesFor s.toHost m receiver a types with
    | error e => rfl
    | ok values => rfl

end Session

end ScriptHost
