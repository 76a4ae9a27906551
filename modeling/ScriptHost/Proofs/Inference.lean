import ScriptHost.Proofs.Arity
import ScriptHost.Proofs.PlainBinding
import ScriptHost.Proofs.RoundTrip

/-!
# Types inferred from values

An argument in the place of a type stands for the host type of its value. A parameter declared as
that type argument then takes values of the type, in the form that scripts hold them in. The value
itself is such a value, with one exception: the host may hand a script an object of any type, and
where scripts hold the values of the type in another form, or get none, the object is not taken for
one of them.

## Main definitions

* `HostType.refusal?`, `Value.refusal?`: the objects that are not taken at their own type, and the
  text that says so.
* `Arguments.PassesTwice`: calls with a value and the same value again.

## Main results

* `Session.standardToHost_runtimeType`: a value converts at its own type, unless it is refused.
* `Session.bind_single`: binding of one type slot and one parameter.
* `Session.inferred_type_taken`: what becomes of a value at the type inferred from it.
* `Session.inferred_type_refused`: a text that is handed to a script as an object.
-/

namespace ScriptHost

/-- **The refusal of objects** by a parameter of their own type: scripts hold numbers, texts, tables,
functions and types in another form, and scripts, contexts and arguments come from the call. No
object is refused where any value is taken: for a truth value, a script value or a host value. -/
def HostType.refusal? : HostType → Option String
  | double | numeric _ => some "number expected, got userdata"
  | text => some "string expected, got userdata"
  | table => some "table expected, got userdata"
  | function => some "function expected, got userdata"
  | hostType => some "type expected, got userdata"
  | script | context | arguments => some "parameter cannot be bound from a script value"
  | _ => none

/-- The refusal of a value by a parameter of its own type; boxed numbers are not refused. -/
def Value.refusal? : Value → Option String
  | userdata u => u.object.hostType.refusal?
  | _ => none

/-- Calls with a value twice, first in the place of a type and then as an argument. -/
def Arguments.PassesTwice (a : Arguments) (v : Value) : Prop :=
  a.get a.offset = v.first ∧ a.get (a.offset + 1) = v.first

theorem Arguments.first_raw? (a : Arguments) (i : Nat) :
    ((a.raw? i).getD .nil).first = a.get i := by
  unfold Arguments.get
  cases a.raw? i <;> rfl

/-- A call with a value twice passes it twice, behind the receiver of a method call. -/
theorem Arguments.passesTwice_ofList {v : Value} (h : v.Flat) (receiver : Option Value) :
    (Arguments.ofList (receiver.toList ++ [v, v]) receiver.isSome).PassesTwice v := by
  -- A tuple at the end gives way to its values, the first of which is in its place.
  cases v with
  | tuple items =>
    cases items with
    | nil => cases receiver <;> exact ⟨rfl, rfl⟩
    | cons w ws =>
      have hfirst : w.first = w := Value.first_of_isTuple (h w List.mem_cons_self)
      cases receiver <;> exact ⟨rfl, hfirst⟩
  | _ => cases receiver <;> exact ⟨rfl, rfl⟩

theorem Object.staticType?_of_hostType {o : Object} (h : o.hostType ≠ .staticType) :
    o.staticType? = none := by
  obtain ⟨stamp, payload⟩ := o
  cases payload with
  | staticType t => exact absurd rfl h
  | _ => rfl

theorem Value.runtimeType?_first (v : Value) : v.first.runtimeType? = v.runtimeType? := by
  cases v with
  | tuple items =>
    cases items with
    | nil => rfl
    | cons w ws => rw [first_tuple_cons, runtimeType?]
  | _ => rfl

namespace Session

section

variable (s : Session) (site : Site) {u : UserData} {t : HostType}

theorem standardToHost_object (h : u.object.hostType = t) :
    s.standardToHost site (.object t) (.userdata u) = .ok (.object u.object) := by
  rw [standardToHost, if_pos h]

/-- An object is taken at its own type, unless objects of the type are refused. -/
theorem standardToHost_of_refusal?_eq_none (h : u.object.hostType = t) (htaken : t.refusal? = none) :
    ∃ value, s.standardToHost site (.ofHostType t) (.userdata u) = .ok value := by
  cases t with
  | bool | scriptValue | hostValue => exact ⟨_, rfl⟩
  | hostArray | staticType | wrapper | counter | account | accountView | blank | own =>
    exact ⟨_, standardToHost_object s site h⟩
  | _ => cases htaken

/-- An object is refused at its own type if objects of the type are. -/
theorem standardToHost_of_refusal? (h : u.object.hostType = t) {text : String}
    (hrefused : t.refusal? = some text) :
    s.standardToHost site (.ofHostType t) (.userdata u) =
      .error (.badArgument site.index site.function text) := by
  -- Neither boxed numbers nor type tokens are refused, so the object is none of them.
  have hbox : u.object.primitive? = none := by
    apply Object.primitive?_of_hostType
    intro hwrapper
    rw [← h, hwrapper] at hrefused
    cases hrefused
  have htoken : u.object.staticType? = none := by
    apply Object.staticType?_of_hostType
    intro hstatic
    rw [← h, hstatic] at hrefused
    cases hrefused
  have hmismatch (expected : String) :
      standardToHost.mismatch site expected (.userdata u) =
        .error (.badArgument site.index site.function (expected ++ " expected, got userdata")) := by
    simp [standardToHost.mismatch, ScriptError.badType, Value.typeName, Value.primitive?, hbox,
      Value.kind, Kind.name, String.append_assoc]
  cases t with
  | double =>
    cases hrefused
    simp only [ParamType.ofHostType, standardToHost, Value.toNumber?, hbox, Option.map_none]
    exact hmismatch "number"
  | numeric kind =>
    cases hrefused
    simp only [ParamType.ofHostType, standardToHost, Value.primitive?, hbox]
    exact hmismatch "number"
  | text =>
    cases hrefused
    simp only [ParamType.ofHostType, standardToHost, Value.toText?, hbox, Option.map_none]
    exact hmismatch "string"
  | hostType =>
    cases hrefused
    simp only [ParamType.ofHostType, standardToHost, Value.staticType?, Value.object?,
      Option.bind_some, htoken]
    exact hmismatch "type"
  | table =>
    cases hrefused
    exact hmismatch "table"
  | function =>
    cases hrefused
    exact hmismatch "function"
  | script | context | arguments =>
    cases hrefused
    rfl
  | _ => cases hrefused

end

/-- A value converts at its own type, unless it is refused. -/
theorem standardToHost_runtimeType (s : Session) {v : Value} (hsingle : v.isTuple = false)
    (hnil : v ≠ .nil) (hrequest : ∀ r, v ≠ .request r) :
    ∃ t, v.runtimeType? = some t ∧
      (v.refusal? = none → ∀ site, ∃ h, s.standardToHost site (.ofHostType t) v = .ok h) ∧
      (∀ text, v.refusal? = some text → ∀ site, s.standardToHost site (.ofHostType t) v =
        .error (.badArgument site.index site.function text)) := by
  cases v with
  | nil => exact absurd rfl hnil
  | request r => exact absurd rfl (hrequest r)
  | tuple items => cases hsingle
  | bool | number | string | table | function =>
    refine ⟨_, rfl, fun _ site => ⟨_, rfl⟩, fun text h => ?_⟩
    cases h
  | userdata u =>
    obtain ⟨⟨stamp, payload⟩, metatable⟩ := u
    cases payload with
    | primitive p =>
      -- A boxed number is of the kind asked for.
      refine ⟨_, rfl, fun _ site => ⟨.primitive p, ?_⟩, fun text h => ?_⟩
      · show primitiveResult (p.convert p.kind) = .ok (.primitive p)
        rw [Primitive.convert_kind]
        rfl
      · cases h
    | _ =>
      refine ⟨_, rfl, fun h site => ?_, fun text h site => ?_⟩
      · exact standardToHost_of_refusal?_eq_none s site rfl h
      · exact standardToHost_of_refusal? s site rfl h

/-! ## One type slot and one parameter -/

section

variable {d : Declaration} {m : Method} {p : Parameter}

/-- Binding of one type slot and one parameter: the first argument stands for a type, and the
parameter gets what it gets from the second. -/
theorem bind_single (hbuild : d.build = .ok m) (hcount : d.genericCount = 1)
    (hparameters : d.parameters = [p]) (s : Session) (receiver : Option Object) {a : Arguments}
    {t : HostType} (ht : (a.get a.offset).typeArgument? = some t) :
    s.bind m m.plan receiver a =
      (valueFor s.toHost m receiver a [t] (a.offset + 1) p (m.bindingAt 1 p)).map fun value =>
        { receiver := if m.isStatic then none else receiver
          typeArgs := [t]
          args := [value] } := by
  have hgeneric := Declaration.genericCount_of_build hbuild
  rw [hcount] at hgeneric
  have htypes : typesFor m a = .ok [t] := by
    unfold typesFor
    rw [hgeneric]
    refine mapM_cons_of_ok (y := t) ?_
    unfold typeFor
    rw [ht]
  have hroutes : m.routes = [(p, m.bindingAt 1 p)] := by
    rw [Method.routes_of_build hbuild, Declaration.routes, hparameters, hcount]
    rfl
  have hbefore : m.argumentsBefore receiver.isSome 1 = 1 :=
    Declaration.argumentsBefore_typeSlot hbuild receiver.isSome (Nat.le_of_eq hcount.symm)
  have hvalues : valuesFor s.toHost m receiver a [t] =
      (valueFor s.toHost m receiver a [t] (a.offset + 1) p (m.bindingAt 1 p)).map ([·]) := by
    unfold valuesFor
    rw [hroutes, hgeneric]
    show (valueFor s.toHost m receiver a [t] (a.offset + m.argumentsBefore receiver.isSome 1) p
      (m.bindingAt 1 p) >>= fun value => pure [value]) = _
    rw [hbefore]
    cases valueFor s.toHost m receiver a [t] (a.offset + 1) p (m.bindingAt 1 p) <;> rfl
  rw [bind_eq_bindPlainly (.built hbuild)]
  unfold bindPlainly
  rw [htypes]
  show (valuesFor s.toHost m receiver a [t] >>= _) = _
  rw [hvalues]
  cases valueFor s.toHost m receiver a [t] (a.offset + 1) p (m.bindingAt 1 p) <;> rfl

/-- What a parameter gets that is not variadic, if its argument can be converted. -/
theorem exists_valueFor {convert : Conversion} (receiver : Option Object) {a : Arguments}
    {typeArgs : List HostType} {position : Nat} {b : Binding} (hb : b ≠ .variadic)
    (h : ∃ value, valueFor.argument convert m a typeArgs position p = .ok value) :
    ∃ value, valueFor convert m receiver a typeArgs position p b = .ok value := by
  cases b with
  | variadic => exact absurd rfl hb
  | typeSlot | script | context | arguments | out => exact ⟨_, rfl⟩
  | extensionReceiver =>
    cases receiver with
    | some o => exact ⟨_, rfl⟩
    | none => exact h
  | convert => exact h

/-- A parameter declared as a type argument is not variadic. -/
theorem bindingAt_ne_variadic_of_generic (hbuild : d.build = .ok m) (hcount : d.genericCount = 1)
    (hparameters : d.parameters = [p]) (htype : p.type = .generic 0) :
    m.bindingAt 1 p ≠ .variadic := by
  intro hvariadic
  have hroute : (d.routes m)[0]? = some (p, .variadic) := by
    refine Declaration.getElem?_routes.mpr ⟨?_, ?_⟩
    · rw [hparameters]
      rfl
    · rw [hcount]
      exact hvariadic.symm
  obtain ⟨-, element, harray⟩ := Declaration.variadic_of_getElem?_routes hbuild hroute
  rw [htype] at harray
  cases harray

end

/-- **A value is taken at the type inferred from it**, unless it is an object that the type refuses.
Without custom conversions, every value that is not nil, a request or a type stands for a type. At
the parameter type this stands for, the value converts, and every generic method with one type slot
and one parameter of its type takes the value twice, unless the value is refused. A refused value is
refused both times with the same text, where the parameter is made of the argument. -/
theorem inferred_type_taken {s : Session} (hconverters : s.converters.toHost.isEmpty = true)
    {v : Value} (hflat : v.Flat) (hnil : v.first ≠ .nil) (hrequest : ∀ r, v.first ≠ .request r)
    (htoken : v.first.staticType? = none) :
    ∃ t, v.runtimeType? = some t ∧
      (v.first.refusal? = none →
        ∀ default site, ∃ h, s.toHost v (.ofHostType t) default site = .ok h) ∧
      (∀ text, v.first.refusal? = some text →
        ∀ default site, s.toHost v (.ofHostType t) default site =
          .error (.badArgument site.index site.function text)) ∧
      (∀ receiver : Option Value,
        (Arguments.ofList (receiver.toList ++ [v, v]) receiver.isSome).PassesTwice v) ∧
      ∀ d m p id slot receiver a, Declaration.build d = .ok m → d.genericCount = 1 →
        d.parameters = [p] → p.type = .generic 0 → s.method? id = some slot → slot.method = m →
        a.PassesTwice v →
        (v.first.refusal? = none →
          ∃ call, s.ComesTo id receiver a m call ∧ call.typeArgs = [t]) ∧
        (∀ text, v.first.refusal? = some text → m.bindingAt 1 p = .convert →
          s.FailsToBind id receiver a (.badArgument (a.offset + 2) m.name text)) := by
  obtain ⟨t, ht, htaken, hrefused⟩ :=
    standardToHost_runtimeType s hflat.isTuple_first hnil hrequest
  have hstandard {w : Value} (hw : w.first = v.first) (type : ParamType)
      (default : Option HostValue) (site : Site) :
      s.toHost w type default site = s.standardToHost site type v.first := by
    rw [← hw] at hnil ⊢
    exact toHost_of_standard (customToHost?_of_isEmpty hconverters _ _) fun h => absurd h hnil
  refine ⟨t, v.runtimeType?_first ▸ ht, fun h default site => ?_, fun text h default site => ?_,
    Arguments.passesTwice_ofList hflat, ?_⟩
  · rw [hstandard rfl]
    exact htaken h site
  · rw [hstandard rfl]
    exact hrefused text h site
  rintro d m p id slot receiver a hbuild hcount hparameters htype hslot rfl ⟨hfirst, hsecond⟩
  have htypeArgument : (a.get a.offset).typeArgument? = some t := by
    rw [hfirst, Value.typeArgument?, htoken, Option.none_or, ht]
  have hbind := bind_single hbuild hcount hparameters s receiver htypeArgument
  have hargument : valueFor.argument s.toHost slot.method a [t] (a.offset + 1) p =
      s.standardToHost ⟨slot.method.name, a.offset + 2⟩ (.ofHostType t) v.first := by
    unfold valueFor.argument
    rw [htype, hstandard (by rw [a.first_raw?, hsecond])]
    rfl
  constructor
  · intro h
    obtain ⟨value, hvalue⟩ := exists_valueFor receiver
      (bindingAt_ne_variadic_of_generic hbuild hcount hparameters htype) (hargument ▸ htaken h _)
    rw [hvalue] at hbind
    exact ⟨_, (comesTo_iff_bind hslot).mpr hbind, rfl⟩
  · intro text h hconvert
    rw [hconvert, valueFor, hargument, hrefused text h] at hbind
    exact (failsToBind_iff_bind hslot).mpr hbind

/-- A generic method is called with a boxed integer in a tuple, twice, and with a truth value that
the host handed over as an object: the types are those of the integer and of truth values, and both
values are taken. -/
theorem inferred_type_taken_of_integer_and_truth :
    ∃ (d : Declaration) (m : Method) (s : Session) (n : Primitive) (v w : Value) (t u : HostType)
      (call call' : HostCall),
      d.genericCount = 1 ∧ d.parameters = [{ name := "x", type := .generic 0 }] ∧
      d.build = .ok m ∧ s.method? ⟨0⟩ = some (.fresh m) ∧ s.converters.isEmpty = true ∧
      n.kind = .integer .int32 ∧ v = .tuple [.userdata ⟨⟨2, .primitive n⟩, none⟩, .nil] ∧
      v.runtimeType? = some t ∧ t = .numeric (.integer .int32) ∧
      (∀ site, ∃ h, s.toHost v (.ofHostType t) none site = .ok h) ∧
      s.ComesTo ⟨0⟩ none (.ofList [v, v] false) m call ∧ call.typeArgs = [t] ∧
      w = .userdata ⟨⟨3, .sealed .bool rfl⟩, none⟩ ∧ w.runtimeType? = some u ∧ u = .bool ∧
      (∀ site, ∃ h, s.toHost w (.ofHostType u) none site = .ok h) ∧
      s.ComesTo ⟨0⟩ none (.ofList [w, w] false) m call' ∧ call'.typeArgs = [u] := by
  let d : Declaration :=
    { name := "f"
      isStatic := true
      genericCount := 1
      parameters := [{ name := "x", type := .generic 0 }]
      code := .body (.value .void) }
  obtain ⟨m, hbuild⟩ : ∃ m, d.build = .ok m := ⟨_, rfl⟩
  let s : Session := { bare 1 with methods := #[.fresh m] }
  let n : Primitive := .integer .int32 5 (by decide)
  let v : Value := .tuple [.userdata ⟨⟨2, .primitive n⟩, none⟩, .nil]
  let w : Value := .userdata ⟨⟨3, .sealed .bool rfl⟩, none⟩
  have hslot : s.method? ⟨0⟩ = some (.fresh m) := rfl
  have hflat : v.Flat := by decide
  obtain ⟨t, ht, htaken, -, hpasses, hcalls⟩ :=
    inferred_type_taken (s := s) (v := v) rfl hflat (by simp [v]) (by simp [v]) rfl
  obtain ⟨hcall, -⟩ := hcalls d m _ ⟨0⟩ _ none _ hbuild rfl rfl rfl hslot rfl (hpasses none)
  obtain ⟨call, hcomes, htypeArgs⟩ := hcall rfl
  have hint : t = .numeric (.integer .int32) := (Option.some.inj ht).symm
  obtain ⟨u, hu, htaken', -, hpasses', hcalls'⟩ :=
    inferred_type_taken (s := s) (v := w) rfl trivial (by simp [w, Value.first])
      (by simp [w, Value.first]) rfl
  obtain ⟨hcall', -⟩ := hcalls' d m _ ⟨0⟩ _ none _ hbuild rfl rfl rfl hslot rfl (hpasses' none)
  obtain ⟨call', hcomes', htypeArgs'⟩ := hcall' rfl
  have hbool : u = .bool := (Option.some.inj hu).symm
  exact ⟨d, m, s, n, v, w, t, u, call, call', rfl, rfl, hbuild, hslot, rfl, rfl, rfl, ht, hint,
    htaken rfl none, hcomes, htypeArgs, rfl, hu, hbool, htaken' rfl none, hcomes', htypeArgs'⟩

/-- **An inferred type may refuse its value.** A text that the host hands to a script as an object
stands for the type of texts, which scripts hold as strings; as an object it is no string, and the
generic method that got its type from it does not take it. -/
theorem inferred_type_refused :
    ∃ (d : Declaration) (m : Method) (s : Session) (v : Value) (t : HostType),
      v = .userdata ⟨⟨2, .text "a"⟩, none⟩ ∧ s.converters.isEmpty = true ∧ v.Flat ∧
      v.first ≠ .nil ∧ (∀ r, v.first ≠ .request r) ∧ v.first.staticType? = none ∧
      v.runtimeType? = some t ∧
      s.toHost v (.ofHostType t) none ⟨"f", 2⟩ = .error (.badType 2 "f" "string" v) ∧
      d.genericCount = 1 ∧ d.parameters = [{ name := "x", type := .generic 0 }] ∧
      d.build = .ok m ∧ s.method? ⟨0⟩ = some (.fresh m) ∧
      s.FailsToBind ⟨0⟩ none (.ofList [v, v] false) (.badType 2 "f" "string" v) := by
  let d : Declaration :=
    { name := "f"
      isStatic := true
      genericCount := 1
      parameters := [{ name := "x", type := .generic 0 }]
      code := .body (.value .void) }
  obtain ⟨m, hbuild⟩ : ∃ m, d.build = .ok m := ⟨_, rfl⟩
  let s : Session := { bare 1 with methods := #[.fresh m] }
  let v : Value := .userdata ⟨⟨2, .text "a"⟩, none⟩
  have hslot : s.method? ⟨0⟩ = some (.fresh m) := rfl
  refine ⟨d, m, s, v, .text, rfl, rfl, trivial, by simp [v, Value.first], by simp [v, Value.first],
    rfl, rfl, rfl, rfl, rfl, hbuild, hslot, (failsToBind_iff_bind hslot).mpr ?_⟩
  obtain rfl := Except.ok.inj hbuild
  rfl

end Session

end ScriptHost
