import ScriptHost.Proofs.Arity
import ScriptHost.Proofs.PlainBinding

/-!
# Type arguments close the types of a method

A declaration is checked once: no type in it has a pointer, and every type argument it mentions is
one the method has. Calls then put the type arguments in place before any argument is converted. The
conversion has rules for open types and for pointers all the same; after the check, no call gets to
them.

## Main definitions

* `ParamType.isClosed`: types without type arguments and pointers.
* `ParamType.wrap`: a type inside nullable types and arrays.
* `Declaration.types`: all types of a declaration.
* `Session.standardToHostWith`, `Session.toHostWith`: the conversion with other rules for open types
  and pointers.

## Main results

* `ParamType.isClosed_substitute`: substitution closes a type.
* `ParamType.substitute_cases`: it changes nothing but the type argument.
* `Session.toHostWith_eq`: the other rules do not matter for closed types.
* `Session.bindPlainly_toHostWith`: they do not matter for binding.
* `Session.type_arguments_close_types`: all of it for a method that was built.
-/

namespace ScriptHost

namespace ParamType

/-! ## Closed types -/

/-- **Closed types**: no type argument and no pointer occurs in them. -/
def isClosed : ParamType → Bool
  | generic _ | pointer => false
  | nullable t | array t => t.isClosed
  | _ => true

@[simp] theorem isClosed_ofHostType (t : HostType) : (ofHostType t).isClosed = true := by
  cases t <;> rfl

theorem isClosed_elementType {type : ParamType} (h : type.isClosed = true) :
    type.elementType.isClosed = true := by
  cases type with
  | array element => exact h
  | _ => exact h

theorem substitute_generic {typeArgs : List HostType} {i : Nat} {t : HostType}
    (h : typeArgs[i]? = some t) : (generic i).substitute typeArgs = ofHostType t := by
  rw [substitute, h]

section

variable {type : ParamType} {typeArgs : List HostType}

/-- Substitution closes a type without pointers, if there are enough type arguments. -/
theorem isClosed_substitute (hpointer : type.hasPointer = false)
    (hgeneric : ∀ i, type.generic? = some i → i < typeArgs.length) :
    (type.substitute typeArgs).isClosed = true := by
  induction type with
  | generic i =>
    rw [substitute_generic (List.getElem?_eq_getElem (hgeneric i rfl))]
    exact isClosed_ofHostType _
  | pointer => cases hpointer
  | nullable inner ih => exact ih hpointer hgeneric
  | array element ih => exact ih hpointer hgeneric
  | _ => rfl

/-- What a type can stand in. -/
inductive Layer where
  | nullable
  | array

/-- **A type inside several layers**, the outermost first. -/
def wrap (layers : List Layer) (type : ParamType) : ParamType :=
  layers.foldr (fun layer t => match layer with | .nullable => nullable t | .array => array t) type

/-- Substitution changes nothing but the type argument, if there is one, whatever it stands in. -/
theorem substitute_cases (hgeneric : ∀ i, type.generic? = some i → i < typeArgs.length) :
    type.generic? = none ∧ type.substitute typeArgs = type ∨
      ∃ layers i t, type = wrap layers (generic i) ∧ typeArgs[i]? = some t ∧
        type.substitute typeArgs = wrap layers (ofHostType t) := by
  induction type with
  | generic i =>
    have ht := List.getElem?_eq_getElem (hgeneric i rfl)
    exact Or.inr ⟨[], i, _, rfl, ht, substitute_generic ht⟩
  | nullable inner ih =>
    obtain ⟨hnone, hsame⟩ | ⟨layers, i, t, htype, ht, hsubstitute⟩ := ih hgeneric
    · exact Or.inl ⟨hnone, congrArg nullable hsame⟩
    · exact Or.inr ⟨.nullable :: layers, i, t, congrArg nullable htype, ht,
        congrArg nullable hsubstitute⟩
  | array element ih =>
    obtain ⟨hnone, hsame⟩ | ⟨layers, i, t, htype, ht, hsubstitute⟩ := ih hgeneric
    · exact Or.inl ⟨hnone, congrArg array hsame⟩
    · exact Or.inr ⟨.array :: layers, i, t, congrArg array htype, ht, congrArg array hsubstitute⟩
  | _ => exact Or.inl ⟨rfl, rfl⟩

end

end ParamType

/-! ## The types of a declaration -/

namespace Declaration

/-- The types of the parameters and of the result. -/
def types (d : Declaration) : List ParamType := d.parameters.map (·.type) ++ d.returns.toList

/-- The check on a declaration: its types have no pointers and mention no type arguments but
those of the method. -/
theorem of_mem_types {d : Declaration} {m : Method} (hbuild : d.build = .ok m) {type : ParamType}
    (h : type ∈ d.types) :
    type.hasPointer = false ∧ ∀ i, type.generic? = some i → i < d.genericCount := by
  have hproblem := problem?_of_build hbuild
  unfold problem? at hproblem
  split at hproblem
  · cases hproblem
  split at hproblem
  · cases hproblem
  split at hproblem
  · cases hproblem
  split at hproblem
  · cases hproblem
  split at hproblem
  · cases hproblem
  rename_i hpointers hpointerResult hopenResult hopens
  -- Either way the type passes the same two checks.
  obtain ⟨hpointer, hopen⟩ : type.hasPointer = false ∧ d.isOpen type = false := by
    rcases List.mem_append.mp h with hparameter | hresult
    · obtain ⟨p, hp, rfl⟩ := List.mem_map.mp hparameter
      simp only [List.any_eq_true, not_exists, not_and, Bool.not_eq_true] at hpointers hopens
      exact ⟨hpointers p hp, hopens p hp⟩
    · rw [Option.mem_toList] at hresult
      rw [hresult] at hpointerResult hopenResult
      exact ⟨by simpa using hpointerResult, by simpa using hopenResult⟩
  refine ⟨hpointer, fun i hi => ?_⟩
  unfold isOpen at hopen
  rw [hi] at hopen
  simpa using hopen

end Declaration

/-! ## Other rules for open types and pointers -/

namespace Session

/-- The ways in which values become host values of a type by some rules, at a site. -/
abbrev Rules := Site → ParamType → Value → Except ScriptError HostValue

/-- The standard rules with other ones for type arguments and pointers, also where these occur
inside other types. -/
def standardToHostWith (s : Session) (rules : Rules) (site : Site) :
    ParamType → Value → Except ScriptError HostValue
  | .generic i, v => rules site (.generic i) v
  | .pointer, v => rules site .pointer v
  | .nullable inner, v => if v.isNil then .ok .null else s.standardToHostWith rules site inner v
  | .array element, .table t =>
    let convert (item : Value) : Except ScriptError HostValue :=
      match s.customToHost? element item.first with
      | some h => .ok h
      | none => s.standardToHostWith rules site element item.first
    ((s.heap.table t).arrayValues.mapM convert).map fun items => .array (.ofList element items)
  | type, v => s.standardToHost site type v

/-- Conversion to the host with other rules for type arguments and pointers. -/
def toHostWith (s : Session) (rules : Rules) (v : Value) (type : ParamType)
    (default : Option HostValue) (site : Site) : Except ScriptError HostValue :=
  match s.customToHost? type v.first with
  | some h => .ok h
  | none =>
    match v.first, default with
    | .nil, some d => .ok d
    | single, _ => s.standardToHostWith rules site type single

section

variable {s : Session} {rules : Rules} {type : ParamType}

/-- The other rules are the standard ones where a type is closed, or where they agree with them. -/
theorem standardToHostWith_eq (h : type.isClosed = true ∨ rules = s.standardToHost) (site : Site)
    (v : Value) : s.standardToHostWith rules site type v = s.standardToHost site type v := by
  induction type generalizing v with
  | generic i =>
    obtain hclosed | rfl := h
    · cases hclosed
    · rfl
  | pointer =>
    obtain hclosed | rfl := h
    · cases hclosed
    · rfl
  | nullable inner ih =>
    rw [standardToHostWith]
    cases hnil : v.isNil with
    | true =>
      obtain rfl := Value.isNil_iff.mp hnil
      rfl
    | false =>
      rw [standardToHost_nullable hnil, ← ih h]
      rfl
  | array element ih =>
    cases v with
    | table t =>
      rw [standardToHostWith, standardToHost_table]
      refine congrArg _ (mapM_congr fun item _ => ?_)
      cases hcustom : s.customToHost? element item.first with
      | some value => rw [toHost_of_custom hcustom]
      | none =>
        rw [toHost_of_standard hcustom fun _ => rfl]
        exact ih h item.first
    | _ => rfl
  | _ => cases v <;> rfl

theorem toHostWith_eq (h : type.isClosed = true ∨ rules = s.standardToHost) (v : Value)
    (default : Option HostValue) (site : Site) :
    s.toHostWith rules v type default site = s.toHost v type default site := by
  unfold toHostWith toHost
  cases s.customToHost? type v.first with
  | some value => rfl
  | none =>
    cases v.first with
    | nil =>
      cases default with
      | some d => rfl
      | none => exact standardToHostWith_eq h site _
    | _ => exact standardToHostWith_eq h site _

end

/-! ## Binding -/

section

variable {convert convert' : Conversion} {m : Method} {receiver : Option Object} {a : Arguments}
  {typeArgs : List HostType} {p : Parameter}

/-- What a parameter gets depends on conversions at its type, and at the element type of it. -/
theorem valueFor_congr
    (h : ∀ type,
      type = p.type.substitute typeArgs ∨ type = (p.type.substitute typeArgs).elementType →
      ∀ v default site, convert v type default site = convert' v type default site)
    (position : Nat) (b : Binding) :
    valueFor convert m receiver a typeArgs position p b =
      valueFor convert' m receiver a typeArgs position p b := by
  have hargument : valueFor.argument convert m a typeArgs position p =
      valueFor.argument convert' m a typeArgs position p := h _ (Or.inl rfl) _ _ _
  cases b with
  | typeSlot | script | context | arguments | out => rfl
  | extensionReceiver =>
    cases receiver with
    | some o => rfl
    | none => exact hargument
  | convert => exact hargument
  | variadic =>
    rw [valueFor, valueFor]
    unfold gather
    split
    · rfl
    · exact congrArg _ (mapM_congr fun q _ => h _ (Or.inr rfl) _ _ _)

/-- Binding depends on conversions at the types of the parameters, with the type arguments in place,
and at the element types of them. -/
theorem bindPlainly_congr
    (h : ∀ types, typesFor m a = .ok types → ∀ q ∈ m.routes, ∀ type,
      type = q.1.type.substitute types ∨ type = (q.1.type.substitute types).elementType →
      ∀ v default site, convert v type default site = convert' v type default site) :
    bindPlainly convert m receiver a = bindPlainly convert' m receiver a := by
  unfold bindPlainly
  cases htypes : typesFor m a with
  | error e => rfl
  | ok types =>
    have hvalues :
        valuesFor convert m receiver a types = valuesFor convert' m receiver a types := by
      refine mapM_congr fun q hq => ?_
      exact valueFor_congr (h types htypes q.1 (List.fst_mem_of_mem_zipIdx hq)) _ _
    show (valuesFor convert m receiver a types >>= _) = valuesFor convert' m receiver a types >>= _
    rw [hvalues]

end

section

variable {d : Declaration} {m : Method}

/-- Type arguments close the types of the parameters before any argument is converted. -/
theorem isClosed_of_typesFor (hbuild : d.build = .ok m) {a : Arguments} {types : List HostType}
    (htypes : typesFor m a = .ok types) {q : Parameter × Binding} (hq : q ∈ m.routes) :
    (q.1.type.substitute types).isClosed = true := by
  have hlength : types.length = d.genericCount := by
    rw [← (mapM_eq_ok_iff.mp htypes).length_eq, List.length_range',
      Declaration.genericCount_of_build hbuild]
  have hmem : q.1.type ∈ d.types := by
    rw [Method.routes_of_build hbuild] at hq
    obtain ⟨i, hi⟩ := List.mem_iff_getElem?.mp hq
    obtain ⟨hp, -⟩ := Declaration.getElem?_routes.mp hi
    exact List.mem_append_left _ (List.mem_map_of_mem (List.mem_of_getElem? hp))
  obtain ⟨hpointer, hgeneric⟩ := Declaration.of_mem_types hbuild hmem
  refine ParamType.isClosed_substitute hpointer fun i hi => ?_
  rw [hlength]
  exact hgeneric i hi

/-- **Binding gets to no rule** for type arguments and pointers. -/
theorem bindPlainly_toHostWith (hbuild : d.build = .ok m) (s : Session) (rules : Rules)
    (receiver : Option Object) (a : Arguments) :
    bindPlainly (s.toHostWith rules) m receiver a = s.bind m m.plan receiver a := by
  rw [bind_eq_bindPlainly (.built hbuild)]
  refine bindPlainly_congr fun types htypes q hq type htype v default site => ?_
  have hclosed := isClosed_of_typesFor hbuild htypes hq
  refine toHostWith_eq (Or.inl ?_) v default site
  rcases htype with rfl | rfl
  · exact hclosed
  · exact ParamType.isClosed_elementType hclosed

/-- **Type arguments close the types of a method.** With a type argument for each slot, every type
of a declaration that passed the check has no type argument and no pointer left, and nothing else in
it has changed. A parameter declared as a type argument looks for its custom conversion under that
very type. So whatever the rules for type arguments and pointers are, calls of the method come to
the same and fail with the same errors. -/
theorem type_arguments_close_types (hbuild : d.build = .ok m) :
    (∀ type ∈ d.types, ∀ typeArgs : List HostType, typeArgs.length = d.genericCount →
      (type.substitute typeArgs).isClosed = true ∧
      (type.generic? = none ∧ type.substitute typeArgs = type ∨
        ∃ layers i t, type = .wrap layers (.generic i) ∧ typeArgs[i]? = some t ∧
          type.substitute typeArgs = .wrap layers (.ofHostType t)) ∧
      ∀ i, type = .generic i → ∃ t, typeArgs[i]? = some t ∧
        (type.substitute typeArgs).hostType? = some t ∧
        ∀ (s : Session) v, s.customToHost? (type.substitute typeArgs) v =
          (s.converters.lookupToHost v t).bind fun c => c.apply v) ∧
    ∀ (s : Session) id slot, s.method? id = some slot → slot.method = m →
      s.toHostWith s.standardToHost = s.toHost ∧
      ∀ rules receiver a,
        (∀ call, s.ComesTo id receiver a m call ↔
          bindPlainly (s.toHostWith rules) m receiver a = .ok call) ∧
        ∀ e, s.FailsToBind id receiver a e ↔
          bindPlainly (s.toHostWith rules) m receiver a = .error e := by
  constructor
  · intro type htype typeArgs hlength
    obtain ⟨hpointer, hgeneric⟩ := Declaration.of_mem_types hbuild htype
    rw [← hlength] at hgeneric
    refine ⟨ParamType.isClosed_substitute hpointer hgeneric,
      ParamType.substitute_cases hgeneric, ?_⟩
    rintro i rfl
    have ht := List.getElem?_eq_getElem (hgeneric i rfl)
    refine ⟨_, ht, ?_, fun s v => ?_⟩
    · rw [ParamType.substitute_generic ht, ParamType.hostType?_ofHostType]
    · unfold customToHost?
      rw [ParamType.substitute_generic ht, ParamType.hostType?_ofHostType, Option.bind_some]
  · rintro s id slot hslot rfl
    refine ⟨?_, fun rules receiver a => ?_⟩
    · funext v type default site
      exact toHostWith_eq (Or.inr rfl) v default site
    · rw [bindPlainly_toHostWith hbuild]
      exact ⟨fun call => comesTo_iff_bind hslot, fun e => failsToBind_iff_bind hslot⟩

end

/-- A generic extension that takes its receiver from the arguments, with a type argument inside a
nullable type and in the items of what is left: it comes to the same call if no value can be
converted at a type argument. -/
theorem type_arguments_close_types_of_extension :
    ∃ (d : Declaration) (m : Method) (s : Session) (a : Arguments) (call : HostCall)
      (rules : Rules),
      d.genericCount = 2 ∧ d.extensionOf = some .blank ∧
      d.types = [.generic 1, .nullable (.generic 0), .array (.generic 0),
        .array (.nullable (.generic 0))] ∧
      d.build = .ok m ∧ s.method? ⟨0⟩ = some (.fresh m) ∧
      a = ⟨[.string "t", .bool true, .bool false, .nil, .string "u"], false⟩ ∧
      call = ⟨none, [.text, .bool], [.bool false, .null, .array ⟨.string, [1], [.text "u"]⟩]⟩ ∧
      (rules = fun _ _ _ => .error .stackOverflow) ∧
      ((ParamType.array (.nullable (.generic 0))).substitute [.text, .bool]).isClosed = true ∧
      s.ComesTo ⟨0⟩ none a m call ∧ bindPlainly (s.toHostWith rules) m none a = .ok call := by
  let d : Declaration :=
    { name := "f"
      extensionOf := some .blank
      genericCount := 2
      parameters :=
        [{ name := "self", type := .generic 1 },
          { name := "x", type := .nullable (.generic 0) },
          { name := "rest", type := .array (.generic 0), variadic := true }]
      returns := some (.array (.nullable (.generic 0)))
      code := .body (.value .void) }
  obtain ⟨m, hbuild⟩ : ∃ m, d.build = .ok m := ⟨_, rfl⟩
  let s : Session := { bare 1 with methods := #[.fresh m] }
  let a : Arguments := ⟨[.string "t", .bool true, .bool false, .nil, .string "u"], false⟩
  let call : HostCall :=
    ⟨none, [.text, .bool], [.bool false, .null, .array ⟨.string, [1], [.text "u"]⟩]⟩
  let rules : Rules := fun _ _ _ => .error .stackOverflow
  have hslot : s.method? ⟨0⟩ = some (.fresh m) := rfl
  have hcall : s.ComesTo ⟨0⟩ none a m call := by
    refine (comesTo_iff_bind hslot).mpr ?_
    obtain rfl := Except.ok.inj hbuild
    rfl
  obtain ⟨htypes, hcalls⟩ := type_arguments_close_types hbuild
  exact ⟨d, m, s, a, call, rules, rfl, rfl, rfl, hbuild, hslot, rfl, rfl, rfl,
    (htypes _ (by simp [Declaration.types, d]) [.text, .bool] rfl).1, hcall,
    (((hcalls s ⟨0⟩ _ hslot rfl).2 rules none a).1 call).mp hcall⟩

end Session

end ScriptHost
