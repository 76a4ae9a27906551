import ScriptHost.Proofs.Arity
import ScriptHost.Proofs.PlainBinding

/-!
# The first failure decides

A call of a host method either binds all its parameters and then runs the host code once, or it runs
no host code and ends with the error of the first parameter that gets nothing. Each parameter is
judged by itself: a type slot by the argument in its place, a declared parameter by the argument
behind those used up before it. One argument decides about the first failure, and what was passed
behind it does not matter.

## Main definitions

* `Value.leading`, `Arguments.LacksType`: the arguments that stand for no type.
* `ScriptError.isConversion`: the errors of conversions.
* `Session.verdict`: whether a parameter gets what it needs, by itself.
* `Session.FirstFails`: the first parameter that does not.
* `Session.DecidedAt`: the argument that decides about it.

## Main results

* `Session.verdict_of_bindPlainly`, `Session.firstFails_of_bindPlainly`: binding succeeds if every
  verdict is good, and fails with the first that is not.
* `Session.isConversion_valueFor`: why declared parameters get nothing.
* `Session.verdict_congr`, `Session.exists_decidedAt`: the arguments a verdict depends on.
* `Session.binding_all_or_nothing`: what becomes of calls that fail.
-/

namespace ScriptHost

/-! ## Arguments that stand for no type -/

namespace Value

/-- What a value comes down to: the first value of a tuple of tuples, and nil for an empty one. -/
def leading : Value → Value
  | tuple [] => nil
  | tuple (v :: _) => v.leading
  | v => v

@[simp] theorem leading_first (v : Value) : v.first.leading = v.leading := by
  cases v with
  | tuple items =>
    cases items with
    | nil => rfl
    | cons v items => rw [first, leading]
  | _ => rfl

theorem runtimeType?_leading (v : Value) : v.leading.runtimeType? = v.runtimeType? := by
  fun_induction leading v with
  | case1 => rfl
  | case2 v _ ih => rw [ih, runtimeType?]
  | case3 => rfl

theorem isTuple_leading (v : Value) : v.leading.isTuple = false := by
  fun_induction leading v with
  | case1 => rfl
  | case2 _ _ ih => exact ih
  | case3 v hempty hcons =>
    cases v with
    | tuple items =>
      cases items with
      | nil => exact absurd rfl hempty
      | cons v items => exact absurd rfl (hcons v items)
    | _ => rfl

/-- The type of an object is always known. -/
theorem runtimeType?_userdata (u : UserData) : (userdata u).runtimeType? ≠ none := by
  rw [runtimeType?]
  cases u.object.primitive? <;> simp

/-- A value stands for no type if it comes down to nil or to a request. -/
theorem typeArgument?_eq_none_iff {v : Value} :
    v.typeArgument? = none ↔ v.leading = .nil ∨ ∃ r, v.leading = .request r := by
  have hruntime : v.typeArgument? = none ↔ v.runtimeType? = none := by
    unfold typeArgument?
    rw [Option.or_eq_none_iff]
    refine ⟨And.right, fun h => ⟨?_, h⟩⟩
    cases v with
    | userdata u => exact absurd h (runtimeType?_userdata u)
    | _ => rfl
  rw [hruntime, ← runtimeType?_leading]
  have hsingle := v.isTuple_leading
  cases hleading : v.leading with
  | nil => exact ⟨fun _ => Or.inl rfl, fun _ => rfl⟩
  | request r => exact ⟨fun _ => Or.inr ⟨r, rfl⟩, fun _ => rfl⟩
  | tuple items =>
    rw [hleading] at hsingle
    cases hsingle
  | userdata u => exact ⟨fun h => absurd h (runtimeType?_userdata u), by simp⟩
  | bool | number | string | table | function => simp [runtimeType?]

end Value

/-- **An argument stands for no type** if it was not passed, or comes down to nil or to a request.
-/
def Arguments.LacksType (a : Arguments) (position : Nat) : Prop :=
  ∀ v, a.raw? position = some v → v.leading = .nil ∨ ∃ r, v.leading = .request r

/-- Two argument lists that agree up to a position, receivers included. -/
def Arguments.AgreesUpTo (a a' : Arguments) (n : Nat) : Prop :=
  a'.isMethodCall = a.isMethodCall ∧ ∀ i ≤ n, a'.raw? i = a.raw? i

namespace Session

theorem typeFor_eq_error_iff {m : Method} {a : Arguments} {position : Nat} {e : ScriptError} :
    typeFor m a position = .error e ↔ a.LacksType position ∧ e = .genericBinding m.name := by
  have hnone : (a.get position).typeArgument? = none ↔ a.LacksType position := by
    unfold Arguments.get Arguments.LacksType
    cases a.raw? position with
    | none => simp [Value.typeArgument?_eq_none_iff, Value.leading]
    | some v =>
      rw [Option.map_some, Option.getD_some, Value.typeArgument?_eq_none_iff, Value.leading_first]
      refine ⟨fun h w hw => ?_, fun h => h v rfl⟩
      obtain rfl := Option.some.inj hw
      exact h
  rw [← hnone]
  unfold typeFor
  cases (a.get position).typeArgument? with
  | some t => simp
  | none => exact ⟨fun h => ⟨rfl, (Except.error.inj h).symm⟩, fun h => congrArg _ h.2.symm⟩

end Session

/-! ## Why declared parameters get nothing -/

namespace ScriptError

/-- **The errors of conversions**: about an argument, or about a number that cannot be had. -/
def isConversion : ScriptError → Bool
  | badArgument .. | overflow .. | format .. => true
  | _ => false

theorem isConversion_ofNumeric (e : Numeric.Fault) : (ofNumeric e).isConversion = true := by
  cases e <;> rfl

end ScriptError

namespace Session

section

variable {s : Session} {site : Site} {v : Value} {e : ScriptError}

theorem isConversion_primitiveResult {r : Except Numeric.Fault Primitive}
    (h : primitiveResult r = .error e) : e.isConversion = true := by
  cases r with
  | ok p => cases h
  | error e' =>
    obtain rfl := Except.error.inj h
    exact ScriptError.isConversion_ofNumeric e'

/-- The standard rules fail with the errors of conversions. -/
theorem isConversion_standardToHost {type : ParamType}
    (h : s.standardToHost site type v = .error e) : e.isConversion = true := by
  induction type generalizing v with
  | bool | any | dynamic | generic => cases h
  | number | string | typeToken =>
    rw [standardToHost] at h
    split at h
    · cases h
    · obtain rfl := Except.error.inj h
      rfl
  | primitive kind =>
    rw [standardToHost.eq_def] at h
    dsimp only at h
    split at h
    · exact isConversion_primitiveResult h
    · split at h
      · exact isConversion_primitiveResult h
      · obtain rfl := Except.error.inj h
        rfl
  | object t =>
    cases v with
    | nil => cases h
    | userdata u =>
      rw [standardToHost] at h
      split at h
      · cases h
      · obtain rfl := Except.error.inj h
        rfl
    | _ =>
      obtain rfl := Except.error.inj h
      rfl
  | table =>
    cases v with
    | table t => cases h
    | _ =>
      obtain rfl := Except.error.inj h
      rfl
  | function =>
    cases v with
    | function f => cases h
    | _ =>
      obtain rfl := Except.error.inj h
      rfl
  | nullable inner ih =>
    cases v with
    | nil => cases h
    | _ => exact ih h
  | array element ih =>
    cases v with
    | table t =>
      -- The items fail with the error of one of them, which has no custom conversion.
      rw [standardToHost_table] at h
      obtain ⟨k, item, -, hitem, -⟩ := exists_error_of_mapM (error_of_map_eq_error h)
      cases hcustom : s.customToHost? element item.first with
      | some value =>
        rw [toHost_of_custom hcustom] at hitem
        cases hitem
      | none =>
        rw [toHost_of_standard hcustom fun _ => rfl] at hitem
        exact ih hitem
    | userdata u =>
      rw [standardToHost] at h
      split at h
      · split at h
        · cases h
        · obtain rfl := Except.error.inj h
          rfl
      · obtain rfl := Except.error.inj h
        rfl
    | _ =>
      obtain rfl := Except.error.inj h
      rfl
  | script | context | arguments | pointer =>
    obtain rfl := Except.error.inj h
    rfl

theorem isConversion_toHost {type : ParamType} {default : Option HostValue}
    (h : s.toHost v type default site = .error e) : e.isConversion = true := by
  cases hcustom : s.customToHost? type v.first with
  | some value =>
    rw [toHost_of_custom hcustom] at h
    cases h
  | none =>
    by_cases hdefault : v.first = .nil → default = none
    · rw [toHost_of_standard hcustom hdefault] at h
      exact isConversion_standardToHost h
    · obtain ⟨hnil, hsome⟩ := Classical.not_imp.mp hdefault
      obtain ⟨d, rfl⟩ := Option.ne_none_iff_exists'.mp hsome
      rw [toHost_of_default hcustom hnil] at h
      cases h

/-- Why a declared parameter gets nothing: a conversion fails. -/
theorem isConversion_valueFor {m : Method} {receiver : Option Object} {a : Arguments}
    {typeArgs : List HostType} {position : Nat} {p : Parameter} {b : Binding}
    (h : valueFor s.toHost m receiver a typeArgs position p b = .error e) :
    e.isConversion = true := by
  cases b with
  | typeSlot | script | context | arguments | out => cases h
  | extensionReceiver =>
    cases receiver with
    | some o => cases h
    | none => exact isConversion_toHost h
  | convert => exact isConversion_toHost h
  | variadic =>
    rw [valueFor, gather] at h
    split at h
    · cases h
    · obtain ⟨k, item, -, hitem, -⟩ := exists_error_of_mapM (error_of_map_eq_error h)
      exact isConversion_toHost hitem

end

end Session

/-! ## Verdicts -/

namespace Method

/-- A declared parameter stands behind the type slots, with its binding. -/
theorem getElem?_zipIdx_routes (m : Method) (k : Nat) :
    m.routes.zipIdx[k]? = (m.parameters[m.genericCount + k]?).map fun p =>
      ((p, m.bindingAt (m.genericCount + k) p), k) := by
  rw [List.getElem?_zipIdx, routes, List.getElem?_drop, m.zip_plan, List.getElem?_mapIdx,
    Option.map_map, Nat.zero_add]
  rfl

theorem Valid.genericCount_le {m : Method} (h : m.Valid) :
    m.genericCount ≤ m.parameters.length := by
  obtain ⟨d, m, returns, hbuild, rfl⟩ := h.exists_build
  show m.genericCount ≤ m.parameters.length
  rw [Declaration.genericCount_of_build hbuild, Declaration.parameters_of_build hbuild,
    List.length_append, Declaration.length_typeSlots]
  exact Nat.le_add_right _ _

theorem Valid.argumentsBefore_typeSlot {m : Method} (h : m.Valid) (hasReceiver : Bool) {i : Nat}
    (hi : i ≤ m.genericCount) : m.argumentsBefore hasReceiver i = i := by
  obtain ⟨d, m, returns, hbuild, rfl⟩ := h.exists_build
  exact Declaration.argumentsBefore_typeSlot hbuild hasReceiver
    (Declaration.genericCount_of_build hbuild ▸ hi)

theorem argumentsBefore_mono (m : Method) (hasReceiver : Bool) {i j : Nat} (h : i ≤ j) :
    m.argumentsBefore hasReceiver i ≤ m.argumentsBefore hasReceiver j :=
  (List.take_sublist_take_left h).countP_le

theorem genericCount_le_of_variadic {m : Method} {i : Nat} {p : Parameter}
    (h : m.bindingAt i p = .variadic) : m.genericCount ≤ i := by
  refine Nat.le_of_not_lt fun hi => ?_
  rw [bindingAt, if_pos hi] at h
  cases h

/-- The type slots take their arguments before any declared parameter. -/
theorem Valid.offset_add_le {m : Method} (h : m.Valid) {offset i : Nat} {hasReceiver : Bool}
    (hi : m.genericCount ≤ i) :
    offset + m.genericCount ≤ offset + m.argumentsBefore hasReceiver i := by
  have hmono := m.argumentsBefore_mono hasReceiver hi
  rw [h.argumentsBefore_typeSlot hasReceiver (Nat.le_refl _)] at hmono
  omega

/-- No parameter stands behind a variadic one. -/
theorem Valid.bindingAt_ne_variadic {m : Method} (h : m.Valid) {i j : Nat} {p q : Parameter}
    (hp : m.parameters[i]? = some p) (hq : m.parameters[j]? = some q) (hji : j < i) :
    m.bindingAt j q ≠ .variadic := by
  obtain ⟨d, m, returns, hbuild, rfl⟩ := h.exists_build
  intro hvariadic
  refine Declaration.not_variadic_before hbuild hp (List.mem_of_getElem? (i := j) ?_)
  rw [List.getElem?_take_of_lt hji, plan, List.getElem?_mapIdx, hq]
  exact congrArg some hvariadic

end Method

/-- The types that the first arguments stand for. -/
def Arguments.typeArguments (a : Arguments) (count : Nat) : List HostType :=
  (List.range' a.offset count).filterMap fun i => (a.get i).typeArgument?

namespace Session

theorem typesFor_ok {m : Method} {a : Arguments} {types : List HostType}
    (h : typesFor m a = .ok types) : types = a.typeArguments m.genericCount := by
  have htypes := mapM_eq_ok_iff.mp h
  clear h
  unfold Arguments.typeArguments
  generalize List.range' a.offset m.genericCount = positions at htypes ⊢
  induction htypes with
  | nil => rfl
  | @cons i t _ _ ht _ ih =>
    have hsome : (a.get i).typeArgument? = some t := by
      unfold typeFor at ht
      cases hi : (a.get i).typeArgument? with
      | none =>
        rw [hi] at ht
        cases ht
      | some t' =>
        rw [hi] at ht
        exact congrArg some (Except.ok.inj ht)
    rw [List.filterMap_cons, hsome, ← ih]

/-- **The verdict on a parameter** by itself: whether a type slot gets a type, and whether a
declared parameter gets a value with the types that the first arguments stand for. -/
def verdict (s : Session) (m : Method) (receiver : Option Object) (a : Arguments) (i : Nat)
    (p : Parameter) : Except ScriptError Unit :=
  let position := a.offset + m.argumentsBefore receiver.isSome i
  if i < m.genericCount then (typeFor m a position).map fun _ => ()
  else
    (valueFor s.toHost m receiver a (a.typeArguments m.genericCount) position p
      (m.bindingAt i p)).map fun _ => ()

/-- The first parameter that fails by itself, and its error. -/
structure FirstFails (s : Session) (m : Method) (receiver : Option Object) (a : Arguments) (i : Nat)
    (p : Parameter) (e : ScriptError) : Prop where
  parameter : m.parameters[i]? = some p
  fails : s.verdict m receiver a i p = .error e
  before : ∀ j q, j < i → m.parameters[j]? = some q → s.verdict m receiver a j q = .ok ()

section

variable {s : Session} {m : Method} {receiver : Option Object} {a : Arguments}

theorem FirstFails.error_unique {i j : Nat} {p q : Parameter} {e e' : ScriptError}
    (h : s.FirstFails m receiver a i p e) (h' : s.FirstFails m receiver a j q e') : e = e' := by
  rcases Nat.lt_trichotomy i j with hlt | rfl | hlt
  · have hok := h'.before i p hlt h.parameter
    rw [h.fails] at hok
    cases hok
  · obtain rfl : p = q := Option.some.inj (h.parameter.symm.trans h'.parameter)
    exact Except.error.inj (h.fails.symm.trans h'.fails)
  · have hok := h.before j q hlt h'.parameter
    rw [h'.fails] at hok
    cases hok

theorem verdict_typeSlot (hvalid : m.Valid) {i : Nat} (hi : i < m.genericCount) (p : Parameter) :
    s.verdict m receiver a i p = (typeFor m a (a.offset + i)).map fun _ => () := by
  unfold verdict
  rw [if_pos hi, hvalid.argumentsBefore_typeSlot receiver.isSome (Nat.le_of_lt hi)]

theorem verdict_declared (k : Nat) (p : Parameter) :
    s.verdict m receiver a (m.genericCount + k) p =
      (valueFor s.toHost m receiver a (a.typeArguments m.genericCount)
        (a.offset + m.argumentsBefore receiver.isSome (m.genericCount + k)) p
        (m.bindingAt (m.genericCount + k) p)).map fun _ => () := by
  unfold verdict
  rw [if_neg (Nat.not_lt_of_le (Nat.le_add_right _ k))]

theorem typeFor_of_typesFor {types : List HostType} (h : typesFor m a = .ok types) {i : Nat}
    (hi : i < m.genericCount) : ∃ t, typeFor m a (a.offset + i) = .ok t := by
  obtain ⟨t, -, ht⟩ := exists_mem_of_forall₂ (mapM_eq_ok_iff.mp h)
    (List.mem_range'_1.mpr ⟨Nat.le_add_right a.offset i, Nat.add_lt_add_left hi _⟩)
  exact ⟨t, ht⟩

/-- A type slot gets a type if all of them do. -/
theorem verdict_of_typesFor (hvalid : m.Valid) {types : List HostType}
    (h : typesFor m a = .ok types) {i : Nat} (hi : i < m.genericCount) (p : Parameter) :
    s.verdict m receiver a i p = .ok () := by
  obtain ⟨t, ht⟩ := typeFor_of_typesFor h hi
  rw [verdict_typeSlot hvalid hi, ht]
  rfl

/-- Binding succeeds only if every parameter gets what it needs. -/
theorem verdict_of_bindPlainly (hvalid : m.Valid) {call : HostCall}
    (h : bindPlainly s.toHost m receiver a = .ok call) {i : Nat} {p : Parameter}
    (hp : m.parameters[i]? = some p) : s.verdict m receiver a i p = .ok () := by
  obtain ⟨htypes, hvalues⟩ := of_bindPlainly_eq_ok s.toHost h
  rcases Nat.lt_or_ge i m.genericCount with hslot | hdeclared
  · exact verdict_of_typesFor hvalid htypes hslot p
  · obtain ⟨k, rfl⟩ := Nat.exists_eq_add_of_le hdeclared
    have hroute : m.routes.zipIdx[k]? = some ((p, m.bindingAt (m.genericCount + k) p), k) := by
      rw [m.getElem?_zipIdx_routes, hp]
      rfl
    obtain ⟨value, -, hvalue⟩ :=
      exists_mem_of_forall₂ (mapM_eq_ok_iff.mp hvalues) (List.mem_of_getElem? hroute)
    rw [verdict_declared, ← typesFor_ok htypes, hvalue]
    rfl

/-- Binding fails with the error of the first parameter that gets nothing. -/
theorem firstFails_of_bindPlainly (hvalid : m.Valid) {e : ScriptError}
    (h : bindPlainly s.toHost m receiver a = .error e) :
    ∃ i p, s.FirstFails m receiver a i p e := by
  obtain ⟨e', herror, he⟩ | ⟨types, htypes, ⟨e', herror, he⟩ | ⟨values, call, -, hok, -⟩⟩ :=
    bindPlainly_cases s.toHost m receiver a
  · -- A type slot gets no type.
    obtain rfl : e' = e := Except.error.inj (he.symm.trans h)
    obtain ⟨k, position, hk, hfails, hbefore⟩ := exists_error_of_mapM herror
    obtain ⟨hlt, hposition⟩ := List.getElem?_eq_some_iff.mp hk
    rw [List.getElem_range', Nat.one_mul] at hposition
    rw [List.length_range'] at hlt
    subst hposition
    have hp := List.getElem?_eq_getElem (Nat.lt_of_lt_of_le hlt hvalid.genericCount_le)
    refine ⟨k, _, hp, ?_, fun j q hj hq => ?_⟩
    · rw [verdict_typeSlot hvalid hlt, hfails]
      rfl
    · have hjlt := Nat.lt_trans hj hlt
      obtain ⟨t, ht⟩ := hbefore j (a.offset + j) hj (by
        rw [List.getElem?_range' hjlt, Nat.one_mul])
      rw [verdict_typeSlot hvalid hjlt, ht]
      rfl
  · -- All type slots get their types, and a declared parameter gets no value.
    obtain rfl : e' = e := Except.error.inj (he.symm.trans h)
    have htypeArgs := typesFor_ok htypes
    obtain ⟨k, ⟨⟨p, b⟩, n⟩, hk, hfails, hbefore⟩ := exists_error_of_mapM herror
    rw [m.getElem?_zipIdx_routes] at hk
    obtain ⟨p', hp, heq⟩ := Option.map_eq_some_iff.mp hk
    obtain ⟨⟨rfl, rfl⟩, rfl⟩ : (p' = p ∧ m.bindingAt (m.genericCount + k) p' = b) ∧ k = n := by
      simpa using heq
    refine ⟨m.genericCount + k, p', hp, ?_, fun j q hj hq => ?_⟩
    · rw [verdict_declared, ← htypeArgs, hfails]
      rfl
    · rcases Nat.lt_or_ge j m.genericCount with hslot | hdeclared
      · exact verdict_of_typesFor hvalid htypes hslot q
      · obtain ⟨l, rfl⟩ := Nat.exists_eq_add_of_le hdeclared
        obtain ⟨value, hvalue⟩ := hbefore l ((q, m.bindingAt (m.genericCount + l) q), l)
          (Nat.lt_of_add_lt_add_left hj) (by rw [m.getElem?_zipIdx_routes, hq]; rfl)
        rw [verdict_declared, ← htypeArgs, hvalue]
        rfl
  · rw [h] at hok
    cases hok

/-- Binding fails exactly with the error of the first parameter that gets nothing. -/
theorem bind_eq_error_iff (hvalid : m.Valid) {e : ScriptError} :
    s.bind m m.plan receiver a = .error e ↔ ∃ i p, s.FirstFails m receiver a i p e := by
  rw [bind_eq_bindPlainly hvalid]
  refine ⟨firstFails_of_bindPlainly hvalid, ?_⟩
  rintro ⟨i, p, hfirst⟩
  cases hbind : bindPlainly s.toHost m receiver a with
  | ok call =>
    have hok := verdict_of_bindPlainly hvalid hbind hfirst.parameter
    rw [hfirst.fails] at hok
    cases hok
  | error e' =>
    obtain ⟨j, q, hfirst'⟩ := firstFails_of_bindPlainly hvalid hbind
    rw [hfirst'.error_unique hfirst]

/-- What a parameter fails with: a type slot because its argument stands for no type, a declared
parameter because a conversion fails. -/
theorem verdict_error_cases (hvalid : m.Valid) {i : Nat} {p : Parameter} {e : ScriptError}
    (h : s.verdict m receiver a i p = .error e) :
    i < m.genericCount ∧ a.LacksType (a.offset + i) ∧ e = .genericBinding m.name ∨
      e.isConversion = true := by
  by_cases hi : i < m.genericCount
  · rw [verdict_typeSlot hvalid hi] at h
    exact Or.inl ⟨hi, typeFor_eq_error_iff.mp (error_of_map_eq_error h)⟩
  · unfold verdict at h
    rw [if_neg hi] at h
    exact Or.inr (isConversion_valueFor (error_of_map_eq_error h))

/-- A call with a type slot whose argument stands for no type does not get further. -/
theorem bind_of_lacksType (hvalid : m.Valid) {i : Nat} (hi : i < m.genericCount)
    (hlacks : a.LacksType (a.offset + i)) :
    s.bind m m.plan receiver a = .error (.genericBinding m.name) := by
  rw [bind_eq_bindPlainly hvalid]
  obtain ⟨e, herror, he⟩ | ⟨types, htypes, -⟩ := bindPlainly_cases s.toHost m receiver a
  · obtain ⟨k, position, -, hfails, -⟩ := exists_error_of_mapM herror
    obtain ⟨-, rfl⟩ := typeFor_eq_error_iff.mp hfails
    exact he
  · obtain ⟨t, ht⟩ := typeFor_of_typesFor htypes hi
    rw [typeFor_eq_error_iff.mpr ⟨hlacks, rfl⟩] at ht
    cases ht

end

/-! ## What a verdict depends on -/

end Session

theorem Arguments.getElem?_zipIdx_drop (a : Arguments) (position k : Nat) :
    ((a.values.drop position).zipIdx position)[k]? =
      (a.raw? (position + k)).map (·, position + k) := by
  rw [List.getElem?_zipIdx, List.getElem?_drop]
  rfl

namespace Arguments.AgreesUpTo

variable {a a' : Arguments} {n : Nat}

theorem mono (h : a.AgreesUpTo a' n) {k : Nat} (hk : k ≤ n) : a.AgreesUpTo a' k :=
  ⟨h.1, fun i hi => h.2 i (Nat.le_trans hi hk)⟩

theorem offset_eq (h : a.AgreesUpTo a' n) : a'.offset = a.offset := by
  unfold Arguments.offset
  rw [h.1]

theorem get_eq (h : a.AgreesUpTo a' n) {k : Nat} (hk : k ≤ n) : a'.get k = a.get k := by
  unfold Arguments.get
  rw [h.2 k hk]

theorem typeArguments_eq (h : a.AgreesUpTo a' n) {count : Nat} (hcount : a.offset + count ≤ n) :
    a'.typeArguments count = a.typeArguments count := by
  unfold Arguments.typeArguments
  rw [h.offset_eq]
  refine List.filterMap_congr fun k hk => ?_
  obtain ⟨-, hlt⟩ := List.mem_range'_1.mp hk
  rw [h.get_eq (Nat.le_trans (Nat.le_of_lt hlt) hcount)]

end Arguments.AgreesUpTo

/-- The type of the items that a variadic parameter takes. -/
def Method.itemType (m : Method) (a : Arguments) (p : Parameter) : ParamType :=
  (p.type.substitute (a.typeArguments m.genericCount)).elementType

namespace Session

section

variable {s : Session} {m : Method} {receiver : Option Object} {a a' : Arguments} {i : Nat}
  {p : Parameter} {e : ScriptError}

/-- **A verdict depends** on the arguments up to the parameter's own, unless the parameter takes all
that are left. -/
theorem verdict_congr (hvalid : m.Valid) (hvariadic : m.bindingAt i p ≠ .variadic)
    (hagree : a.AgreesUpTo a' (a.offset + m.argumentsBefore receiver.isSome i)) :
    s.verdict m receiver a' i p = s.verdict m receiver a i p := by
  have hown := hagree.2 _ (Nat.le_refl _)
  unfold verdict
  rw [hagree.offset_eq]
  by_cases hi : i < m.genericCount
  · rw [if_pos hi, if_pos hi]
    unfold typeFor
    rw [hagree.get_eq (Nat.le_refl _)]
  · rw [if_neg hi, if_neg hi,
      hagree.typeArguments_eq (hvalid.offset_add_le (Nat.le_of_not_lt hi))]
    cases hb : m.bindingAt i p with
    | variadic => exact absurd hb hvariadic
    | typeSlot | script | context | arguments | out => rfl
    | extensionReceiver =>
      cases receiver with
      | some o => rfl
      | none => rw [valueFor, valueFor, valueFor.argument, valueFor.argument, hown]
    | convert => rw [valueFor, valueFor, valueFor.argument, valueFor.argument, hown]

/-- A variadic parameter is judged by all arguments that are left. -/
theorem verdict_variadic (hb : m.bindingAt i p = .variadic) :
    s.verdict m receiver a i p =
      (gather s.toHost m.name (m.itemType a p) (a.offset + m.argumentsBefore receiver.isSome i)
        (a.values.drop (a.offset + m.argumentsBefore receiver.isSome i))).map fun _ => () := by
  unfold verdict
  rw [if_neg (Nat.not_lt_of_le (Method.genericCount_le_of_variadic hb)), hb]
  rfl

/-- The argument that decides about a parameter that fails: its own, or the first item that a
variadic parameter cannot take. -/
inductive DecidedAt (s : Session) (m : Method) (receiver : Option Object) (a : Arguments) (i : Nat)
    (p : Parameter) (e : ScriptError) : Nat → Prop
  | own (h : m.bindingAt i p ≠ .variadic) :
      DecidedAt s m receiver a i p e (a.offset + m.argumentsBefore receiver.isSome i)
  | item {k : Nat} {v : Value} (h : m.bindingAt i p = .variadic)
      (hv : a.raw? (a.offset + m.argumentsBefore receiver.isSome i + k) = some v)
      (herror : s.toHost v (m.itemType a p) none
        ⟨m.name, a.offset + m.argumentsBefore receiver.isSome i + k + 1⟩ = .error e) :
      DecidedAt s m receiver a i p e (a.offset + m.argumentsBefore receiver.isSome i + k)

theorem DecidedAt.le {last : Nat} (h : s.DecidedAt m receiver a i p e last) :
    a.offset + m.argumentsBefore receiver.isSome i ≤ last := by
  cases h with
  | own => exact Nat.le_refl _
  | item => exact Nat.le_add_right _ _

/-- **One argument decides** about a parameter that fails: whatever is passed behind it, the
parameter fails in the same way, unless it now gets one array that it takes as it is. -/
theorem exists_decidedAt (hvalid : m.Valid) (hfails : s.verdict m receiver a i p = .error e) :
    ∃ last, s.DecidedAt m receiver a i p e last ∧ ∀ a', a.AgreesUpTo a' last →
      (m.bindingAt i p = .variadic → loneArray? (m.itemType a' p)
        (a'.values.drop (a.offset + m.argumentsBefore receiver.isSome i)) = none) →
      s.verdict m receiver a' i p = .error e := by
  by_cases hb : m.bindingAt i p = .variadic
  · rw [verdict_variadic hb] at hfails
    have hgather := error_of_map_eq_error hfails
    unfold gather at hgather
    split at hgather
    · cases hgather
    obtain ⟨k, ⟨v, n⟩, hitem, herror, hbefore⟩ :=
      exists_error_of_mapM (error_of_map_eq_error hgather)
    rw [a.getElem?_zipIdx_drop] at hitem
    obtain ⟨v', hv, heq⟩ := Option.map_eq_some_iff.mp hitem
    obtain ⟨rfl, rfl⟩ := Prod.mk.inj heq
    refine ⟨_, .item hb hv herror, fun a' hagree hlone => ?_⟩
    have htypes : m.itemType a' p = m.itemType a p := by
      unfold Method.itemType
      rw [hagree.typeArguments_eq (Nat.le_trans
        (hvalid.offset_add_le (Method.genericCount_le_of_variadic hb)) (Nat.le_add_right _ k))]
    have hnone := hlone hb
    rw [verdict_variadic hb, hagree.offset_eq]
    unfold gather
    rw [hnone, htypes]
    -- The items before the one that decides are the same, and each of them is taken.
    rw [mapM_eq_error (k := k) (x := (v', _)) ?_ herror fun j w hj hw => ?_]
    · rfl
    · rw [a'.getElem?_zipIdx_drop, hagree.2 _ (Nat.le_refl _), hv]
      rfl
    · rw [a'.getElem?_zipIdx_drop, hagree.2 _ (by omega), ← a.getElem?_zipIdx_drop] at hw
      exact hbefore j w hj hw
  · refine ⟨_, .own hb, fun a' hagree _ => ?_⟩
    rw [verdict_congr hvalid hb hagree]
    exact hfails

/-- **The first failure** stays the same with other arguments behind the one that decides. -/
theorem FirstFails.exists_decidedAt (hvalid : m.Valid) (h : s.FirstFails m receiver a i p e) :
    ∃ last, s.DecidedAt m receiver a i p e last ∧ ∀ a', a.AgreesUpTo a' last →
      (m.bindingAt i p = .variadic → loneArray? (m.itemType a' p)
        (a'.values.drop (a.offset + m.argumentsBefore receiver.isSome i)) = none) →
      s.FirstFails m receiver a' i p e := by
  obtain ⟨last, hdecided, hfails⟩ := Session.exists_decidedAt hvalid h.fails
  refine ⟨last, hdecided, fun a' hagree hlone => ⟨h.parameter, hfails a' hagree hlone, ?_⟩⟩
  intro j q hj hq
  have hbefore := m.argumentsBefore_mono receiver.isSome (Nat.le_of_lt hj)
  have hle := hdecided.le
  rw [verdict_congr hvalid (hvalid.bindingAt_ne_variadic h.parameter hq hj)
    (hagree.mono (by omega))]
  exact h.before j q hj hq

end

/-! ## Calls that fail -/

/-- **Binding is all or nothing.** A call of a method either comes to one run of the host code, or
ends before it with the error of the first parameter that gets nothing by itself, in declared order
and with the type slots first. A type slot fails if its argument was not passed or comes down to nil
or a request, and then the error names the method. One argument decides about the first failure, and
whatever is passed behind it changes nothing, unless a variadic parameter then gets one array that
it takes as it is. A failure of the host code ends the call: an error of a script as it is, any
other failure as one of this method. Binding never ends with an error of the latter kind. -/
theorem binding_all_or_nothing {m : Method} (hvalid : m.Valid) {s : Session} {id : MethodId}
    {slot : MethodSlot} (hslot : s.method? id = some slot) (hmethod : slot.method = m)
    (receiver : Option Object) (a : Arguments) :
    ((∃ call, s.ComesTo id receiver a m call) ↔
      ¬ ∃ i p e, s.FirstFails m receiver a i p e) ∧
    (∀ e, s.FailsToBind id receiver a e ↔ ∃ i p, s.FirstFails m receiver a i p e) ∧
    (s.FailsToBind id receiver a (.genericBinding m.name) ↔
      ∃ i < m.genericCount, a.LacksType (a.offset + i)) ∧
    (∀ i p e, s.FirstFails m receiver a i p e →
      ∃ last, s.DecidedAt m receiver a i p e last ∧ ∀ a', a.AgreesUpTo a' last →
        (m.bindingAt i p = .variadic → loneArray? (m.itemType a' p)
          (a'.values.drop (a.offset + m.argumentsBefore receiver.isSome i)) = none) →
        s.FailsToBind id receiver a' e) ∧
    (∀ method cause, ¬ s.FailsToBind id receiver a (.hostInvocation method cause)) ∧
    ∀ call, s.ComesTo id receiver a m call → ∃ t, ∀ host,
      (execute host id receiver a).exec s = (host m call >>= concluded m).exec t ∧
      (∀ e u, (host m call).exec t = (.error (.error e), u) →
        (execute host id receiver a).exec s = (.error (.error e), u)) ∧
      ∀ message u, (host m call).exec t = (.ok (.failed message), u) →
        (execute host id receiver a).exec s =
          (.error (.error (.hostInvocation m.name (.text message))), u) := by
  subst hmethod
  have hfails (a : Arguments) (e : ScriptError) : s.FailsToBind id receiver a e ↔
      ∃ i p, s.FirstFails slot.method receiver a i p e :=
    (failsToBind_iff_bind hslot).trans (bind_eq_error_iff hvalid)
  refine ⟨⟨?_, ?_⟩, hfails a, ⟨?_, ?_⟩, ?_, ?_, ?_⟩
  · rintro ⟨call, hcall⟩ ⟨i, p, e, hfirst⟩
    have hok := (comesTo_iff_bind hslot).mp hcall
    rw [(bind_eq_error_iff hvalid).mpr ⟨i, p, hfirst⟩] at hok
    cases hok
  · intro hnone
    cases hbind : s.bind slot.method slot.method.plan receiver a with
    | ok call => exact ⟨call, (comesTo_iff_bind hslot).mpr hbind⟩
    | error e =>
      obtain ⟨i, p, hfirst⟩ := (bind_eq_error_iff hvalid).mp hbind
      exact absurd ⟨i, p, e, hfirst⟩ hnone
  · intro h
    obtain ⟨i, p, hfirst⟩ := (hfails a _).mp h
    obtain ⟨hi, hlacks, -⟩ | hconversion := verdict_error_cases hvalid hfirst.fails
    · exact ⟨i, hi, hlacks⟩
    · cases hconversion
  · rintro ⟨i, hi, hlacks⟩
    exact (failsToBind_iff_bind hslot).mpr (bind_of_lacksType hvalid hi hlacks)
  · intro i p e hfirst
    obtain ⟨last, hdecided, hlater⟩ := hfirst.exists_decidedAt hvalid
    refine ⟨last, hdecided, fun a' hagree hlone => ?_⟩
    exact (hfails a' e).mpr ⟨i, p, hlater a' hagree hlone⟩
  · intro method cause h
    obtain ⟨i, p, hfirst⟩ := (hfails a _).mp h
    obtain ⟨-, -, herror⟩ | hconversion := verdict_error_cases hvalid hfirst.fails
    · cases herror
    · cases hconversion
  · rintro call ⟨t, hexec⟩
    refine ⟨t, fun host => ⟨hexec host, fun e u he => ?_, fun message u hmessage => ?_⟩⟩
    · rw [hexec, Action.exec_bind_of_error he]
    · rw [hexec, Action.exec_bind_of_ok hmessage]
      rfl

/-- A generic method gets a type, a boolean for its number and a number for its table: the number is
refused, with and without the argument behind it. -/
theorem binding_all_or_nothing_at_first_of_two :
    ∃ (d : Declaration) (m : Method) (s : Session) (x : Parameter) (a a' : Arguments)
      (e : ScriptError),
      d.genericCount = 1 ∧ d.parameters = [x, { name := "y", type := .table }] ∧
      x = { name := "x", type := .number } ∧ d.build = .ok m ∧
      s.method? ⟨0⟩ = some (.fresh m) ∧ a = ⟨[.string "t", .bool true, .number 1], false⟩ ∧
      a' = ⟨[.string "t", .bool true], false⟩ ∧ e = .badType 2 "f" "number" (.bool true) ∧
      s.FirstFails m none a 1 x e ∧ s.FailsToBind ⟨0⟩ none a e ∧ s.FailsToBind ⟨0⟩ none a' e ∧
      ¬ ∃ call, s.ComesTo ⟨0⟩ none a m call := by
  let x : Parameter := { name := "x", type := .number }
  let d : Declaration :=
    { name := "f"
      isStatic := true
      genericCount := 1
      parameters := [x, { name := "y", type := .table }]
      code := .body (.value .void) }
  obtain ⟨m, hbuild⟩ : ∃ m, d.build = .ok m := ⟨_, rfl⟩
  let s : Session := { bare 1 with methods := #[.fresh m] }
  let a : Arguments := ⟨[.string "t", .bool true, .number 1], false⟩
  let a' : Arguments := ⟨[.string "t", .bool true], false⟩
  let e : ScriptError := .badType 2 "f" "number" (.bool true)
  have hslot : s.method? ⟨0⟩ = some (.fresh m) := rfl
  have hfirst : s.FirstFails m none a 1 x e := by
    obtain rfl := Except.ok.inj hbuild
    refine ⟨rfl, rfl, fun j q hj hq => ?_⟩
    obtain rfl : j = 0 := by omega
    obtain rfl := Option.some.inj hq
    rfl
  have hvariadic : m.bindingAt 1 x ≠ .variadic := by
    obtain rfl := Except.ok.inj hbuild
    decide
  obtain ⟨hcomes, hfails, -, hlater, -⟩ :=
    binding_all_or_nothing (.built hbuild) hslot rfl none a
  obtain ⟨last, hdecided, hagreeing⟩ := hlater 1 x e hfirst
  have hagree : a.AgreesUpTo a' last := by
    cases hdecided with
    | item hb => exact absurd hb hvariadic
    | own =>
      obtain rfl := Except.ok.inj hbuild
      refine ⟨rfl, fun i hi => ?_⟩
      have hle : i ≤ 1 := hi
      obtain rfl | rfl : i = 0 ∨ i = 1 := by omega
      · rfl
      · rfl
  exact ⟨d, m, s, x, a, a', e, rfl, rfl, rfl, hbuild, hslot, rfl, rfl, rfl, hfirst,
    (hfails e).mpr ⟨1, x, hfirst⟩, hagreeing a' hagree fun hb => absurd hb hvariadic,
    fun hcall => hcomes.mp hcall ⟨1, x, e, hfirst⟩⟩

end Session

end ScriptHost
