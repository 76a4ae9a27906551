import ScriptHost.Proofs.Routing

/-!
# Arguments that were not passed

Which overload a call runs is decided by counting its arguments, before any of them is looked at;
binding then goes through the same parameters with a cursor of its own. A call whose number of
arguments is accepted may still have fewer than the method has parameters. The parameters that are
left without an argument then have a default or a type that takes nil, as far as the count can tell:
what a type argument will stand for it cannot know, and it does not look behind a parameter that
takes all arguments as they are.

## Main definitions

* `Method.Counts`: the count reaches a parameter.
* `Session.FailsToBind`: a call of a method ends before the host code.
* `Session.StopsAt`: the parameter at which binding stops, and the argument its error is about.

## Main results

* `Method.acceptsFrom_spec`: what the count tells about the parameters it reaches.
* `Session.stopsAt_of_bind`: binding fails at a parameter.
* `Session.missing_arguments_taken`: a parameter that is left without an argument takes nil, and
  errors are about arguments that were passed.
* `Session.missing_arguments_refused`: a type argument that takes no nil, and a parameter behind one
  that takes all arguments.
-/

namespace ScriptHost

/-! ## What takes nil -/

namespace Session

theorem toHost_nil_of_default (s : Session) (type : ParamType) (d : HostValue) (site : Site) :
    ∃ h, s.toHost .nil type (some d) site = .ok h := by
  cases hcustom : s.customToHost? type Value.nil with
  | some h => exact ⟨h, toHost_of_custom hcustom⟩
  | none => exact ⟨d, toHost_of_default hcustom rfl⟩

/-- A type that takes nil still does with its type arguments in place, unless it is a type
argument itself. -/
theorem toHost_nil_of_acceptsNil (s : Session) {type : ParamType} (h : type.acceptsNil = true) :
    (∃ k, type = .generic k) ∨
      ∀ typeArgs site, ∃ value, s.toHost .nil (type.substitute typeArgs) none site = .ok value := by
  by_cases hgeneric : ∃ k, type = .generic k
  · exact Or.inl hgeneric
  right
  intro typeArgs site
  cases hcustom : s.customToHost? (type.substitute typeArgs) Value.nil with
  | some value => exact ⟨value, toHost_of_custom hcustom⟩
  | none =>
    rw [toHost_of_standard hcustom fun _ => rfl]
    cases type with
    | generic k => exact absurd ⟨k, rfl⟩ hgeneric
    | bool | object | any | dynamic | nullable => exact ⟨_, rfl⟩
    | number | string | primitive | table | function | typeToken | array | script | context
    | arguments | pointer => cases h

end Session

/-! ## The count -/

namespace Method

/-- **The count reaches a parameter**: none before it takes all arguments as they are. -/
def Counts (m : Method) (i : Nat) : Prop := Binding.arguments ∉ m.plan.take i

instance (m : Method) (i : Nat) : Decidable (m.Counts i) :=
  inferInstanceAs (Decidable (Binding.arguments ∉ m.plan.take i))

/-- One parameter is counted: what is usable grows with it if it takes an argument, and what is
required comes up to that unless the argument may be missing. -/
theorem acceptsFrom_cons {argc required usable : Nat} {hasReceiver : Bool} {p : Parameter}
    {b : Binding} {rest : List (Parameter × Binding)} (hle : required ≤ usable)
    (harguments : b ≠ .arguments) (hvariadic : b ≠ .variadic) :
    ∃ required', required ≤ required' ∧
      required' ≤ usable + (if b.takesArgument hasReceiver then 1 else 0) ∧
      (b.takesArgument hasReceiver = true →
        (b = .convert ∧ (p.default.isSome = true ∨ p.type.acceptsNil = true)) ∨
          required' = usable + 1) ∧
      acceptsFrom argc hasReceiver required usable ((p, b) :: rest) =
        acceptsFrom argc hasReceiver required'
          (usable + if b.takesArgument hasReceiver then 1 else 0) rest := by
  have hnext : required ≤ usable + 1 := Nat.le_succ_of_le hle
  cases b with
  | arguments => exact absurd rfl harguments
  | variadic => exact absurd rfl hvariadic
  | typeSlot => exact ⟨usable + 1, hnext, Nat.le_refl _, fun _ => Or.inr rfl, rfl⟩
  | script | context | out =>
    exact ⟨required, Nat.le_refl _, hle, fun htakes => absurd htakes Bool.false_ne_true, rfl⟩
  | extensionReceiver =>
    cases hasReceiver with
    | true =>
      exact ⟨required, Nat.le_refl _, hle, fun htakes => absurd htakes Bool.false_ne_true, rfl⟩
    | false => exact ⟨usable + 1, hnext, Nat.le_refl _, fun _ => Or.inr rfl, rfl⟩
  | convert =>
    rw [acceptsFrom]
    by_cases hneeded : (p.default.isNone && !p.type.acceptsNil) = true
    · rw [if_pos hneeded]
      exact ⟨usable + 1, hnext, Nat.le_refl _, fun _ => Or.inr rfl, rfl⟩
    · rw [if_neg hneeded]
      refine ⟨required, Nat.le_refl _, hnext, fun _ => Or.inl ⟨rfl, ?_⟩, rfl⟩
      cases hdefault : p.default with
      | some d => exact Or.inl rfl
      | none => exact Or.inr (by simpa [hdefault] using hneeded)

/-- What the count tells: a parameter that would take an argument beyond the last one is
converted, and has a default or a type that takes nil. -/
theorem acceptsFrom_spec {argc required usable : Nat} {hasReceiver : Bool}
    {rest : List (Parameter × Binding)} (hle : required ≤ usable)
    (h : acceptsFrom argc hasReceiver required usable rest = true) :
    required ≤ argc ∧ ∀ i p b, rest[i]? = some (p, b) →
      (∀ q ∈ rest.take i, q.2 ≠ .arguments ∧ q.2 ≠ .variadic) →
      b.takesArgument hasReceiver = true →
      argc ≤ usable + ((rest.take i).map (·.2)).countP (·.takesArgument hasReceiver) →
      b = .convert ∧ (p.default.isSome = true ∨ p.type.acceptsNil = true) := by
  -- What is required stays within what is usable, and at the end it is within what was passed.
  induction rest generalizing required usable with
  | nil =>
    simp only [acceptsFrom, Bool.and_eq_true, decide_eq_true_eq] at h
    exact ⟨h.1, fun i p b hp => by simp at hp⟩
  | cons q rest ih =>
    obtain ⟨p, b⟩ := q
    by_cases hstop : b = .arguments ∨ b = .variadic
    · -- The count stops here, so it reaches nothing behind; and here no argument is taken.
      refine ⟨?_, fun i p' b' hp' hreached htakes _ => ?_⟩
      · rcases hstop with rfl | rfl <;> simpa [acceptsFrom] using h
      · cases i with
        | zero =>
          obtain ⟨rfl, rfl⟩ : p = p' ∧ b = b' := by simpa using hp'
          rcases hstop with rfl | rfl <;> cases htakes
        | succ i =>
          obtain ⟨harguments, hvariadic⟩ := hreached (p, b) (by simp)
          exact absurd hstop (not_or.mpr ⟨harguments, hvariadic⟩)
    · obtain ⟨harguments, hvariadic⟩ := not_or.mp hstop
      obtain ⟨required', hrequired, hle', hneeded, heq⟩ :=
        acceptsFrom_cons hle harguments hvariadic
      rw [heq] at h
      obtain ⟨hargc, hrest⟩ := ih hle' h
      refine ⟨Nat.le_trans hrequired hargc, fun i p' b' hp' hreached htakes hmissing => ?_⟩
      cases i with
      | zero =>
        obtain ⟨rfl, rfl⟩ : p = p' ∧ b = b' := by simpa using hp'
        refine (hneeded htakes).resolve_right fun hall => ?_
        simp only [List.take_zero, List.map_nil, List.countP_nil] at hmissing
        omega
      | succ i =>
        refine hrest i p' b' (by simpa using hp') (fun q hq => hreached q ?_) htakes ?_
        · exact List.mem_cons_of_mem _ hq
        · rw [List.take_succ_cons, List.map_cons, List.countP_cons] at hmissing
          dsimp only at hmissing
          omega

end Method

namespace Declaration

variable {d : Declaration} {m : Method}

/-- The type slots before a type slot use up one argument each. -/
theorem argumentsBefore_typeSlot (h : d.build = .ok m) (hasReceiver : Bool) {i : Nat}
    (hi : i ≤ d.genericCount) : m.argumentsBefore hasReceiver i = i := by
  unfold Method.argumentsBefore
  rw [plan_of_build h, List.take_append_of_le_length (by simpa using hi), List.take_replicate,
    List.countP_replicate, Nat.min_eq_left hi]
  rfl

/-- No parameter stands behind a variadic one. -/
theorem not_variadic_before (h : d.build = .ok m) {i : Nat} {p : Parameter}
    (hp : m.parameters[i]? = some p) : Binding.variadic ∉ m.plan.take i := by
  intro hmem
  obtain ⟨j, hplan⟩ := List.mem_iff_getElem?.mp hmem
  have hji : j < i := by
    obtain ⟨hj, -⟩ := List.getElem?_eq_some_iff.mp hplan
    rw [List.length_take] at hj
    omega
  rw [List.getElem?_take_of_lt hji, plan_of_build h] at hplan
  have hlength : i < d.genericCount + d.parameters.length := by
    obtain ⟨hi, -⟩ := List.getElem?_eq_some_iff.mp hp
    rwa [parameters_of_build h, List.length_append, length_typeSlots] at hi
  by_cases hslot : j < d.genericCount
  · rw [List.getElem?_append_left (by simpa using hslot), List.getElem?_replicate_of_lt hslot]
      at hplan
    cases hplan
  · rw [List.getElem?_append_right (by simpa using hslot), List.length_replicate,
      List.getElem?_map, Option.map_eq_some_iff] at hplan
    obtain ⟨⟨q, b⟩, hq, rfl⟩ := hplan
    obtain ⟨hlast, -⟩ := variadic_of_getElem?_routes h hq
    have hroutes : (d.routes m).length = d.parameters.length := by simp [routes]
    omega

/-- A parameter that is left without an argument by a call whose number of arguments is accepted
is converted, and has a default or a type that takes nil. -/
theorem takesNil_of_accepts (h : d.build = .ok m) {argc : Nat} {hasReceiver : Bool}
    (haccepts : m.accepts argc hasReceiver = true) {i : Nat} {p : Parameter}
    (hp : m.parameters[i]? = some p) (hcounts : m.Counts i)
    (htakes : (m.bindingAt i p).takesArgument hasReceiver = true)
    (hmissing : argc ≤ m.argumentsBefore hasReceiver i) :
    m.bindingAt i p = .convert ∧ (p.default.isSome = true ∨ p.type.acceptsNil = true) := by
  have hroute : (m.parameters.zip m.plan)[i]? = some (p, m.bindingAt i p) := by
    rw [m.zip_plan, List.getElem?_mapIdx, hp]
    rfl
  have htake : ((m.parameters.zip m.plan).take i).map (·.2) = m.plan.take i := by
    rw [List.map_take, List.map_snd_zip (by simp [Method.plan])]
  obtain ⟨-, hspec⟩ := Method.acceptsFrom_spec (Nat.le_refl 0) haccepts
  refine hspec i p _ hroute (fun q hq => ?_) htakes ?_
  · have hmem : q.2 ∈ m.plan.take i := htake ▸ List.mem_map_of_mem hq
    exact ⟨fun hq => hcounts (hq ▸ hmem), fun hq => not_variadic_before h hp (hq ▸ hmem)⟩
  · rwa [htake, Nat.zero_add]

end Declaration

namespace Session

/-! ## Where binding stops -/

/-- Where binding stops: a parameter is refused, with the type arguments that the first
arguments stand for, and the error is about the argument at a position. -/
def StopsAt (s : Session) (m : Method) (receiver : Option Object) (a : Arguments) (i : Nat)
    (p : Parameter) (argument : Nat) (e : ScriptError) : Prop :=
  m.parameters[i]? = some p ∧ ∃ typeArgs : List HostType,
    (∀ k t, typeArgs[k]? = some t → (a.get (a.offset + k)).typeArgument? = some t) ∧
    s.Refuses m receiver a typeArgs p (a.offset + m.argumentsBefore receiver.isSome i)
      (m.bindingAt i p) argument e

/-- **Binding fails at a parameter.** -/
theorem stopsAt_of_bind {s : Session} {d : Declaration} {m : Method} {receiver : Option Object}
    {a : Arguments} {e : ScriptError} (hbuild : d.build = .ok m)
    (h : s.bind m m.plan receiver a = .error e) :
    ∃ i p argument, s.StopsAt m receiver a i p argument e := by
  have hparameters := Declaration.parameters_of_build hbuild
  rw [bind_eq_map, Declaration.zip_plan_of_build hbuild] at h
  cases hfrom : s.bindFrom m receiver a a.offset [] []
      ((Declaration.typeSlots d.genericCount).map (·, .typeSlot) ++ d.routes m) with
  | ok r =>
    rw [hfrom] at h
    cases h
  | error e' =>
    rw [hfrom] at h
    obtain rfl : e' = e := Except.error.inj h
    obtain ⟨i, p, hp, hnone, herror⟩ | ⟨types, hcount, htypes, hrest⟩ :=
      bindFrom_typeSlots_cases hfrom
    · -- An argument in the place of a type stands for none.
      obtain rfl : e' = .genericBinding m.name := Except.error.inj herror
      obtain ⟨hi, -⟩ := List.getElem?_eq_some_iff.mp hp
      rw [Declaration.length_typeSlots] at hi
      have hbinding : m.bindingAt i p = .typeSlot := by
        rw [Method.bindingAt, Declaration.genericCount_of_build hbuild, if_pos hi]
      have hbefore := Declaration.argumentsBefore_typeSlot hbuild receiver.isSome (Nat.le_of_lt hi)
      refine ⟨i, p, a.offset + i, ?_, [], fun k t ht => by simp at ht, ?_⟩
      · rw [hparameters, List.getElem?_append_left (by rwa [Declaration.length_typeSlots])]
        exact hp
      · rw [hbinding, hbefore]
        exact .typeSlot hnone
    · rw [Declaration.length_typeSlots] at hcount hrest
      obtain ⟨values, -, ⟨-, hok⟩ | ⟨p, b, argument, e, hroute, hrefuses, herror⟩⟩ :=
        bindFrom_cases (fun q => Declaration.not_typeSlot_of_mem_routes hbuild)
          (fun i p => Declaration.variadic_of_getElem?_routes hbuild) hrest
      · cases hok
      · obtain rfl : e' = e := Except.error.inj herror
        obtain ⟨hp, hbinding⟩ := Declaration.getElem?_routes.mp hroute
        dsimp only at hp hbinding
        rw [List.nil_append, Nat.add_assoc, ← Declaration.argumentsBefore_of_build hbuild,
          hbinding] at hrefuses
        refine ⟨d.genericCount + values.length, p, argument, ?_, types, htypes, hrefuses⟩
        rw [hparameters, List.getElem?_append_right (by simp [Declaration.length_typeSlots]),
          Declaration.length_typeSlots, Nat.add_sub_cancel_left]
        exact hp

/-- A call of a method fails before the host code, whatever that is. -/
def FailsToBind (s : Session) (id : MethodId) (receiver : Option Object) (a : Arguments)
    (e : ScriptError) : Prop :=
  ∃ t, ∀ host, (execute host id receiver a).exec s = (.error (.error e), t)

/-- A call of a method fails before the host code if its arguments cannot be bound. -/
theorem failsToBind_iff_bind {s : Session} {id : MethodId} {slot : MethodSlot}
    (hslot : s.method? id = some slot) {receiver : Option Object} {a : Arguments}
    {e : ScriptError} :
    s.FailsToBind id receiver a e ↔
      s.bind slot.method slot.method.plan receiver a = .error e := by
  obtain ⟨t, -, -, hexec⟩ := exec_execute hslot receiver a
  constructor
  · rintro ⟨u, hu⟩
    -- Host code that never ends tells whether it was reached.
    have hfails := (hexec fun _ _ => throw .exhausted).symm.trans (hu _)
    cases hbind : s.bind slot.method slot.method.plan receiver a with
    | error e' =>
      rw [hbind] at hfails
      have herror := congrArg Prod.fst hfails
      simp only [Except.error.injEq, Interrupt.error.injEq] at herror
      rw [herror]
    | ok call =>
      rw [hbind] at hfails
      cases hfails
  · intro hbind
    rw [hbind] at hexec
    exact ⟨t, hexec⟩

/-- The positions of arguments that were not passed, with the receiver of a method call and without
it. -/
theorem count_le_iff {a : Arguments} {n : Nat} : a.count ≤ n ↔ a.length ≤ a.offset + n := by
  unfold Arguments.count Arguments.offset
  split <;> omega

/-- A parameter that may be left without an argument: it has a default, or it is declared as a
type argument, or it has a type that nil converts to with any type arguments in place. -/
def MayBeMissing (s : Session) (p : Parameter) : Prop :=
  p.default.isSome = true ∨ (∃ k, p.type = .generic k) ∨
    ∀ typeArgs site, ∃ h, s.toHost .nil (p.type.substitute typeArgs) none site = .ok h

/-- A parameter that may be left without an argument is not refused then, unless it is declared as a
type argument. -/
theorem MayBeMissing.convertArgument {s : Session} {p : Parameter} (h : s.MayBeMissing p)
    (hgeneric : ¬ ∃ k, p.type = .generic k) {m : Method} {a : Arguments} {position : Nat}
    (hbeyond : a.length ≤ position) (typeArgs : List HostType) :
    ∃ value, s.convertArgument m a position p typeArgs = .ok value := by
  have hraw : a.raw? position = none := List.getElem?_eq_none hbeyond
  unfold Session.convertArgument
  rw [hraw, Option.getD_none]
  rcases h with hdefault | hopen | hnil
  · obtain ⟨d, hd⟩ := Option.isSome_iff_exists.mp hdefault
    rw [hd]
    exact toHost_nil_of_default s _ d _
  · exact absurd hopen hgeneric
  · cases hdefault : p.default with
    | none => exact hnil typeArgs _
    | some d => exact toHost_nil_of_default s _ d _

/-- An error about an argument that was not passed is about a parameter that is declared as a
type argument, if every parameter that the count reaches and that is left without an argument may be
left so. -/
theorem StopsAt.isGeneric {s : Session} {m : Method} {receiver : Option Object} {a : Arguments}
    {i argument : Nat} {p : Parameter} {e : ScriptError}
    (h : s.StopsAt m receiver a i p argument e) (hbeyond : a.length ≤ argument)
    (hmissing : (m.bindingAt i p).takesArgument receiver.isSome = true →
      a.count ≤ m.argumentsBefore receiver.isSome i →
      m.bindingAt i p = .convert ∧ s.MayBeMissing p) :
    ∃ k, p.type = .generic k := by
  obtain ⟨-, typeArgs, -, hrefuses⟩ := h
  rw [count_le_iff] at hmissing
  generalize m.bindingAt i p = b at hmissing hrefuses
  cases hrefuses with
  | typeSlot hnone => cases (hmissing rfl hbeyond).1
  | extensionReceiver hreceiver herror =>
    subst hreceiver
    cases (hmissing rfl hbeyond).1
  | convert herror =>
    refine Classical.byContradiction fun hgeneric => ?_
    obtain ⟨value, hvalue⟩ :=
      (hmissing rfl hbeyond).2.convertArgument hgeneric (m := m) hbeyond typeArgs
    rw [herror] at hvalue
    cases hvalue
  | item htype hv herror =>
    -- The items are arguments that were passed.
    rw [List.getElem?_drop] at hv
    obtain ⟨hlt, -⟩ := List.getElem?_eq_some_iff.mp hv
    exact absurd hbeyond (Nat.not_le_of_lt hlt)

/-- **Missing arguments are taken for nil.** Whenever a method accepts the number of arguments of a
call, every parameter that the count reaches and that is left without an argument is converted, and
it has a default, is declared as a type argument, or has a type that nil converts to with any type
arguments in place. So if the call fails before the host code, the error is about an argument that
was passed, or about a parameter that is declared as a type argument or that the count does not
reach. -/
theorem missing_arguments_taken {d : Declaration} {m : Method} (hbuild : d.build = .ok m)
    {s : Session} {id : MethodId} {slot : MethodSlot} (hslot : s.method? id = some slot)
    (hmethod : slot.method = m) {receiver : Option Object} {a : Arguments}
    (haccepts : m.accepts a.count receiver.isSome = true) :
    (∀ i p, m.parameters[i]? = some p → m.Counts i →
      (m.bindingAt i p).takesArgument receiver.isSome = true →
      a.count ≤ m.argumentsBefore receiver.isSome i →
      m.bindingAt i p = .convert ∧ s.MayBeMissing p) ∧
    ∀ e, s.FailsToBind id receiver a e →
      ∃ i p argument, s.StopsAt m receiver a i p argument e ∧
        (argument < a.length ∨ (∃ k, p.type = .generic k) ∨ ¬ m.Counts i) := by
  subst hmethod
  have hmissing (i : Nat) (p : Parameter) (hp : slot.method.parameters[i]? = some p)
      (hcounts : slot.method.Counts i)
      (htakes : (slot.method.bindingAt i p).takesArgument receiver.isSome = true)
      (hbeyond : a.count ≤ slot.method.argumentsBefore receiver.isSome i) :
      slot.method.bindingAt i p = .convert ∧ s.MayBeMissing p := by
    obtain ⟨hconvert, hnil⟩ :=
      Declaration.takesNil_of_accepts hbuild haccepts hp hcounts htakes hbeyond
    exact ⟨hconvert, hnil.imp (fun h => h) (toHost_nil_of_acceptsNil s)⟩
  refine ⟨hmissing, fun e he => ?_⟩
  obtain ⟨i, p, argument, hstops⟩ := stopsAt_of_bind hbuild ((failsToBind_iff_bind hslot).mp he)
  refine ⟨i, p, argument, hstops, ?_⟩
  rcases Nat.lt_or_ge argument a.length with hpassed | hbeyond
  · exact Or.inl hpassed
  by_cases hcounts : slot.method.Counts i
  · exact Or.inr (Or.inl (hstops.isGeneric hbeyond (hmissing i p hstops.1 hcounts)))
  · exact Or.inr (Or.inr hcounts)

/-- A generic method gets a type and nil for its number: the number is refused, and the parameters
behind it may be missing, one with a default and one that is nullable in the type argument. -/
theorem missing_arguments_taken_behind_bad_number :
    ∃ (d : Declaration) (m : Method) (s : Session) (a : Arguments) (y z : Parameter)
      (e : ScriptError),
      d.parameters = [{ name := "x", type := .number }, y, z,
        { name := "rest", type := .array .string, variadic := true }] ∧
      y = { name := "y", type := .string, default := some (.text "none") } ∧
      z = { name := "z", type := .nullable (.generic 0) } ∧
      a = ⟨[.string "t", .nil], false⟩ ∧ e = .badType 2 "f" "number" .nil ∧
      d.build = .ok m ∧ s.method? ⟨0⟩ = some (.fresh m) ∧ m.accepts a.count false = true ∧
      s.MayBeMissing y ∧ s.MayBeMissing z ∧ s.FailsToBind ⟨0⟩ none a e ∧
      ∃ i p argument, s.StopsAt m none a i p argument e ∧
        (argument < a.length ∨ (∃ k, p.type = .generic k) ∨ ¬ m.Counts i) := by
  let y : Parameter := { name := "y", type := .string, default := some (.text "none") }
  let z : Parameter := { name := "z", type := .nullable (.generic 0) }
  let d : Declaration :=
    { name := "f"
      isStatic := true
      genericCount := 1
      parameters := [{ name := "x", type := .number }, y, z,
        { name := "rest", type := .array .string, variadic := true }]
      code := .body (.value .void) }
  obtain ⟨m, hbuild⟩ : ∃ m, d.build = .ok m := ⟨_, rfl⟩
  let s : Session := { bare 1 with methods := #[.fresh m] }
  let a : Arguments := ⟨[.string "t", .nil], false⟩
  have hslot : s.method? ⟨0⟩ = some (.fresh m) := rfl
  have haccepts : m.accepts a.count (none : Option Object).isSome = true := by
    obtain rfl := Except.ok.inj hbuild
    decide
  obtain ⟨hmissing, herrors⟩ := missing_arguments_taken hbuild hslot rfl haccepts
  have hfails : s.FailsToBind ⟨0⟩ none a (.badType 2 "f" "number" .nil) := by
    refine (failsToBind_iff_bind hslot).mpr ?_
    obtain rfl := Except.ok.inj hbuild
    rfl
  have hy : s.MayBeMissing y := by
    obtain rfl := Except.ok.inj hbuild
    exact (hmissing 2 y rfl (by decide) rfl (by decide)).2
  have hz : s.MayBeMissing z := by
    obtain rfl := Except.ok.inj hbuild
    exact (hmissing 3 z rfl (by decide) rfl (by decide)).2
  exact ⟨d, m, s, a, y, z, _, rfl, rfl, rfl, rfl, rfl, hbuild, hslot, haccepts, hy, hz, hfails,
    herrors _ hfails⟩

/-- **Missing arguments are refused** by parameters the count takes for ones that may be missing, or
does not look at: one declared as a type argument, when the type argument takes no nil, and one
behind a parameter that takes all arguments as they are. The errors are about a second argument when
there is one, and about a first when there is none. -/
theorem missing_arguments_refused :
    ∃ (d d' : Declaration) (m m' : Method) (s : Session) (a a' : Arguments),
      d.genericCount = 1 ∧ d.parameters = [{ name := "x", type := .generic 0 }] ∧
      d'.parameters = [{ name := "all", type := .arguments }, { name := "x", type := .number }] ∧
      d.build = .ok m ∧ d'.build = .ok m' ∧ s.converters.isEmpty = true ∧
      s.method? ⟨0⟩ = some (.fresh m) ∧ s.method? ⟨1⟩ = some (.fresh m') ∧
      a = ⟨[.string "t"], false⟩ ∧ m.accepts a.count false = true ∧
      s.FailsToBind ⟨0⟩ none a (.badType 2 "f" "string" .nil) ∧
      a' = ⟨[], false⟩ ∧ m'.accepts a'.count false = true ∧
      s.FailsToBind ⟨1⟩ none a' (.badType 1 "g" "number" .nil) := by
  let d : Declaration :=
    { name := "f"
      isStatic := true
      genericCount := 1
      parameters := [{ name := "x", type := .generic 0 }]
      code := .body (.value .void) }
  let d' : Declaration :=
    { name := "g"
      isStatic := true
      parameters := [{ name := "all", type := .arguments }, { name := "x", type := .number }]
      code := .body (.value .void) }
  obtain ⟨m, hbuild⟩ : ∃ m, d.build = .ok m := ⟨_, rfl⟩
  obtain ⟨m', hbuild'⟩ : ∃ m, d'.build = .ok m := ⟨_, rfl⟩
  let s : Session := { bare 1 with methods := #[.fresh m, .fresh m'] }
  have hslot : s.method? ⟨0⟩ = some (.fresh m) := rfl
  have hslot' : s.method? ⟨1⟩ = some (.fresh m') := rfl
  refine ⟨d, d', m, m', s, ⟨[.string "t"], false⟩, ⟨[], false⟩, rfl, rfl, rfl, hbuild, hbuild', rfl,
    hslot, hslot', rfl, ?_, (failsToBind_iff_bind hslot).mpr ?_, rfl, ?_,
    (failsToBind_iff_bind hslot').mpr ?_⟩
  · obtain rfl := Except.ok.inj hbuild
    decide
  · obtain rfl := Except.ok.inj hbuild
    rfl
  · obtain rfl := Except.ok.inj hbuild'
    decide
  · obtain rfl := Except.ok.inj hbuild'
    rfl

end Session

end ScriptHost
