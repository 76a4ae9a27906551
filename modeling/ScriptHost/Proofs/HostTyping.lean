import Mathlib.Data.List.Forall2
import ScriptHost.Proofs.Border
import ScriptHost.Proofs.ProtectedCall
import ScriptHost.Proofs.Routing

/-!
# Host values have the types they are asked for

Script values are untyped, and the conversion to the host coerces: numerals become numbers, numbers
become boxed integers, tables become arrays. Whatever it makes is of the type that was asked for, so
the host code of a method finds in every parameter what its declaration says.

## Main definitions

* `HostValue.HasType`: host values of a parameter type.
* `Heap.Reaches`: what a script value leads to through tuples and tables.
* `Heap.Sound`: everything a script value leads to is in order.

## Main results

* `Primitive.kind_convert`, `Primitive.kind_ofNumberChecked`: numbers are of the kind asked for.
* `mapM_eq_ok_iff`: converting each of several values.
* `Session.hasType_standardToHost`: the standard rules make values of the type asked for.
* `Session.conversion_typed`: so does the whole conversion, and so do calls of methods.
-/

namespace ScriptHost

/-! ## Kinds of numbers -/

namespace Primitive

variable {kind : NumericKind} {p q : Primitive}

theorem kind_of_ofInt? {k : IntegerKind} {i : Int} (h : ofInt? k i = some p) :
    p.kind = .integer k := by
  unfold ofInt? at h
  split at h
  · rw [← Option.some.inj h, kind_integer]
  · cases h

theorem kind_ofNumber {x : Float} (h : ofNumber kind x = .ok p) : p.kind = kind := by
  cases kind with
  | integer k =>
    obtain rfl := Except.ok.inj h
    rfl
  | single => rw [← Except.ok.inj h, Primitive.kind]
  | decimal =>
    simp only [ofNumber] at h
    split at h
    · rw [← Except.ok.inj h, Primitive.kind]
    · cases h

/-- A change of kind gives a number of the new kind. -/
theorem kind_convert (h : p.convert kind = .ok q) : q.kind = kind := by
  cases kind with
  | integer k =>
    simp only [convert] at h
    split at h
    · rename_i r hr
      obtain ⟨i, -, hi⟩ := Option.bind_eq_some_iff.mp hr
      rw [← Except.ok.inj h, kind_of_ofInt? hi]
    · cases h
  | single => cases p <;> rw [← Except.ok.inj h, Primitive.kind]
  | decimal =>
    cases p with
    | decimal d => rw [← Except.ok.inj h, Primitive.kind]
    | single x | integer k i hi =>
      simp only [convert] at h
      split at h
      · rename_i r hr
        obtain ⟨d, -, hd⟩ := Option.map_eq_some_iff.mp hr
        rw [← Except.ok.inj h, ← hd, Primitive.kind]
      · cases h

theorem kind_ofNumberChecked {x : Float} (h : ofNumberChecked kind x = .ok p) : p.kind = kind := by
  unfold ofNumberChecked at h
  split at h
  · split at h
    · cases h
    · split at h
      · rename_i q hq
        rw [← Except.ok.inj h, kind_convert hq]
      · cases h
  · exact kind_ofNumber h

end Primitive

/-! ## Types of host values -/

/-- **Well-typed host values.** What the host finds natural is of every open type; what is at hand
in a call, and what scripts cannot supply, is of no type. -/
def HostValue.HasType : HostValue → ParamType → Prop
  | h, .bool => ∃ b, h = .bool b
  | h, .number => ∃ x, h = .number x
  | h, .string => ∃ s, h = .text s
  | h, .primitive k => ∃ p, h = .primitive p ∧ p.kind = k
  | h, .object t => h = .null ∨ ∃ o, h = .object o ∧ o.hostType = t
  | h, .table => ∃ t, h = .dynamic (.table t)
  | h, .function => ∃ f, h = .dynamic (.function f)
  | h, .typeToken => ∃ t, h = .type t
  | h, .dynamic => ∃ v, h = .dynamic v ∧ v.isTuple = false
  | h, .nullable t => h = .null ∨ h.HasType t
  | h, .array t => ∃ a, h = .array a ∧ a.element = t ∧ ∀ item ∈ a.items, item.HasType t
  | _, .any | _, .generic _ => True
  | _, .script | _, .context | _, .arguments | _, .pointer => False

/-- The types of what is at hand in a call, and of what scripts cannot supply. -/
def ParamType.isAmbient : ParamType → Bool
  | script | context | arguments | pointer => true
  | _ => false

/-! ## What a script value leads to -/

namespace Value

theorem exists_of_mem_ofList {vs items : List Value} (h : ofList vs = tuple items) {w : Value}
    (hw : w ∈ items) : ∃ v ∈ vs, v = w ∧ v.isTuple = false ∨ ∃ ws, v = tuple ws ∧ w ∈ ws := by
  obtain rfl := tuple.inj h
  obtain ⟨v, hv, hvw⟩ := List.mem_flatMap.mp hw
  refine ⟨v, hv, ?_⟩
  cases v with
  | tuple ws => exact Or.inr ⟨ws, rfl, hvw⟩
  | _ => exact Or.inl ⟨(List.mem_singleton.mp hvw).symm, rfl⟩

/-- Tuples are made flat. -/
theorem flat_ofList {vs : List Value} (h : ∀ v ∈ vs, v.Flat) : (ofList vs).Flat := by
  intro w hw
  obtain ⟨v, hv, ⟨rfl, hsingle⟩ | ⟨ws, rfl, hws⟩⟩ := exists_of_mem_ofList rfl hw
  · exact hsingle
  · exact h _ hv w hws

end Value

namespace Heap

/-- **Reachable values**: those a value leads to through the items of tuples and the entries of
tables. -/
inductive Reaches (heap : Heap) : Value → Value → Prop
  | refl (v : Value) : Reaches heap v v
  | item {items : List Value} {v w : Value} (hv : v ∈ items) (hw : Reaches heap v w) :
      Reaches heap (.tuple items) w
  | entry {t : TableId} (key : Key) {w : Value} (hw : Reaches heap ((heap.table t).get key) w) :
      Reaches heap (.table t) w

/-- Sound values lead to nothing that is out of order: no tuple in a tuple, and no host array
with items that are not of its element type. -/
structure Sound (heap : Heap) (v : Value) : Prop where
  flat : ∀ w, heap.Reaches v w → w.Flat
  arrays : ∀ u a, heap.Reaches v (.userdata u) → u.object.array? = some a →
    ∀ item ∈ a.items, item.HasType a.element

variable {heap : Heap} {v : Value}

/-- What a sound value leads to is sound. -/
theorem Sound.of_reaches {w : Value} (h : heap.Sound v)
    (hreaches : ∀ x, heap.Reaches w x → heap.Reaches v x) : heap.Sound w where
  flat x hx := h.flat x (hreaches x hx)
  arrays u a hu := h.arrays u a (hreaches _ hu)

theorem sound_nil : heap.Sound .nil where
  flat w hw := by
    cases hw
    trivial
  arrays u a hu := by cases hu

theorem Sound.first (h : heap.Sound v) : heap.Sound v.first := by
  match v with
  | .tuple [] => exact sound_nil
  | .tuple (w :: ws) => exact h.of_reaches fun x hx => .item List.mem_cons_self hx
  | .nil | .bool _ | .number _ | .string _ | .table _ | .function _ | .userdata _ | .request _ =>
    exact h

theorem Sound.isTuple_first (h : heap.Sound v) : v.first.isTuple = false :=
  (h.flat v (.refl v)).isTuple_first

/-- A tuple made of sound values is sound. -/
theorem sound_ofList {vs : List Value} (h : ∀ v ∈ vs, heap.Sound v) :
    heap.Sound (.ofList vs) := by
  -- What the tuple leads to, beside itself, one of the values leads to as well.
  have hreaches {items : List Value} (hitems : Value.ofList vs = .tuple items) {x w : Value}
      (hx : x ∈ items) (hw : heap.Reaches x w) : ∃ v ∈ vs, heap.Reaches v w := by
    obtain ⟨v, hv, ⟨rfl, -⟩ | ⟨ws, rfl, hws⟩⟩ := Value.exists_of_mem_ofList hitems hx
    · exact ⟨v, hv, hw⟩
    · exact ⟨_, hv, .item hws hw⟩
  constructor
  · intro w hw
    cases hw with
    | refl => exact Value.flat_ofList fun v hv => (h v hv).flat v (.refl v)
    | item hx hw =>
      obtain ⟨v, hv, hvw⟩ := hreaches rfl hx hw
      exact (h v hv).flat w hvw
  · intro u a hu
    cases hu with
    | item hx hu =>
      obtain ⟨v, hv, hvu⟩ := hreaches rfl hx hu
      exact (h v hv).arrays u a hvu

/-- A table is sound if everything in it is. -/
theorem sound_table_iff {t : TableId} :
    heap.Sound (.table t) ↔ ∀ key, heap.Sound ((heap.table t).get key) := by
  constructor
  · intro h key
    exact h.of_reaches fun x hx => .entry key hx
  · intro h
    constructor
    · intro w hw
      cases hw with
      | refl => trivial
      | entry key hw => exact (h key).flat w hw
    · intro u a hu
      cases hu with
      | entry key hu => exact (h key).arrays u a hu

theorem sound_userdata_iff {u : UserData} :
    heap.Sound (.userdata u) ↔
      ∀ a, u.object.array? = some a → ∀ item ∈ a.items, item.HasType a.element := by
  constructor
  · intro h a
    exact h.arrays u a (.refl _)
  · intro h
    constructor
    · intro w hw
      cases hw
      trivial
    · intro u' a hu
      cases hu
      exact h a

theorem Sound.arrayValues {t : TableId} (h : heap.Sound (.table t)) {item : Value}
    (hitem : item ∈ (heap.table t).arrayValues) : heap.Sound item := by
  obtain ⟨i, -, rfl⟩ := List.mem_map.mp hitem
  exact sound_table_iff.mp h _

end Heap

/-! ## The conversion -/

/-- Converting each of several values succeeds if it does for each of them. -/
theorem mapM_eq_ok_iff {α β ε : Type} {f : α → Except ε β} {xs : List α} {ys : List β} :
    xs.mapM f = .ok ys ↔ List.Forall₂ (fun x y => f x = .ok y) xs ys := by
  induction xs generalizing ys with
  | nil =>
    rw [List.mapM_nil, List.forall₂_nil_left_iff]
    exact ⟨fun h => (Except.ok.inj h).symm, fun h => congrArg Except.ok h.symm⟩
  | cons x xs ih =>
    rw [List.mapM_cons, List.forall₂_cons_left_iff]
    constructor
    · intro h
      cases hx : f x with
      | error e =>
        rw [hx] at h
        cases h
      | ok y =>
        cases hxs : xs.mapM f with
        | error e =>
          rw [hx, hxs] at h
          cases h
        | ok zs =>
          rw [hx, hxs] at h
          exact ⟨y, zs, rfl, ih.mp hxs, (Except.ok.inj h).symm⟩
    · rintro ⟨y, zs, hx, hxs, rfl⟩
      rw [hx, ih.mpr hxs]
      rfl

theorem exists_mem_of_forall₂ {α β : Type} {R : α → β → Prop} {xs : List α} {ys : List β}
    (h : List.Forall₂ R xs ys) {x : α} (hx : x ∈ xs) : ∃ y ∈ ys, R x y := by
  induction h with
  | nil => cases hx
  | cons hhead _ ih =>
    rcases List.mem_cons.mp hx with rfl | hx
    · exact ⟨_, List.mem_cons_self, hhead⟩
    · obtain ⟨y, hy, hxy⟩ := ih hx
      exact ⟨y, List.mem_cons_of_mem _ hy, hxy⟩

namespace Session

variable {s : Session}

theorem customToHost?_of_isEmpty (hconverters : s.converters.toHost.isEmpty = true)
    (type : ParamType) (v : Value) : s.customToHost? type v = none := by
  have hlookup (t : HostType) : s.converters.lookupToHost v t = none := by
    unfold Converters.lookupToHost
    rw [Keyed.get?_of_isEmpty hconverters]
  unfold customToHost?
  cases type.hostType? with
  | none => rfl
  | some t => rw [Option.bind_some, hlookup, Option.bind_none]

theorem hasType_primitiveResult {kind : NumericKind} {r : Except Numeric.Fault Primitive}
    {h : HostValue} (hr : ∀ p, r = .ok p → p.kind = kind) (hh : primitiveResult r = .ok h) :
    h.HasType (.primitive kind) := by
  cases r with
  | error e => cases hh
  | ok p => exact ⟨p, (Except.ok.inj hh).symm, hr p rfl⟩

/-- **The standard rules** make values of the type asked for. -/
theorem hasType_standardToHost (hconverters : s.converters.toHost.isEmpty = true) {site : Site}
    {type : ParamType} {v : Value} {h : HostValue} (hv : v.isTuple = false)
    (hsound : s.heap.Sound v) (hh : s.standardToHost site type v = .ok h) : h.HasType type := by
  induction type generalizing v h with
  | bool => exact ⟨_, (Except.ok.inj hh).symm⟩
  | number =>
    rw [standardToHost] at hh
    split at hh
    · exact ⟨_, (Except.ok.inj hh).symm⟩
    · cases hh
  | string =>
    rw [standardToHost] at hh
    split at hh
    · exact ⟨_, (Except.ok.inj hh).symm⟩
    · cases hh
  | primitive kind =>
    rw [standardToHost.eq_def] at hh
    dsimp only at hh
    split at hh
    · exact hasType_primitiveResult (fun p hp => Primitive.kind_ofNumberChecked hp) hh
    · split at hh
      · exact hasType_primitiveResult (fun p hp => Primitive.kind_convert hp) hh
      · cases hh
  | object t =>
    cases v with
    | nil => exact Or.inl (Except.ok.inj hh).symm
    | userdata u =>
      rw [standardToHost] at hh
      split at hh
      · rename_i ht
        exact Or.inr ⟨u.object, (Except.ok.inj hh).symm, ht⟩
      · cases hh
    | _ => cases hh
  | table =>
    cases v with
    | table t => exact ⟨t, (Except.ok.inj hh).symm⟩
    | _ => cases hh
  | function =>
    cases v with
    | function f => exact ⟨f, (Except.ok.inj hh).symm⟩
    | _ => cases hh
  | typeToken =>
    rw [standardToHost] at hh
    split at hh
    · exact ⟨_, (Except.ok.inj hh).symm⟩
    · cases hh
  | dynamic => exact ⟨v, (Except.ok.inj hh).symm, hv⟩
  | nullable inner ih =>
    cases v with
    | nil => exact Or.inl (Except.ok.inj hh).symm
    | _ => exact Or.inr (ih hv hsound hh)
  | array element ih =>
    cases v with
    | table t =>
      simp only [standardToHost, customToHost?_of_isEmpty hconverters] at hh
      cases hitems : (s.heap.table t).arrayValues.mapM
          (fun item => s.standardToHost site element item.first) with
      | error e =>
        rw [hitems] at hh
        cases hh
      | ok items =>
        rw [hitems] at hh
        refine ⟨.ofList element items, (Except.ok.inj hh).symm, rfl, fun item hitem => ?_⟩
        -- Each item comes from an entry of the table, which the table leads to.
        obtain ⟨w, hw, hconverted⟩ :=
          exists_mem_of_forall₂ (mapM_eq_ok_iff.mp hitems).flip hitem
        have hentry := hsound.arrayValues hw
        exact ih hentry.isTuple_first hentry.first hconverted
    | userdata u =>
      rw [standardToHost] at hh
      split at hh
      · rename_i a ha
        split at hh
        · rename_i helement
          have hitems := hsound.arrays u a (.refl _) ha
          rw [helement] at hitems
          exact ⟨a, (Except.ok.inj hh).symm, helement, hitems⟩
        · cases hh
      · cases hh
    | _ => cases hh
  | any | generic => trivial
  | script | context | arguments | pointer => cases hh

/-- The whole conversion takes the default for nil, or goes by the standard rules. -/
theorem default_or_standard_of_toHost (hconverters : s.converters.toHost.isEmpty = true) {v : Value}
    {type : ParamType} {default : Option HostValue} {site : Site} {h : HostValue}
    (hh : s.toHost v type default site = .ok h) :
    v.first = .nil ∧ default = some h ∨ s.standardToHost site type v.first = .ok h := by
  have hcustom := customToHost?_of_isEmpty hconverters type v.first
  by_cases htaken : v.first = .nil ∧ ∃ d, default = some d
  · obtain ⟨hnil, d, rfl⟩ := htaken
    rw [toHost_of_default hcustom hnil] at hh
    exact Or.inl ⟨hnil, congrArg some (Except.ok.inj hh)⟩
  · have hnone : v.first = .nil → default = none := by
      intro hnil
      cases default with
      | none => rfl
      | some d => exact absurd ⟨hnil, d, rfl⟩ htaken
    rw [toHost_of_standard hcustom hnone] at hh
    exact Or.inr hh

theorem hasType_toHost (hconverters : s.converters.toHost.isEmpty = true) {v : Value}
    {type : ParamType} {default : Option HostValue} {site : Site} {h : HostValue}
    (hsound : s.heap.Sound v) (hdefault : ∀ d, default = some d → d.HasType type)
    (hh : s.toHost v type default site = .ok h) : h.HasType type := by
  rcases default_or_standard_of_toHost hconverters hh with ⟨-, htaken⟩ | hstandard
  · exact hdefault h htaken
  · exact hasType_standardToHost hconverters hsound.isTuple_first hsound.first hstandard

/-- What a variadic parameter gets is an array of its element type. -/
theorem Gathers.hasType (hconverters : s.converters.toHost.isEmpty = true) {function : String}
    {element : ParamType} {position : Nat} {extra : List Value} {h : HostValue}
    (hsound : ∀ v ∈ extra, s.heap.Sound v)
    (hh : s.Gathers function element position extra h) : h.HasType (.array element) := by
  cases hh with
  | @lone given hlone =>
    obtain ⟨u, rfl, harray, helement⟩ := hlone
    have hitems := (hsound _ List.mem_cons_self).arrays u given (.refl _) harray
    rw [helement] at hitems
    exact ⟨given, rfl, helement, hitems⟩
  | @each items _ hlength hitems =>
    refine ⟨_, rfl, rfl, fun item hitem => ?_⟩
    obtain ⟨k, hk⟩ := List.mem_iff_getElem?.mp hitem
    obtain ⟨hlt, -⟩ := List.getElem?_eq_some_iff.mp hk
    obtain ⟨v, hv⟩ : ∃ v, extra[k]? = some v :=
      ⟨extra[k], List.getElem?_eq_getElem (by rwa [← hlength])⟩
    have hnone (d : HostValue) (hd : none = some d) : d.HasType element := nomatch hd
    exact hasType_toHost hconverters (hsound v (List.mem_of_getElem? hv)) hnone
      (hitems k v item hv hk)

theorem ReceivesConverted.hasType (hconverters : s.converters.toHost.isEmpty = true)
    {function : String} {a : Arguments} {typeArgs : List HostType} {p : Parameter} {position : Nat}
    {h : HostValue} (hsound : ∀ v ∈ a.values, s.heap.Sound v)
    (hdefault : ∀ d, p.default = some d → d.HasType (p.type.substitute typeArgs))
    (hh : s.ReceivesConverted function a typeArgs p position h) :
    h.HasType (p.type.substitute typeArgs) := by
  have hargument : s.heap.Sound ((a.raw? position).getD .nil) := by
    cases hraw : a.raw? position with
    | none => exact Heap.sound_nil
    | some v => exact hsound v (List.mem_of_getElem? hraw)
  exact hasType_toHost hconverters hargument hdefault hh

end Session

/-- Whether the value of a parameter is made of arguments; an extension's is if it has no receiver.
-/
def Binding.isConverted (hasReceiver : Bool) : Binding → Bool
  | .convert | .variadic => true
  | .extensionReceiver => !hasReceiver
  | .typeSlot | .script | .context | .arguments | .out => false

/-- Well-typed calls of the host code: a declared parameter whose value is made of arguments has
one of its type, with the type arguments in place, if its default is of that type. -/
def HostCall.WellTyped (call : HostCall) (d : Declaration) (m : Method) (hasReceiver : Bool) :
    Prop :=
  ∀ i p h, d.parameters[i]? = some p → call.args[i]? = some h →
    (m.bindingAt (d.genericCount + i) p).isConverted hasReceiver = true →
    (∀ default, p.default = some default → default.HasType (p.type.substitute call.typeArgs)) →
    h.HasType (p.type.substitute call.typeArgs)

namespace Session

variable {s : Session}

/-- What a parameter gets that is made of arguments is of its type. -/
theorem Receives.hasType (hconverters : s.converters.toHost.isEmpty = true) {function : String}
    {receiver : Option Object} {a : Arguments} {typeArgs : List HostType} {p : Parameter}
    {position : Nat} {b : Binding} {h : HostValue} (hb : b.isConverted receiver.isSome = true)
    (hsound : ∀ v ∈ a.values, s.heap.Sound v)
    (hdefault : ∀ d, p.default = some d → d.HasType (p.type.substitute typeArgs))
    (hh : s.Receives function receiver a typeArgs p position b h) :
    h.HasType (p.type.substitute typeArgs) := by
  cases b with
  | convert => exact ReceivesConverted.hasType hconverters hsound hdefault hh
  | variadic =>
    obtain ⟨element, htype, hgathers⟩ := hh
    rw [htype]
    exact hgathers.hasType hconverters fun v hv => hsound v (List.mem_of_mem_drop hv)
  | extensionReceiver =>
    cases receiver with
    | some o => cases hb
    | none => exact ReceivesConverted.hasType hconverters hsound hdefault hh
  | typeSlot | script | context | arguments | out => cases hb

/-- **Conversion is typed.** Without custom conversions, what the conversion makes of a sound value
is of the type asked for, if the default is. The types of what is at hand in a call have no value
but the default. So what a call of a method with sound arguments comes to is well-typed. -/
theorem conversion_typed (hconverters : s.converters.toHost.isEmpty = true) :
    (∀ v type default site h, s.heap.Sound v → (∀ d, default = some d → d.HasType type) →
      s.toHost v type default site = .ok h → h.HasType type) ∧
    (∀ v type default site h, type.isAmbient = true → s.toHost v type default site = .ok h →
      v.first = .nil ∧ default = some h) ∧
    ∀ (d : Declaration) m id slot receiver (a : Arguments) call, d.build = .ok m →
      s.method? id = some slot → slot.method = m → (∀ v ∈ a.values, s.heap.Sound v) →
      s.ComesTo id receiver a m call → call.WellTyped d m receiver.isSome := by
  refine ⟨?_, ?_, ?_⟩
  · intro v type default site h hsound hdefault hh
    exact hasType_toHost hconverters hsound hdefault hh
  · intro v type default site h hambient hh
    rcases default_or_standard_of_toHost hconverters hh with htaken | hstandard
    · exact htaken
    · cases type <;> cases hambient <;> cases hstandard
  · rintro d _ id slot receiver a call hbuild hslot rfl hsound hcall i p h hp hh hb hdefault
    have hrouted := routed_of_bind hbuild ((comesTo_iff_bind hslot).mp hcall)
    exact (hrouted.args i p h hp hh).hasType hconverters hb hsound hdefault

/-- The first of two values is a table with a table and a host array in it, at an array of arrays of
bytes: the boxed number in the inner table changes its kind, and the host array is taken as it is.
-/
theorem conversion_typed_of_nested_tables :
    ∃ (type : ParamType) (d : Declaration) (m : Method) (s : Session) (v : Value) (h : HostValue)
      (call : HostCall),
      type = .array (.array (.primitive (.integer .byte))) ∧
      d.parameters.map (·.type) = [type] ∧ d.build = .ok m ∧
      v = .ofList [.table ⟨1⟩, .nil] ∧ s.heap.Sound v ∧
      s.toHost v type none ⟨"f", 1⟩ = .ok h ∧ h.HasType type ∧
      s.ComesTo ⟨0⟩ none ⟨[v], false⟩ m call ∧ call.args = [h] ∧ call.WellTyped d m false := by
  let byte : ParamType := .primitive (.integer .byte)
  let d : Declaration :=
    { name := "f"
      parameters := [{ name := "xs", type := .array (.array byte) }]
      code := .body (.value .void) }
  obtain ⟨m, hbuild⟩ : ∃ m, d.build = .ok m := ⟨_, rfl⟩
  let five : Value := .userdata ⟨⟨1, .primitive (.integer .int32 5 (by decide))⟩, none⟩
  let nine : HostArray := ⟨byte, [1], [.primitive (.integer .byte 9 (by decide))]⟩
  let given : Value := .userdata ⟨⟨2, .array nine⟩, none⟩
  let s : Session :=
    { bare 1 with
      heap := ⟨#[.ofList [five], .ofList [.table ⟨0⟩, given]], #[], 3⟩
      methods := #[.fresh m] }
  let h : HostValue := .array ⟨.array byte, [2],
    [.array ⟨byte, [1], [.primitive (.integer .byte 5 (by decide))]⟩, .array nine]⟩
  let call : HostCall := ⟨none, [], [h]⟩
  have hfive : s.heap.Sound five := Heap.sound_userdata_iff.mpr fun a ha => nomatch ha
  have hgiven : s.heap.Sound given := by
    refine Heap.sound_userdata_iff.mpr fun a ha => ?_
    obtain rfl : nine = a := Option.some.inj ha
    intro item hitem
    obtain rfl := List.mem_singleton.mp hitem
    exact ⟨_, rfl, rfl⟩
  have hinner : s.heap.Sound (.table ⟨0⟩) := by
    refine Heap.sound_table_iff.mpr fun key => ?_
    show s.heap.Sound ((Table.ofList [five]).get key)
    rcases Table.get_ofList_eq_nil_or_mem [five] key with hnil | hmem
    · rw [hnil]
      exact Heap.sound_nil
    · rw [List.mem_singleton.mp hmem]
      exact hfive
  have houter : s.heap.Sound (.table ⟨1⟩) := by
    refine Heap.sound_table_iff.mpr fun key => ?_
    show s.heap.Sound ((Table.ofList [.table ⟨0⟩, given]).get key)
    rcases Table.get_ofList_eq_nil_or_mem [.table ⟨0⟩, given] key with hnil | hmem
    · rw [hnil]
      exact Heap.sound_nil
    · rcases List.mem_pair.mp hmem with heq | heq
      · rw [heq]
        exact hinner
      · rw [heq]
        exact hgiven
  have hsound : s.heap.Sound (.ofList [.table ⟨1⟩, .nil]) := by
    refine Heap.sound_ofList fun v hv => ?_
    rcases List.mem_pair.mp hv with rfl | rfl
    · exact houter
    · exact Heap.sound_nil
  have hconverted : s.toHost (.ofList [.table ⟨1⟩, .nil]) (.array (.array byte)) none ⟨"f", 1⟩ =
      .ok h := rfl
  have hslot : s.method? ⟨0⟩ = some (.fresh m) := rfl
  have hcall : s.ComesTo ⟨0⟩ none ⟨[.ofList [.table ⟨1⟩, .nil]], false⟩ m call := by
    refine (comesTo_iff_bind hslot).mpr ?_
    obtain rfl := Except.ok.inj hbuild
    rfl
  obtain ⟨htyped, -, hcalls⟩ := conversion_typed (s := s) rfl
  refine ⟨_, d, m, s, _, h, call, rfl, rfl, hbuild, rfl, hsound, hconverted, ?_, hcall, rfl, ?_⟩
  · exact htyped _ _ none _ h hsound (fun d hd => nomatch hd) hconverted
  · refine hcalls d m ⟨0⟩ _ none _ call hbuild hslot rfl ?_ hcall
    intro v hv
    obtain rfl := List.mem_singleton.mp hv
    exact hsound

end Session

end ScriptHost
