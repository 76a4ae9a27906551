import ScriptHost.Proofs.Growth
import ScriptHost.Proofs.HostTyping

/-!
# Host values survive the way through the script

A host value that goes to the script and comes back at its own type is the same value. The two
conversions are recursions of their own, one along host values and one along types; they meet in
what a script value stands for at a type, in a heap that only grows while values are made.

## Main definitions

* `Heap.Represents`: a script value stands for a host value of a type.
* `ParamType.isPortable`, `HostValue.Regular`: the types and the arrays that survive.

## Main results

* `Session.represents_toScript`: what conversion to scripts makes stands for the host value.
* `Session.standardToHost_of_represents`: what stands for a host value is converted to it.
* `Session.round_trip`: host values survive.
-/

namespace ScriptHost

/-! ## What a script value stands for -/

namespace Heap

/-- **A script value stands for a host value** of a type. Arrays are tables, with a value at their
front for each item. -/
def Represents (heap : Heap) : ParamType → Value → HostValue → Prop
  | .bool, v, h => ∃ b, v = .bool b ∧ h = .bool b
  | .number, v, h => ∃ x, v = .number x ∧ h = .number x
  | .string, v, h => ∃ s, v = .string s ∧ h = .text s
  | .primitive k, v, h => ∃ u p, v = .userdata u ∧ u.object.primitive? = some p ∧ p.kind = k ∧
      h = .primitive p
  | .object t, v, h => ∃ u, v = .userdata u ∧ u.object.hostType = t ∧ h = .object u.object
  | .typeToken, v, h => ∃ u t, v = .userdata u ∧ u.object.staticType? = some t ∧ h = .type t
  | .array e, v, h => ∃ t items, v = .table t ∧ t.index < heap.tables.size ∧
      h = .array (.ofList e items) ∧
      List.Forall₂ (fun v h => heap.Represents e v h) (heap.table t).arrayValues items
  | _, _, _ => False

variable {heap later : Heap} {type : ParamType} {v : Value} {h : HostValue}

/-- A value stands for the same in a later heap. -/
theorem Represents.mono (hextends : heap.Extends later) (hr : heap.Represents type v h) :
    later.Represents type v h := by
  induction type generalizing v h with
  | array e ih =>
    obtain ⟨t, items, hv, ht, hh, hitems⟩ := hr
    refine ⟨t, items, hv, Nat.lt_of_lt_of_le ht hextends.size_le, hh, ?_⟩
    rw [hextends.table ht]
    exact hitems.imp fun _ _ => ih
  | _ => exact hr

/-- What stands for a host value is neither nil nor a tuple. -/
theorem Represents.isSingle (hr : heap.Represents type v h) :
    v.isNil = false ∧ v.first = v := by
  cases type with
  | bool | number | string | typeToken | primitive | object | array =>
    obtain ⟨_, hr⟩ := hr
    first
    | obtain ⟨rfl, -⟩ := hr
      exact ⟨rfl, rfl⟩
    | obtain ⟨_, rfl, -⟩ := hr
      exact ⟨rfl, rfl⟩
  | _ => exact hr.elim

/-- A new table made of values that stand for the items stands for the array. -/
theorem represents_newTable {e : ParamType} {vs : List Value} {items : List HostValue}
    (h : List.Forall₂ (fun v h => heap.Represents e v h) vs items) :
    (heap.newTable (.ofList vs)).2.Represents (.array e)
      (.table (heap.newTable (.ofList vs)).1) (.array (.ofList e items)) := by
  have hsome (v : Value) (hv : v ∈ vs) : v.isNil = false := by
    obtain ⟨item, -, hitem⟩ := exists_mem_of_forall₂ h hv
    exact hitem.isSingle.1
  have hsize : (heap.newTable (.ofList vs)).1.index <
      (heap.newTable (.ofList vs)).2.tables.size := by
    simp [newTable]
  refine ⟨_, items, rfl, hsize, rfl, ?_⟩
  rw [table_newTable, Table.arrayValues_ofList hsome]
  exact h.imp fun v h hr => hr.mono (heap.extends_newTable _)

end Heap

/-! ## From the script -/

/-- A number is itself in its own kind. -/
theorem Primitive.convert_kind (p : Primitive) : p.convert p.kind = .ok p := by
  cases p with
  | integer k i hi =>
    simp only [convert, kind_integer, integral?, Option.bind_some, ofInt?_eq_some hi]
  | single x => rfl
  | decimal d => rfl

namespace Session

variable {s : Session} {type : ParamType} {v : Value} {h : HostValue}

/-- **What stands for a host value** is converted to it. -/
theorem standardToHost_of_represents (hconverters : s.converters.toHost.isEmpty = true)
    (hr : s.heap.Represents type v h) (site : Site) : s.standardToHost site type v = .ok h := by
  induction type generalizing v h with
  | bool =>
    obtain ⟨b, rfl, rfl⟩ := hr
    rfl
  | number =>
    obtain ⟨x, rfl, rfl⟩ := hr
    rfl
  | string =>
    obtain ⟨r, rfl, rfl⟩ := hr
    rfl
  | typeToken =>
    obtain ⟨u, t, rfl, ht, rfl⟩ := hr
    simp [standardToHost, Value.staticType?, Value.object?, ht]
  | primitive k =>
    obtain ⟨u, p, rfl, hp, rfl, rfl⟩ := hr
    simp [standardToHost, Value.primitive?, hp, Primitive.convert_kind, primitiveResult]
  | object t =>
    obtain ⟨u, rfl, rfl, rfl⟩ := hr
    simp [standardToHost]
  | array e ih =>
    obtain ⟨t, items, rfl, -, rfl, hitems⟩ := hr
    have hmapM : (s.heap.table t).arrayValues.mapM
        (fun item => s.standardToHost site e item.first) = .ok items := by
      refine mapM_eq_ok_iff.mpr (hitems.imp fun item h hitem => ?_)
      rw [hitem.isSingle.2]
      exact ih hitem
    simp only [standardToHost, customToHost?_of_isEmpty hconverters, hmapM]
    rfl
  | _ => exact hr.elim

theorem toHost_none (hconverters : s.converters.toHost.isEmpty = true) (v : Value)
    (type : ParamType) (site : Site) :
    s.toHost v type none site = s.standardToHost site type v.first :=
  toHost_of_standard (customToHost?_of_isEmpty hconverters _ _) fun _ => rfl

end Session

/-! ## To the script -/

/-- The types whose values survive. A boxed number as an object would be boxed anew. -/
def ParamType.isPortable : ParamType → Bool
  | bool | number | string | typeToken | primitive _ => true
  | object t => t ≠ .wrapper
  | array t => t.isPortable
  | _ => false

/-- Regular values: arrays have one dimension, and all their items are something and regular. -/
inductive HostValue.Regular : HostValue → Prop
  | array {a : HostArray} (hdims : a.dims = [a.items.length])
      (hsome : ∀ item ∈ a.items, item.isNull = false) (hitems : ∀ item ∈ a.items, item.Regular) :
      Regular (.array a)
  | single {h : HostValue} (hsingle : ∀ a, h ≠ .array a) : Regular h

/-- Nothing is of a type that survives, except null among the objects. -/
theorem HostValue.HasType.isNull_eq_false_or {h : HostValue} {type : ParamType}
    (htyped : h.HasType type) (hportable : type.isPortable = true) :
    h.isNull = false ∨ h = .null ∧ ∃ t, type = .object t := by
  cases type with
  | object t =>
    obtain rfl | ⟨o, rfl, -⟩ := htyped
    · exact Or.inr ⟨rfl, t, rfl⟩
    · exact Or.inl rfl
  | bool | number | string | typeToken =>
    obtain ⟨_, rfl⟩ := htyped
    exact Or.inl rfl
  | primitive | array =>
    obtain ⟨_, rfl, -⟩ := htyped
    exact Or.inl rfl
  | _ => cases hportable

theorem Object.primitive?_of_hostType {o : Object} (h : o.hostType ≠ .wrapper) :
    o.primitive? = none := by
  obtain ⟨stamp, payload⟩ := o
  cases payload with
  | primitive p => exact absurd rfl h
  | _ => rfl

namespace Session

variable {s : Session} {type : ParamType} {h : HostValue}

/-- The standard rules of conversion to scripts, without the custom conversion of the value. -/
def standardToScript : HostValue → Update Value
  | .void | .null | .script | .context => return .nil
  | .bool b => return .bool b
  | .number x => return .number x
  | .primitive p => box p
  | .text r => return .string r
  | .object o => ofObject o
  | .array a => do
    let vs ← toScriptAll a.items
    shape a.dims vs
  | .type t => staticType t
  | .dynamic v => return v
  | .arguments a => return .ofList a.values

theorem run_toScript_of_standard (hlookup : h.hostType?.bind s.converters.lookupToScript = none) :
    (toScript h).run s = (standardToScript h).run s := by
  rw [toScript.eq_def, Update.run_get_bind, hlookup]
  cases h with
  | array a =>
    cases a
    rfl
  | _ => rfl

theorem run_toScript (hconverters : s.converters.toScript.isEmpty = true) :
    (toScript h).run s = (standardToScript h).run s := by
  apply run_toScript_of_standard
  cases h.hostType? with
  | none => rfl
  | some t => exact Keyed.get?_of_isEmpty hconverters t

/-- Values that stand for host values one by one, when they are made one after the other. -/
theorem represents_toScriptAll {items : List HostValue}
    (hitems : ∀ h ∈ items, ∀ s : Session, s.converters.toScript.isEmpty = true →
      ((toScript h).run s).2.heap.Represents type ((toScript h).run s).1 h)
    (hconverters : s.converters.toScript.isEmpty = true) :
    List.Forall₂ (fun v h => ((toScriptAll items).run s).2.heap.Represents type v h)
      ((toScriptAll items).run s).1 items := by
  induction items generalizing s with
  | nil =>
    rw [toScriptAll]
    exact .nil
  | cons h rest ih =>
    -- The first value is made before the rest, and stands for the same in the heap they leave.
    have hhead := hitems h List.mem_cons_self s hconverters
    have hgrown := grows_toScriptAll rest ((toScript h).run s).2
    have hconverters' : ((toScript h).run s).2.converters.toScript.isEmpty = true := by
      rwa [(grows_toScript h s).converters]
    have hrest := ih (fun h hh => hitems h (List.mem_cons_of_mem _ hh)) hconverters'
    rw [toScriptAll]
    exact .cons (hhead.mono hgrown.heap) hrest

/-- What conversion to scripts makes stands for the host value. -/
theorem represents_toScript (hportable : type.isPortable = true) (htyped : h.HasType type)
    (hregular : h.Regular) (hsome : h.isNull = false)
    (hconverters : s.converters.toScript.isEmpty = true) :
    ((toScript h).run s).2.heap.Represents type ((toScript h).run s).1 h := by
  rw [run_toScript hconverters]
  induction type generalizing h s with
  | bool =>
    obtain ⟨b, rfl⟩ := htyped
    exact ⟨b, rfl, rfl⟩
  | number =>
    obtain ⟨x, rfl⟩ := htyped
    exact ⟨x, rfl, rfl⟩
  | string =>
    obtain ⟨r, rfl⟩ := htyped
    exact ⟨r, rfl, rfl⟩
  | primitive k =>
    obtain ⟨p, rfl, hp⟩ := htyped
    exact ⟨_, p, rfl, rfl, hp, rfl⟩
  | typeToken =>
    obtain ⟨t, rfl⟩ := htyped
    exact ⟨_, t, rfl, rfl, rfl⟩
  | object t =>
    obtain rfl | ⟨o, rfl, ho⟩ := htyped
    · cases hsome
    · have hplain : o.hostType ≠ .wrapper := by
        rw [ho]
        exact of_decide_eq_true hportable
      rw [standardToScript, ofObject, Object.primitive?_of_hostType hplain]
      exact ⟨⟨o, none⟩, rfl, ho, rfl⟩
  | array e ih =>
    obtain ⟨⟨e', dims, items⟩, rfl, rfl, hitems⟩ := htyped
    cases hregular with
    | single hsingle => exact absurd rfl (hsingle _)
    | array hdims hsomes hregulars =>
      dsimp only at hdims hitems hsomes hregulars ih ⊢
      subst hdims
      have hall := represents_toScriptAll (fun h hh s hs => run_toScript hs ▸
        ih hportable (hitems h hh) (hregulars h hh) (hsomes h hh) hs) hconverters
      exact Heap.represents_newTable hall
  | _ => cases hportable

/-- **Host values survive** the way through the script: what conversion to scripts makes of a regular
value is converted back to it at its type, and at that type with null. Null is nil on the way. -/
theorem round_trip {s t : Session} (hconverters : s.converters.isEmpty = true) {type : ParamType}
    (hportable : type.isPortable = true) {h : HostValue} (hregular : h.Regular) {v : Value}
    (hrun : (toScript h).run s = (v, t)) (site : Site) :
    (h.HasType type → t.toHost v type none site = .ok h) ∧
      (h.HasType (.nullable type) → t.toHost v (.nullable type) none site = .ok h) ∧
      (h = .null → v = .nil) := by
  obtain ⟨htoHost, htoScript⟩ := Bool.and_eq_true_iff.mp hconverters
  have hlater : t.converters.toHost.isEmpty = true := by
    have hgrown := (grows_toScript h s).converters
    rw [hrun] at hgrown
    rw [hgrown, htoHost]
  have hnull (hh : h = .null) : v = .nil := by
    subst hh
    rw [run_toScript htoScript] at hrun
    exact (congrArg Prod.fst hrun).symm
  have hsome (hs : h.isNull = false) (htyped : h.HasType type) : t.heap.Represents type v h := by
    have hr := represents_toScript hportable htyped hregular hs htoScript
    rwa [hrun] at hr
  refine ⟨fun htyped => ?_, fun htyped => ?_, hnull⟩
  · rw [toHost_none hlater]
    rcases htyped.isNull_eq_false_or hportable with hs | ⟨rfl, t, rfl⟩
    · have hr := hsome hs htyped
      rw [hr.isSingle.2, standardToHost_of_represents hlater hr]
    · rw [hnull rfl]
      rfl
  · rw [toHost_none hlater]
    have hback (hh : h = .null) : t.standardToHost site (.nullable type) v.first = .ok h := by
      rw [hnull hh, hh]
      rfl
    rcases htyped with rfl | htyped
    · exact hback rfl
    · rcases htyped.isNull_eq_false_or hportable with hs | ⟨hh, -⟩
      · have hr := hsome hs htyped
        rw [hr.isSingle.2, standardToHost_nullable hr.isSingle.1,
          standardToHost_of_represents hlater hr]
      · exact hback hh

/-- An array of arrays, one of them empty, survives: the inner tables are made before the outer one,
and each number is boxed and opened again. -/
theorem round_trip_of_nested_arrays :
    ∃ (element : ParamType) (h : HostValue) (v : Value) (t : Session),
      element = .primitive (.integer .byte) ∧
      h = .array ⟨.array element, [2],
        [.array ⟨element, [2], [.primitive (.integer .byte 5 (by decide)),
          .primitive (.integer .byte 255 (by decide))]⟩, .array ⟨element, [0], []⟩]⟩ ∧
      h.Regular ∧ h.HasType (.array (.array element)) ∧ (toScript h).run (bare 1) = (v, t) ∧
      ∀ site, t.toHost v (.array (.array element)) none site = .ok h := by
  let element : ParamType := .primitive (.integer .byte)
  let five : HostValue := .primitive (.integer .byte 5 (by decide))
  let most : HostValue := .primitive (.integer .byte 255 (by decide))
  let h : HostValue := .array ⟨.array element, [2],
    [.array ⟨element, [2], [five, most]⟩, .array ⟨element, [0], []⟩]⟩
  have hnumbers : ∀ x ∈ [five, most], x.isNull = false ∧ x.Regular ∧ x.HasType element := by
    intro x hx
    rcases List.mem_pair.mp hx with rfl | rfl
    · exact ⟨rfl, .single (fun a ha => nomatch ha), ⟨_, rfl, rfl⟩⟩
    · exact ⟨rfl, .single (fun a ha => nomatch ha), ⟨_, rfl, rfl⟩⟩
  have harrays : ∀ x ∈ [.array ⟨element, [2], [five, most]⟩, .array ⟨element, [0], []⟩],
      HostValue.isNull x = false ∧ x.Regular ∧ x.HasType (.array element) := by
    intro x hx
    rcases List.mem_pair.mp hx with rfl | rfl
    · exact ⟨rfl, .array rfl (fun y hy => (hnumbers y hy).1) (fun y hy => (hnumbers y hy).2.1),
        ⟨_, rfl, rfl, fun y hy => (hnumbers y hy).2.2⟩⟩
    · exact ⟨rfl, .array rfl (fun y hy => nomatch hy) (fun y hy => nomatch hy),
        ⟨_, rfl, rfl, fun y hy => nomatch hy⟩⟩
  have hregular : h.Regular :=
    .array rfl (fun x hx => (harrays x hx).1) (fun x hx => (harrays x hx).2.1)
  have htyped : h.HasType (.array (.array element)) :=
    ⟨_, rfl, rfl, fun x hx => (harrays x hx).2.2⟩
  have hrun : (toScript h).run (bare 1) =
      (((toScript h).run (bare 1)).1, ((toScript h).run (bare 1)).2) := (Prod.eta _).symm
  exact ⟨element, h, _, _, rfl, rfl, hregular, htyped, hrun,
    fun site => (round_trip rfl rfl hregular hrun site).1 htyped⟩

end Session

end ScriptHost
