import ScriptHost.Proofs.Border
import ScriptHost.Proofs.FlatValues
import ScriptHost.Proofs.ResultAssembly
import ScriptHost.Proofs.RoundTrip

/-!
# Sessions stay flat

What is made in a session, or put into it, is made of what is at hand: if that is flat throughout,
so is the session afterwards. Host values become script values in the same way, the raw arguments of
a call among them.

## Main definitions

* `Update.KeepsFlat u P`: on a session that is flat throughout, `u` leaves such a session and gives
  a value with `P`.
* `Action.KeepsFlat a P`: the same for actions that end, with an error too.

## Main results

* `Session.keepsFlat_toScript`: conversion to scripts.
* `Session.keepsFlat_assemble`: the value of a host method for the script.
* `Session.allFlat_new`: a new session is flat throughout.
-/

namespace ScriptHost

/-! ## Tables -/

namespace Table

theorem allFlat_empty : empty.AllFlat := by
  intro key
  rw [get_empty]
  trivial

theorem AllFlat.set {t : Table} (h : t.AllFlat) (key : Key) {v : Value} (hv : v.AllFlat) :
    (t.set key v).AllFlat := by
  intro key'
  rw [get_set]
  split
  · exact hv
  · exact h key'

theorem allFlat_ofList {vs : List Value} (h : ∀ v ∈ vs, v.AllFlat) : (ofList vs).AllFlat := by
  intro key
  rcases get_ofList_eq_nil_or_mem vs key with hnil | hmem
  · rw [hnil]
    trivial
  · exact h _ hmem

end Table

namespace Heap

theorem table_newTable_eq_or (heap : Heap) (content : Table) (t : TableId) :
    (heap.newTable content).2.table t = content ∨
      (heap.newTable content).2.table t = heap.table t := by
  simp only [table, newTable, Array.getD_eq_getD_getElem?, Array.getElem?_push]
  split
  · exact Or.inl rfl
  · exact Or.inr rfl

theorem table_setTable_eq_or (heap : Heap) (t : TableId) (content : Table) (u : TableId) :
    (heap.setTable t content).table u = content ∨
      (heap.setTable t content).table u = heap.table u := by
  simp only [table, setTable, Array.getD_eq_getD_getElem?, Array.getElem?_setIfInBounds]
  split
  · rename_i htu
    split
    · exact Or.inl rfl
    · rename_i hsize
      rw [← htu, Array.getElem?_eq_none (Nat.le_of_not_lt hsize)]
      exact Or.inr rfl
  · exact Or.inr rfl

end Heap

/-! ## Changes of a session -/

namespace Session

variable {s t : Session}

/-- Whether a session is flat throughout does not depend on anything else it has. -/
theorem AllFlat.congr (hs : s.AllFlat) (htables : t.heap.tables = s.heap.tables)
    (hassigned : t.assigned = s.assigned) (hconverters : t.converters = s.converters)
    (hmethods : t.methods = s.methods) (hinvocations : t.invocations = s.invocations) :
    t.AllFlat where
  tables := by simpa only [Heap.table, htables] using hs.tables
  assigned := by simpa only [hassigned] using hs.assigned
  toHost := by simpa only [hconverters] using hs.toHost
  toScript := by simpa only [hconverters] using hs.toScript
  methods := by simpa only [method?, hmethods] using hs.methods
  invocations := by simpa only [hinvocations] using hs.invocations

theorem AllFlat.assign (hs : s.AllFlat) (name : String) {v : Value} (hv : v.AllFlat) :
    ({ s with assigned := s.assigned.insert name v } : Session).AllFlat := by
  refine { hs with assigned := fun name' w hw => ?_ }
  dsimp only at hw
  rw [Keyed.get?_insert] at hw
  split at hw
  · rwa [← Option.some.inj hw]
  · exact hs.assigned name' w hw

end Session

/-! ## Updates -/

namespace Update

variable {α β : Type} {P : α → Prop} {Q : β → Prop}

/-- **Updates that keep a session flat**, with a property of their value. -/
def KeepsFlat (u : Update α) (P : α → Prop) : Prop :=
  ∀ s : Session, s.AllFlat → (u.run s).2.AllFlat ∧ P (u.run s).1

theorem KeepsFlat.pure {x : α} (hx : P x) : KeepsFlat (pure x) P := fun _ hs => ⟨hs, hx⟩

theorem KeepsFlat.bind {u : Update α} {f : α → Update β} (hu : KeepsFlat u P)
    (hf : ∀ x, P x → KeepsFlat (f x) Q) : KeepsFlat (u >>= f) Q := by
  intro s hs
  obtain ⟨hsession, hvalue⟩ := hu s hs
  exact hf _ hvalue _ hsession

theorem KeepsFlat.map {u : Update α} {g : α → β} (hu : KeepsFlat u P) (hg : ∀ x, P x → Q (g x)) :
    KeepsFlat (u >>= fun x => Pure.pure (g x)) Q :=
  hu.bind fun x hx => .pure (hg x hx)

theorem KeepsFlat.get {f : Session → Update β} (hf : ∀ s, s.AllFlat → KeepsFlat (f s) Q) :
    KeepsFlat (get >>= f) Q :=
  fun s hs => hf s hs s hs

theorem KeepsFlat.modify {f : Session → Session} (hf : ∀ s : Session, s.AllFlat → (f s).AllFlat) :
    KeepsFlat (modify f) fun _ => True :=
  fun s hs => ⟨hf s hs, trivial⟩

theorem KeepsFlat.mapM {f : α → Update β} {xs : List α} (hf : ∀ x ∈ xs, KeepsFlat (f x) Q) :
    KeepsFlat (xs.mapM f) fun ys => ∀ y ∈ ys, Q y := by
  induction xs with
  | nil => exact .pure (List.forall_mem_nil _)
  | cons x xs ih =>
    rw [List.mapM_cons]
    obtain ⟨hx, hxs⟩ := List.forall_mem_cons.mp hf
    refine hx.bind fun y hy => (ih hxs).map fun ys hys => ?_
    exact List.forall_mem_cons.mpr ⟨hy, hys⟩

theorem KeepsFlat.forM {f : α → Update PUnit} {xs : List α}
    (hf : ∀ x ∈ xs, KeepsFlat (f x) fun _ => True) : KeepsFlat (xs.forM f) fun _ => True := by
  induction xs with
  | nil => exact .pure trivial
  | cons x xs ih =>
    obtain ⟨hx, hxs⟩ := List.forall_mem_cons.mp hf
    exact hx.bind fun _ _ => ih hxs

theorem KeepsFlat.forIn {f : α → PUnit → Update (ForInStep PUnit)} {xs : List α}
    (hf : ∀ x ∈ xs, KeepsFlat (f x ⟨⟩) fun _ => True) :
    KeepsFlat (forIn xs PUnit.unit f) fun _ => True := by
  induction xs with
  | nil => exact .pure trivial
  | cons x xs ih =>
    rw [List.forIn_cons]
    obtain ⟨hx, hxs⟩ := List.forall_mem_cons.mp hf
    refine hx.bind fun step _ => ?_
    cases step with
    | done => exact .pure trivial
    | yield => exact ih hxs

end Update

namespace Session

open Update (KeepsFlat)

/-! ## New tables, functions and objects -/

/-- A change of the heap keeps the session flat if it keeps its tables so. -/
theorem keepsFlat_onHeap {α : Type} {f : Heap → α × Heap}
    (hf : ∀ heap : Heap, (∀ t, (heap.table t).AllFlat) → ∀ t, ((f heap).2.table t).AllFlat) :
    KeepsFlat (onHeap f) fun _ => True :=
  fun s hs => ⟨{ hs with tables := hf s.heap hs.tables }, trivial⟩

theorem keepsFlat_newStamp : KeepsFlat (onHeap Heap.newStamp) fun _ => True :=
  keepsFlat_onHeap fun _ htables => htables

theorem keepsFlat_newTable {content : Table} (hcontent : content.AllFlat) :
    KeepsFlat (newTable content) fun _ => True := by
  refine keepsFlat_onHeap fun heap htables t => ?_
  rcases heap.table_newTable_eq_or content t with htable | htable <;> rw [htable]
  · exact hcontent
  · exact htables t

theorem keepsFlat_modifyTable (t : TableId) {f : Table → Table}
    (hf : ∀ content : Table, content.AllFlat → (f content).AllFlat) :
    KeepsFlat (modifyTable t f) fun _ => True := by
  refine keepsFlat_onHeap fun heap htables u => ?_
  rcases heap.table_setTable_eq_or t (f (heap.table t)) u with htable | htable <;> rw [htable]
  · exact hf _ (htables t)
  · exact htables u

theorem keepsFlat_newFunction {name : String} {code : Code}
    (hcode : ∀ stamp, Function.AllFlat ⟨stamp, name, code⟩) :
    KeepsFlat (newFunction name code) Function.AllFlat :=
  keepsFlat_newStamp.map fun stamp _ => hcode stamp

theorem keepsFlat_newObject {payload : Payload}
    (hpayload : ∀ stamp, Object.AllFlat ⟨stamp, payload⟩) :
    KeepsFlat (newObject payload) Object.AllFlat :=
  keepsFlat_newStamp.map fun stamp _ => hpayload stamp

theorem keepsFlat_newCounter (start : Int64) : KeepsFlat (newCounter start) Object.AllFlat := by
  refine KeepsFlat.bind (keepsFlat_onHeap fun _ htables => htables) fun c _ => ?_
  exact keepsFlat_newObject fun _ => trivial

theorem keepsFlat_addCounter (c : CounterId) (n : Int64) :
    KeepsFlat (addCounter c n) fun _ => True :=
  keepsFlat_onHeap fun _ htables => htables

theorem keepsFlat_newRequest {target : Value} {args : List Value}
    {continuation handler : Option Function} (htarget : target.AllFlat)
    (hargs : ∀ v ∈ args, v.AllFlat) (hcontinuation : ∀ f, continuation = some f → f.AllFlat)
    (hhandler : ∀ f, handler = some f → f.AllFlat) :
    KeepsFlat (newRequest target args continuation handler) Value.AllFlat :=
  keepsFlat_newStamp.map fun _ _ =>
    Value.allFlat_request.mpr ⟨htarget, hargs, hcontinuation, hhandler⟩

theorem keepsFlat_addLog (e : LogEntry) : KeepsFlat (addLog e) fun _ => True :=
  KeepsFlat.modify fun _ hs => hs.congr rfl rfl rfl rfl rfl

theorem keepsFlat_noteInvocation {f : Function} {a : Arguments} (hf : f.AllFlat) (ha : a.AllFlat) :
    KeepsFlat (noteInvocation ⟨f, a⟩) fun _ => True :=
  KeepsFlat.modify fun _ hs =>
    { hs with invocations := List.forall_mem_cons.mpr ⟨⟨hf, ha⟩, hs.invocations⟩ }

theorem keepsFlat_numberTable (kind : NumericKind) :
    KeepsFlat (numberTable kind) fun _ => True := by
  have hcomparison (c : Comparison) : KeepsFlat (numberTable.comparison kind c) Value.AllFlat :=
    KeepsFlat.map (keepsFlat_newFunction fun _ => trivial) fun _ hf => hf
  refine KeepsFlat.get fun s hs => ?_
  split
  · exact .pure trivial
  · refine (hcomparison .equal).bind fun equal hequal => ?_
    refine (hcomparison .less).bind fun less hless => ?_
    refine (hcomparison .lessEqual).bind fun lessEqual hlessEqual => ?_
    have hcontent := ((Table.allFlat_empty.set (.name (comparisonEvent .equal)) hequal).set
      (.name (comparisonEvent .less)) hless).set (.name (comparisonEvent .lessEqual)) hlessEqual
    refine (keepsFlat_newTable hcontent).bind fun t _ => ?_
    refine KeepsFlat.bind (KeepsFlat.modify fun _ hs => ?_) fun _ _ => .pure trivial
    exact hs.congr rfl rfl rfl rfl rfl

theorem keepsFlat_box (p : Primitive) : KeepsFlat (box p) Value.AllFlat := by
  refine (keepsFlat_numberTable _).bind fun t _ => ?_
  exact KeepsFlat.map (keepsFlat_newObject fun _ => trivial) fun o ho =>
    Value.allFlat_userdata.mpr ho

theorem keepsFlat_ofObject {o : Object} (ho : o.AllFlat) :
    KeepsFlat (ofObject o) Value.AllFlat := by
  unfold ofObject
  split
  · exact keepsFlat_box _
  · exact .pure (Value.allFlat_userdata.mpr ho)

/-- Values that construct: an object with a metatable that has nothing but a function to call. -/
theorem keepsFlat_callable {name : String} {code : Code} {t : HostType}
    (hcode : ∀ stamp, Function.AllFlat ⟨stamp, name, code⟩) :
    KeepsFlat (do
      let f ← newFunction name code
      let metatable ← newTable (Table.empty.set (.name "__call") (.function f))
      let o ← newObject (.staticType t)
      return .userdata ⟨o, some metatable⟩) Value.AllFlat := by
  refine (keepsFlat_newFunction hcode).bind fun f hf => ?_
  have hcontent := Table.allFlat_empty.set (.name "__call") (v := .function f) hf
  refine (keepsFlat_newTable hcontent).bind fun metatable _ => ?_
  exact KeepsFlat.map (keepsFlat_newObject fun _ => trivial) fun o ho =>
    Value.allFlat_userdata.mpr ho

theorem keepsFlat_staticType (t : HostType) : KeepsFlat (staticType t) Value.AllFlat :=
  keepsFlat_callable fun _ => trivial

theorem keepsFlat_numberType (kind : NumericKind) : KeepsFlat (numberType kind) Value.AllFlat :=
  keepsFlat_callable fun _ => trivial

/-! ## Conversion to scripts -/

theorem keepsFlat_applyConverter {c : ToScriptConverter} (hc : c.AllFlat) (h : HostValue) :
    KeepsFlat (c.apply h) Value.AllFlat := by
  cases c with
  | constant v => exact .pure hc
  | formName => exact .pure trivial
  | addHalf =>
    rw [ToScriptConverter.apply]
    split <;> exact .pure trivial
  | typed t =>
    rw [ToScriptConverter.apply]
    split
    · exact .pure trivial
    · split
      · split
        · exact .get fun _ _ => .pure trivial
        · exact .pure trivial
        · split
          · exact keepsFlat_box _
          · exact .pure trivial
        · exact .pure trivial
      · exact .pure trivial

theorem mem_rows {width : Nat} {v : Value} {row : List Value} {count : Nat} {vs : List Value}
    (hrow : row ∈ rows width count vs) (hv : v ∈ row) : v ∈ vs := by
  induction count generalizing vs with
  | zero => cases hrow
  | succ count ih =>
    rcases List.mem_cons.mp hrow with rfl | hrow
    · exact List.mem_of_mem_take hv
    · exact List.mem_of_mem_drop (ih hrow)

/-- A new table of values, as a value. -/
theorem keepsFlat_tableOf {vs : List Value} (hvs : ∀ v ∈ vs, v.AllFlat) :
    KeepsFlat (newTable (.ofList vs) >>= fun t => pure (Value.table t)) Value.AllFlat :=
  (keepsFlat_newTable (Table.allFlat_ofList hvs)).map fun _ _ => trivial

/-- Nested tables are as flat as the values in them. -/
theorem keepsFlat_shape (dims : List Nat) {vs : List Value} (hvs : ∀ v ∈ vs, v.AllFlat) :
    KeepsFlat (shape dims vs) Value.AllFlat := by
  induction dims generalizing vs with
  | nil => exact keepsFlat_tableOf hvs
  | cons count dims ih =>
    cases dims with
    | nil => exact keepsFlat_tableOf hvs
    | cons d dims =>
      rw [shape]
      refine (KeepsFlat.mapM fun row hrow => ?_).bind fun inner hinner => keepsFlat_tableOf hinner
      exact ih fun v hv => hvs v (mem_rows hrow hv)

/-- A conversion to scripts by the standard rules or by a custom conversion of the session. -/
theorem keepsFlat_toScript_of_standard {h : HostValue}
    (hstandard : KeepsFlat (standardToScript h) Value.AllFlat) :
    KeepsFlat (toScript h) Value.AllFlat := by
  intro s hs
  cases hlookup : h.hostType?.bind s.converters.lookupToScript with
  | none =>
    rw [run_toScript_of_standard hlookup]
    exact hstandard s hs
  | some c =>
    obtain ⟨t, -, hc⟩ := Option.bind_eq_some_iff.mp hlookup
    rw [toScript.eq_def, Update.run_get_bind, hlookup]
    exact keepsFlat_applyConverter (hs.toScript t c hc) h s hs

-- An array is converted item by item, so values and lists of values go together.
mutual

/-- Conversion to scripts keeps values flat. -/
theorem keepsFlat_toScript : (h : HostValue) → h.AllFlat → KeepsFlat (toScript h) Value.AllFlat
  | .array ⟨element, dims, items⟩, hh => by
    refine keepsFlat_toScript_of_standard ?_
    refine (keepsFlat_toScriptAll items (HostValue.allFlat_array.mp hh)).bind fun vs hvs => ?_
    exact keepsFlat_shape dims hvs
  | .void, _ | .null, _ | .bool _, _ | .number _, _ | .text _, _ | .script, _ | .context, _ =>
    keepsFlat_toScript_of_standard (.pure trivial)
  | .dynamic _, hh => keepsFlat_toScript_of_standard (.pure hh)
  | .arguments _, hh =>
    keepsFlat_toScript_of_standard
      (.pure (Value.allFlat_ofList (HostValue.allFlat_arguments.mp hh)))
  | .primitive p, _ => keepsFlat_toScript_of_standard (keepsFlat_box p)
  | .object _, hh => keepsFlat_toScript_of_standard (keepsFlat_ofObject hh)
  | .type t, _ => keepsFlat_toScript_of_standard (keepsFlat_staticType t)

theorem keepsFlat_toScriptAll : (hs : List HostValue) → (∀ h ∈ hs, h.AllFlat) →
    KeepsFlat (toScriptAll hs) fun vs => ∀ v ∈ vs, v.AllFlat
  | [], _ => by
    rw [toScriptAll]
    exact .pure (List.forall_mem_nil _)
  | h :: hs, hall => by
    obtain ⟨hh, hhs⟩ := List.forall_mem_cons.mp hall
    rw [toScriptAll]
    refine (keepsFlat_toScript h hh).bind fun v hv => ?_
    refine (keepsFlat_toScriptAll hs hhs).map fun vs hvs => ?_
    exact List.forall_mem_cons.mpr ⟨hv, hvs⟩

end

/-- The value of a host method for the script is flat if what the host code returned is. -/
theorem keepsFlat_assemble (m : Method) {result : HostValue} {args : List HostValue}
    (hresult : result.AllFlat) (hargs : ∀ h ∈ args, h.AllFlat) :
    KeepsFlat (assemble m result args) Value.AllFlat := by
  -- A position without an argument reads null, which is flat.
  have houts (indices : List Nat) :
      KeepsFlat (outValues args indices) fun vs => ∀ v ∈ vs, v.AllFlat := by
    rw [outValues_eq]
    refine keepsFlat_toScriptAll _ fun h hh => ?_
    obtain ⟨i, -, rfl⟩ := List.mem_map.mp hh
    exact HostCall.AllFlat.arg (c := ⟨none, [], args⟩) ⟨by simp, hargs⟩ i
  have htuple {primary : List Value} (hprimary : ∀ v ∈ primary, v.AllFlat) (indices : List Nat) :
      KeepsFlat (outValues args indices >>= fun outs => pure (.ofList (primary ++ outs)))
        Value.AllFlat := by
    refine (houts indices).map fun outs houts => Value.allFlat_ofList fun v hv => ?_
    exact (List.mem_append.mp hv).elim (hprimary v) (houts v)
  unfold assemble
  split
  · exact keepsFlat_toScript result hresult
  · cases result with
    | void => exact htuple (List.forall_mem_nil _) _
    | _ =>
      refine (keepsFlat_toScript _ hresult).bind fun v hv => htuple ?_ _
      exact List.forall_mem_singleton.mpr hv

/-! ## Methods -/

theorem keepsFlat_proxy? (o : Object) :
    KeepsFlat (proxy? o) fun view => ∀ o', view = some o' → o'.AllFlat := by
  refine KeepsFlat.get fun s _ => ?_
  split
  · split
    · refine KeepsFlat.map (keepsFlat_newObject fun _ => trivial) fun view hview o' ho' => ?_
      rwa [← Option.some.inj ho']
    · exact .pure (by simp)
  · exact .pure (by simp)

/-- The receiver of a member is flat throughout if the object is. -/
theorem keepsFlat_memberTarget {o : Object} (ho : o.AllFlat) :
    KeepsFlat (memberTarget o) fun r => ∀ o', r.2 = some o' → o'.AllFlat := by
  unfold memberTarget
  split
  · exact .pure (by simp)
  · refine (keepsFlat_proxy? o).bind fun view hview => ?_
    cases view with
    | some view => exact .pure hview
    | none =>
      refine .pure fun o' ho' => ?_
      rwa [← Option.some.inj ho']

/-- Keeping the plan of a method leaves the defaults as they are. -/
theorem keepsFlat_bindingPlan (id : MethodId) {slot : MethodSlot}
    (hslot : ∀ p ∈ slot.method.parameters, p.AllFlat) :
    KeepsFlat (bindingPlan id slot) fun _ => True := by
  intro s hs
  rcases run_bindingPlan_cases id slot s with hrun | ⟨-, hrun⟩ <;> rw [hrun]
  · exact ⟨hs, trivial⟩
  · -- The slot that keeps the plan has the same method, and the others are as they were.
    refine ⟨{ hs with methods := fun id' slot' hslot' => ?_ }, trivial⟩
    unfold method? at hslot'
    dsimp only at hslot'
    rw [Array.getElem?_setIfInBounds] at hslot'
    split at hslot'
    · split at hslot'
      · obtain rfl := Option.some.inj hslot'
        exact hslot
      · cases hslot'
    · exact hs.methods id' slot' hslot'

/-! ## New sessions -/

theorem allFlat_bare (capacity : Nat) : (bare capacity).AllFlat where
  tables t := by
    have htable : (bare capacity).heap.table t = .empty := by
      obtain ⟨_ | i⟩ := t <;> simp [bare, Heap.table]
    rw [htable]
    exact Table.allFlat_empty
  assigned := by simp [bare]
  toHost := by simp [bare, Converters.empty]
  toScript := by simp [bare, Converters.empty]
  methods := by simp [bare, method?]
  invocations := by simp [bare]

theorem keepsFlat_setGlobal (name : String) {v : Value} (hv : v.AllFlat) :
    KeepsFlat (setGlobal name v) fun _ => True := by
  refine KeepsFlat.get fun s _ => keepsFlat_modifyTable _ fun content hcontent => ?_
  exact hcontent.set _ hv

theorem keepsFlat_installStandard (m : Module) : KeepsFlat (installStandard m) fun _ => True := by
  unfold installStandard
  refine KeepsFlat.bind (KeepsFlat.forIn fun f _ => ?_) fun _ _ => KeepsFlat.forIn fun kind _ => ?_
  · refine KeepsFlat.bind (keepsFlat_newFunction fun _ => trivial) fun g hg => ?_
    exact (keepsFlat_setGlobal _ (v := .function g) hg).bind fun _ _ => .pure trivial
  · refine (keepsFlat_numberType kind).bind fun v hv => ?_
    exact (keepsFlat_setGlobal _ hv).bind fun _ _ => .pure trivial

/-- **A new session** is flat throughout. -/
theorem allFlat_new (capacity : Nat) : (new capacity).AllFlat :=
  (KeepsFlat.forM (fun m _ => keepsFlat_installStandard m) _ (allFlat_bare capacity)).1

end Session

/-! ## Actions -/

namespace Action

variable {α β : Type} {P : α → Prop} {Q : β → Prop}

/-- **Actions that keep a session flat**: where they end, the outcome is flat throughout too, and a
value has the property asked for. -/
def KeepsFlat (a : Action α) (P : α → Prop) : Prop :=
  ∀ ⦃s o t⦄, s.AllFlat → a.Ends s o t → t.AllFlat ∧ OutcomeAllFlat P o

theorem KeepsFlat.pure {x : α} (hx : P x) : KeepsFlat (pure x) P := by
  intro s o t hs hends
  obtain ⟨rfl, rfl⟩ := ends_pure.mp hends
  exact ⟨hs, hx⟩

theorem KeepsFlat.fail {e : ScriptError} (he : e.toValue.AllFlat) :
    KeepsFlat (fail e : Action α) P := by
  intro s o t hs hends
  obtain ⟨rfl, rfl⟩ := ends_fail.mp hends
  exact ⟨hs, he⟩

theorem KeepsFlat.exhausted : KeepsFlat (throw .exhausted : Action α) P :=
  fun _ _ _ _ hends => absurd hends not_ends_exhausted

theorem KeepsFlat.ofExcept {r : Except ScriptError α} (hr : OutcomeAllFlat P r) :
    KeepsFlat (ofExcept r) P := by
  intro s o t hs hends
  obtain ⟨rfl, rfl⟩ := ends_ofExcept.mp hends
  exact ⟨hs, hr⟩

theorem KeepsFlat.lift {u : Update α} (hu : u.KeepsFlat P) : KeepsFlat (liftM u) P := by
  intro s o t hs hends
  obtain ⟨ho, rfl⟩ := Prod.mk.inj (ends_iff_exec_eq.mp hends)
  obtain ⟨hsession, hvalue⟩ := hu s hs
  refine ⟨hsession, ?_⟩
  cases o with
  | ok x => rwa [← Except.ok.inj ho]
  | error e => cases ho

/-- A sequence keeps sessions flat if its actions do, the second for every value that the first
may give. -/
theorem KeepsFlat.bind {a : Action α} {f : α → Action β} (ha : KeepsFlat a P)
    (hf : ∀ x, P x → KeepsFlat (f x) Q) : KeepsFlat (a >>= f) Q := by
  intro s o t hs hends
  rcases ends_bind_iff.mp hends with ⟨x, u, hx, hrest⟩ | ⟨e, herror, rfl⟩
  · obtain ⟨hu, hvalue⟩ := ha hs hx
    exact hf x hvalue hu hrest
  · exact ha hs herror

theorem KeepsFlat.map {a : Action α} {g : α → β} (ha : KeepsFlat a P) (hg : ∀ x, P x → Q (g x)) :
    KeepsFlat (a >>= fun x => Pure.pure (g x)) Q :=
  ha.bind fun x hx => .pure (hg x hx)

theorem KeepsFlat.get {f : Session → Action β} (hf : ∀ s, s.AllFlat → KeepsFlat (f s) Q) :
    KeepsFlat (get >>= f) Q :=
  fun s _ _ hs hends => hf s hs hs (ends_get_bind.mp hends)

theorem KeepsFlat.modify {f : Session → Session} (hf : ∀ s : Session, s.AllFlat → (f s).AllFlat) :
    KeepsFlat (modify f : Action PUnit) fun _ => True :=
  .lift (Update.KeepsFlat.modify hf)

theorem KeepsFlat.set {s : Session} (hs : s.AllFlat) :
    KeepsFlat (set s : Action PUnit) fun _ => True :=
  .modify fun _ _ => hs

theorem KeepsFlat.attempt {a : Action α} (ha : KeepsFlat a P) :
    KeepsFlat a.attempt (OutcomeAllFlat P) := by
  intro s o t hs hends
  obtain ⟨o', rfl, hends'⟩ := ends_attempt.mp hends
  exact ha hs hends'

end Action

end ScriptHost
