import ScriptHost.Proofs.PlainBinding

/-!
# Values that are flat throughout

A tuple is flat if no tuple stands in it. More than its items stands in a value: requests hold a
target and arguments, functions hold the object they are a method of, and objects hold arrays of
host values, which may again be script values. All of it can come back to a script, so all of it has
to be flat for tuples to stay so.

## Main definitions

* `Value.AllFlat`, `HostValue.AllFlat`: nothing that stands in the value is a tuple in a tuple.
* `OutcomeAllFlat`: a flat value of the right sort, or an error with a flat value.
* `Session.AllFlat`: everything that a session holds is flat throughout.

## Main results

* `Value.allFlat_ofList`: tuples made of such values.
* `Session.flat_standardToHost`, `Session.flat_toHost`: conversion to the host.
* `Session.flat_bind`: what the host code of a method is called with.
-/

namespace ScriptHost

/-! ## Flat throughout -/

mutual

/-- **Script values that are flat throughout.** -/
def Value.AllFlat : Value → Prop
  | .tuple items => (Value.tuple items).Flat ∧ Value.ListAllFlat items
  | .function f => f.AllFlat
  | .userdata ⟨o, _⟩ => o.AllFlat
  | .request ⟨_, target, args, continuation, handler⟩ =>
    target.AllFlat ∧ Value.ListAllFlat args ∧ Function.OptionAllFlat continuation ∧
      Function.OptionAllFlat handler
  | .nil | .bool _ | .number _ | .string _ | .table _ => True

/-- Lists of such values. -/
def Value.ListAllFlat : List Value → Prop
  | [] => True
  | v :: vs => v.AllFlat ∧ Value.ListAllFlat vs

/-- Functions whose receiver, if they are methods, is flat throughout. -/
def Function.AllFlat : Function → Prop
  | ⟨_, _, .method _ (some o)⟩ => o.AllFlat
  | _ => True

/-- Such functions, or none. -/
def Function.OptionAllFlat : Option Function → Prop
  | some f => f.AllFlat
  | none => True

/-- Objects that are flat throughout. -/
def Object.AllFlat : Object → Prop
  | ⟨_, .array ⟨_, _, items⟩⟩ => HostValue.ListAllFlat items
  | _ => True

/-- **Host values that are flat throughout.** -/
def HostValue.AllFlat : HostValue → Prop
  | .object o => o.AllFlat
  | .array ⟨_, _, items⟩ => HostValue.ListAllFlat items
  | .dynamic v => v.AllFlat
  | .arguments ⟨values, _⟩ => Value.ListAllFlat values
  | .void | .null | .bool _ | .number _ | .primitive _ | .text _ | .type _ | .script | .context =>
    True

/-- Lists of such values. -/
def HostValue.ListAllFlat : List HostValue → Prop
  | [] => True
  | h :: hs => h.AllFlat ∧ HostValue.ListAllFlat hs

end

/-- Arguments that are flat throughout. -/
def Arguments.AllFlat (a : Arguments) : Prop := ∀ v ∈ a.values, v.AllFlat

theorem Value.listAllFlat_iff {vs : List Value} : ListAllFlat vs ↔ ∀ v ∈ vs, v.AllFlat := by
  induction vs with
  | nil => simp [ListAllFlat]
  | cons v vs ih => simp [ListAllFlat, ih]

theorem HostValue.listAllFlat_iff {hs : List HostValue} :
    ListAllFlat hs ↔ ∀ h ∈ hs, h.AllFlat := by
  induction hs with
  | nil => simp [ListAllFlat]
  | cons h hs ih => simp [ListAllFlat, ih]

theorem Function.optionAllFlat_iff {f? : Option Function} :
    OptionAllFlat f? ↔ ∀ f, f? = some f → f.AllFlat := by
  cases f? <;> simp [OptionAllFlat]

/-- Only the items of an array can be anything but flat in an object. -/
theorem Object.allFlat_iff {o : Object} :
    o.AllFlat ↔ ∀ a, o.array? = some a → ∀ item ∈ a.items, item.AllFlat := by
  obtain ⟨stamp, payload⟩ := o
  cases payload with
  | array a =>
    obtain ⟨element, dims, items⟩ := a
    simp [AllFlat, array?, HostValue.listAllFlat_iff]
  | _ => simp [AllFlat, array?]

theorem HostValue.allFlat_array {a : HostArray} :
    (array a).AllFlat ↔ ∀ item ∈ a.items, item.AllFlat := by
  obtain ⟨element, dims, items⟩ := a
  simp [AllFlat, listAllFlat_iff]

theorem HostValue.allFlat_arguments {a : Arguments} : (arguments a).AllFlat ↔ a.AllFlat := by
  obtain ⟨values, isMethodCall⟩ := a
  simp [AllFlat, Value.listAllFlat_iff, Arguments.AllFlat]

theorem Function.allFlat_method {stamp : Nat} {name : String} {overloads : List MethodId}
    {receiver : Option Object} :
    AllFlat ⟨stamp, name, .method overloads receiver⟩ ↔ ∀ o, receiver = some o → o.AllFlat := by
  cases receiver <;> simp [AllFlat]

/-! ## Script values -/

namespace Value

variable {v : Value} {vs : List Value}

theorem allFlat_tuple :
    (tuple vs).AllFlat ↔ (tuple vs).Flat ∧ ∀ v ∈ vs, v.AllFlat := by
  simp [AllFlat, listAllFlat_iff]

theorem allFlat_userdata {u : UserData} : (userdata u).AllFlat ↔ u.object.AllFlat := by
  obtain ⟨object, metatable⟩ := u
  simp [AllFlat]

theorem allFlat_request {r : Request} :
    (request r).AllFlat ↔ r.target.AllFlat ∧ (∀ v ∈ r.args, v.AllFlat) ∧
      (∀ f, r.continuation = some f → f.AllFlat) ∧ ∀ f, r.handler = some f → f.AllFlat := by
  obtain ⟨stamp, target, args, continuation, handler⟩ := r
  simp [AllFlat, listAllFlat_iff, Function.optionAllFlat_iff]

theorem AllFlat.flat (h : v.AllFlat) : v.Flat := by
  cases v with
  | tuple items => exact (allFlat_tuple.mp h).1
  | _ => trivial

theorem AllFlat.isTuple_first (h : v.AllFlat) : v.first.isTuple = false := h.flat.isTuple_first

theorem AllFlat.first (h : v.AllFlat) : v.first.AllFlat := by
  match v with
  | tuple [] => trivial
  | tuple (w :: ws) => exact (allFlat_tuple.mp h).2 w List.mem_cons_self
  | nil | bool _ | number _ | string _ | table _ | function _ | userdata _ | request _ => exact h

theorem AllFlat.function? (h : v.AllFlat) {f : Function} (hf : v.function? = some f) :
    f.AllFlat := by
  cases v with
  | function g =>
    obtain rfl := Option.some.inj hf
    exact h
  | _ => cases hf

theorem AllFlat.object? (h : v.AllFlat) {o : Object} (ho : v.object? = some o) : o.AllFlat := by
  cases v with
  | userdata u =>
    obtain rfl := Option.some.inj ho
    exact allFlat_userdata.mp h
  | _ => cases ho

/-- Tuples made of values that are flat throughout are so. -/
theorem allFlat_ofList (h : ∀ v ∈ vs, v.AllFlat) : (ofList vs).AllFlat := by
  refine allFlat_tuple.mpr ⟨flat_ofList fun v hv => (h v hv).flat, ?_⟩
  intro w hw
  obtain ⟨v, hv, ⟨rfl, -⟩ | ⟨ws, rfl, hws⟩⟩ := exists_of_mem_ofList rfl hw
  · exact h v hv
  · exact (allFlat_tuple.mp (h _ hv)).2 w hws

theorem allFlat_getD {v? : Option Value} (h : ∀ v, v? = some v → v.AllFlat) :
    (v?.getD .nil).AllFlat := by
  cases v? with
  | none => trivial
  | some v => exact h v rfl

/-- What the host finds natural for a single value is flat if the value is. -/
theorem AllFlat.natural (h : v.AllFlat) (hv : v.isTuple = false) : v.natural.AllFlat := by
  cases v with
  | tuple items => cases hv
  | userdata u =>
    obtain ⟨⟨stamp, payload⟩, metatable⟩ := u
    cases payload with
    | array a => exact HostValue.allFlat_array.mpr (Object.allFlat_iff.mp h a rfl)
    | _ => exact h
  | _ => exact h

end Value

/-! ## Arguments -/

namespace Arguments

variable {a : Arguments}

theorem allFlat_none : none.AllFlat := by
  intro v hv
  cases hv

theorem allFlat_ofList {vs : List Value} (h : ∀ v ∈ vs, v.AllFlat) (isMethodCall : Bool) :
    (ofList vs isMethodCall).AllFlat := by
  unfold ofList
  split
  · rename_i items hlast
    intro v hv
    rcases List.mem_append.mp hv with hv | hv
    · exact h v ((List.dropLast_sublist vs).subset hv)
    · exact (Value.allFlat_tuple.mp (h _ (List.mem_of_getLast? hlast))).2 v hv
  · exact h

theorem AllFlat.raw? (h : a.AllFlat) {i : Nat} {v : Value} (hv : a.raw? i = some v) : v.AllFlat :=
  h v (List.mem_of_getElem? hv)

theorem AllFlat.get (h : a.AllFlat) (i : Nat) : (a.get i).AllFlat := by
  refine Value.allFlat_getD fun v hv => ?_
  obtain ⟨w, hw, rfl⟩ := Option.map_eq_some_iff.mp hv
  exact (h.raw? hw).first

theorem AllFlat.skipReceiver (h : a.AllFlat) : a.skipReceiver.AllFlat := by
  unfold Arguments.skipReceiver
  split
  · exact fun v hv => h v (List.mem_of_mem_drop hv)
  · exact h

end Arguments

/-! ## Outcomes -/

/-- Outcomes that are flat throughout: a value as asked for, or an error whose value is flat
throughout. -/
def OutcomeAllFlat {α : Type} (P : α → Prop) : Except ScriptError α → Prop
  | .ok x => P x
  | .error e => e.toValue.AllFlat

theorem ScriptError.allFlat_ofNumeric (e : Numeric.Fault) :
    (ScriptError.ofNumeric e).toValue.AllFlat := by
  cases e <;> trivial

namespace OutcomeAllFlat

variable {α β : Type} {P : α → Prop} {Q : β → Prop}

theorem pure {x : α} (hx : P x) : OutcomeAllFlat P (pure x) := hx

theorem bind {r : Except ScriptError α} {f : α → Except ScriptError β} (hr : OutcomeAllFlat P r)
    (hf : ∀ x, P x → OutcomeAllFlat Q (f x)) : OutcomeAllFlat Q (r >>= f) := by
  cases r with
  | ok x => exact hf x hr
  | error e => exact hr

theorem map {r : Except ScriptError α} {f : α → β} (hr : OutcomeAllFlat P r)
    (hf : ∀ x, P x → Q (f x)) : OutcomeAllFlat Q (r.map f) := by
  cases r with
  | ok x => exact hf x hr
  | error e => exact hr

theorem mapM {f : α → Except ScriptError β} {xs : List α} (hf : ∀ x ∈ xs, OutcomeAllFlat Q (f x)) :
    OutcomeAllFlat (fun ys => ∀ y ∈ ys, Q y) (xs.mapM f) := by
  induction xs with
  | nil =>
    intro y hy
    cases hy
  | cons x xs ih =>
    rw [List.mapM_cons]
    obtain ⟨hx, hxs⟩ := List.forall_mem_cons.mp hf
    refine hx.bind fun y hy => (ih hxs).bind fun ys hys => ?_
    exact List.forall_mem_cons.mpr ⟨hy, hys⟩

end OutcomeAllFlat

/-! ## Calls of host code -/

/-- Calls of host code that are flat throughout. -/
structure HostCall.AllFlat (c : HostCall) : Prop where
  receiver : ∀ o, c.receiver = some o → o.AllFlat
  args : ∀ h ∈ c.args, h.AllFlat

theorem HostCall.AllFlat.arg {c : HostCall} (h : c.AllFlat) (i : Nat) : (c.arg i).AllFlat := by
  rw [HostCall.arg, List.getD_eq_getElem?_getD]
  cases hi : c.args[i]? with
  | none => trivial
  | some x => exact h.args x (List.mem_of_getElem? hi)

/-- Answers of host code that are flat throughout. -/
def HostReply.AllFlat : HostReply → Prop
  | returned result args => result.AllFlat ∧ ∀ h ∈ args, h.AllFlat
  | failed _ => True

/-- Parameters whose default is flat throughout. -/
def Parameter.AllFlat (p : Parameter) : Prop := ∀ d, p.default = some d → d.AllFlat

/-! ## Sessions -/

/-- Tables whose entries are flat throughout. -/
def Table.AllFlat (t : Table) : Prop := ∀ key, (t.get key).AllFlat

/-- Custom conversions to the host that keep values flat. -/
def ToHostConverter.KeepsFlat (c : ToHostConverter) : Prop :=
  ∀ v h, v.AllFlat → c.apply v = some h → h.AllFlat

/-- Custom conversions to scripts whose answer is flat. -/
def ToScriptConverter.AllFlat : ToScriptConverter → Prop
  | constant v => v.AllFlat
  | formName | addHalf | typed _ => True

/-- **Sessions that are flat throughout**: so are the entries of tables, the variables, the defaults
of methods and what functions were called on, and the custom conversions give nothing else. -/
structure Session.AllFlat (s : Session) : Prop where
  tables : ∀ t, (s.heap.table t).AllFlat
  assigned : ∀ name v, s.assigned.get? name = some v → v.AllFlat
  toHost : ∀ key c, s.converters.toHost.get? key = some c → c.converter.KeepsFlat
  toScript : ∀ t c, s.converters.toScript.get? t = some c → c.AllFlat
  methods : ∀ id slot, s.method? id = some slot → ∀ p ∈ slot.method.parameters, p.AllFlat
  invocations : ∀ i ∈ s.invocations, i.function.AllFlat ∧ i.arguments.AllFlat

namespace Session

variable {s : Session}

theorem AllFlat.metamethod? (hs : s.AllFlat) {v m : Value} {event : String}
    (hm : s.heap.metamethod? v event = some m) : m.AllFlat := by
  obtain ⟨t, -, hfound⟩ := Option.bind_eq_some_iff.mp hm
  dsimp only at hfound
  split at hfound
  · cases hfound
  · rw [← Option.some.inj hfound]
    exact hs.tables t _

theorem AllFlat.arrayValues (hs : s.AllFlat) {t : TableId} {item : Value}
    (hitem : item ∈ (s.heap.table t).arrayValues) : item.AllFlat := by
  obtain ⟨i, -, rfl⟩ := List.mem_map.mp hitem
  exact hs.tables t _

/-! ## Conversion to the host -/

theorem allFlat_customToHost? (hs : s.AllFlat) {type : ParamType} {v : Value} {h : HostValue}
    (hv : v.AllFlat) (hh : s.customToHost? type v = some h) : h.AllFlat := by
  obtain ⟨c, hc, hanswer⟩ := Option.bind_eq_some_iff.mp hh
  obtain ⟨t, -, hlookup⟩ := Option.bind_eq_some_iff.mp hc
  unfold Converters.lookupToHost at hlookup
  split at hlookup
  · cases hlookup
  · rename_i entry hentry
    have hc : entry.converter = c := by
      split at hlookup
      · exact Option.some.inj hlookup
      · split at hlookup
        · exact Option.some.inj hlookup
        · cases hlookup
    rw [← hc] at hanswer
    exact hs.toHost _ entry hentry v h hv hanswer

/-- The whole conversion keeps values flat if the default is flat and the standard rules keep
values flat. -/
theorem flat_toHost_of_standard (hs : s.AllFlat) {v : Value} {type : ParamType}
    {default : Option HostValue} {site : Site} (hv : v.AllFlat)
    (hdefault : ∀ d, default = some d → d.AllFlat)
    (hstandard : OutcomeAllFlat HostValue.AllFlat (s.standardToHost site type v.first)) :
    OutcomeAllFlat HostValue.AllFlat (s.toHost v type default site) := by
  cases hcustom : s.customToHost? type v.first with
  | some h =>
    rw [toHost_of_custom hcustom]
    exact allFlat_customToHost? hs hv.first hcustom
  | none =>
    by_cases hnone : v.first = .nil → default = none
    · rw [toHost_of_standard hcustom hnone]
      exact hstandard
    · obtain ⟨hnil, hsome⟩ := Classical.not_imp.mp hnone
      obtain ⟨d, rfl⟩ := Option.ne_none_iff_exists'.mp hsome
      rw [toHost_of_default hcustom hnil]
      exact hdefault d rfl

theorem flat_primitiveResult (r : Except Numeric.Fault Primitive) :
    OutcomeAllFlat HostValue.AllFlat (primitiveResult r) := by
  cases r with
  | ok p => trivial
  | error e => exact ScriptError.allFlat_ofNumeric e

/-- **The standard rules** keep values flat. -/
theorem flat_standardToHost (hs : s.AllFlat) (site : Site) (type : ParamType) {v : Value}
    (hv : v.isTuple = false) (hflat : v.AllFlat) :
    OutcomeAllFlat HostValue.AllFlat (s.standardToHost site type v) := by
  induction type generalizing v with
  | dynamic => exact hflat
  | any | generic => exact hflat.natural hv
  | bool => trivial
  | number | string | typeToken =>
    rw [standardToHost]
    split <;> trivial
  | primitive kind =>
    rw [standardToHost.eq_def]
    dsimp only
    split
    · exact flat_primitiveResult _
    · split
      · exact flat_primitiveResult _
      · trivial
  | object t =>
    cases v with
    | userdata u =>
      rw [standardToHost]
      split
      · exact Value.allFlat_userdata.mp hflat
      · trivial
    | _ => trivial
  | table => cases v <;> trivial
  | function =>
    cases v with
    | function f => exact hflat
    | _ => trivial
  | nullable inner ih =>
    cases v with
    | nil => trivial
    | _ => exact ih hv hflat
  | array element ih =>
    cases v with
    | table t =>
      -- The items are converted by all rules, and they are entries of a table of the session.
      rw [standardToHost_table]
      refine (OutcomeAllFlat.mapM (Q := HostValue.AllFlat) fun item hitem => ?_).map
        fun items hitems => HostValue.allFlat_array.mpr hitems
      have hentry := hs.arrayValues hitem
      exact flat_toHost_of_standard hs hentry (by simp)
        (ih hentry.isTuple_first hentry.first)
    | userdata u =>
      rw [standardToHost]
      split
      · rename_i a ha
        split
        · exact HostValue.allFlat_array.mpr
            (Object.allFlat_iff.mp (Value.allFlat_userdata.mp hflat) a ha)
        · trivial
      · trivial
    | _ => trivial
  | script | context | arguments | pointer => trivial

/-- **The whole conversion** keeps values flat. -/
theorem flat_toHost (hs : s.AllFlat) {v : Value} {type : ParamType} {default : Option HostValue}
    {site : Site} (hv : v.AllFlat) (hdefault : ∀ d, default = some d → d.AllFlat) :
    OutcomeAllFlat HostValue.AllFlat (s.toHost v type default site) :=
  flat_toHost_of_standard hs hv hdefault
    (flat_standardToHost hs site type hv.isTuple_first hv.first)

/-! ## Binding -/

section

variable (hs : s.AllFlat) {m : Method} {a : Arguments} (ha : a.AllFlat)
include hs ha

theorem flat_convertArgument (cursor : Nat) {p : Parameter} (hp : p.AllFlat)
    (typeArgs : List HostType) :
    OutcomeAllFlat HostValue.AllFlat (s.convertArgument m a cursor p typeArgs) :=
  flat_toHost hs (Value.allFlat_getD fun _ hv => ha.raw? hv) hp

theorem flat_collectVariadic (cursor : Nat) (p : Parameter) (typeArgs : List HostType) :
    OutcomeAllFlat HostValue.AllFlat (s.collectVariadic m a cursor p typeArgs) := by
  have hextra : ∀ v ∈ a.values.drop cursor, v.AllFlat := fun v hv => ha v (List.mem_of_mem_drop hv)
  unfold collectVariadic
  generalize a.values.drop cursor = extra at hextra
  simp only [convertEach_eq_mapM]
  split
  · rename_i given hgiven
    split at hgiven
    · have hobject := Value.allFlat_userdata.mp (hextra _ List.mem_cons_self)
      have harray := (Option.filter_eq_some_iff.mp hgiven).1
      exact HostValue.allFlat_array.mpr (Object.allFlat_iff.mp hobject given harray)
    · cases hgiven
  · refine (OutcomeAllFlat.mapM (Q := HostValue.AllFlat) fun q hq => ?_).bind
      fun items hitems => .pure (HostValue.allFlat_array.mpr hitems)
    exact flat_toHost hs (hextra q.1 (List.fst_mem_of_mem_zipIdx hq)) (by simp)

/-- Binding gives values that are flat throughout. -/
theorem flat_bindFrom {receiver : Option Object} (hreceiver : ∀ o, receiver = some o → o.AllFlat)
    (cursor : Nat) (typeArgs : List HostType) {bound : List HostValue}
    (hbound : ∀ h ∈ bound, h.AllFlat) {routes : List (Parameter × Binding)}
    (hroutes : ∀ r ∈ routes, r.1.AllFlat) :
    OutcomeAllFlat (fun r => ∀ h ∈ r.2, h.AllFlat)
      (s.bindFrom m receiver a cursor typeArgs bound routes) := by
  induction routes generalizing cursor typeArgs bound with
  | nil => exact fun h hh => hbound h (List.mem_reverse.mp hh)
  | cons route rest ih =>
    obtain ⟨p, b⟩ := route
    obtain ⟨hp, hrest⟩ := List.forall_mem_cons.mp hroutes
    -- One more flat value is bound, and the rest of the parameters follow.
    have hstep (cursor : Nat) {h : HostValue} (hh : h.AllFlat) :
        OutcomeAllFlat (fun r => ∀ h ∈ r.2, h.AllFlat)
          (s.bindFrom m receiver a cursor typeArgs (h :: bound) rest) :=
      ih cursor typeArgs (List.forall_mem_cons.mpr ⟨hh, hbound⟩) hrest
    have hargument := flat_convertArgument hs ha (m := m) cursor hp typeArgs
    cases b with
    | typeSlot =>
      rw [bindFrom]
      split
      · exact ih _ _ hbound hrest
      · trivial
    | script | context | out => exact hstep cursor trivial
    | arguments => exact hstep cursor (HostValue.allFlat_arguments.mpr ha.skipReceiver)
    | extensionReceiver =>
      cases receiver with
      | some o => exact hstep cursor (hreceiver o rfl)
      | none =>
        rw [bindFrom_cons (by simp) (by simp)]
        exact hargument.bind fun h hh => hstep _ hh
    | convert =>
      rw [bindFrom_cons (by simp) (by simp)]
      exact hargument.bind fun h hh => hstep _ hh
    | variadic =>
      -- Nothing says that this is the last parameter, so the rule for one step does not apply.
      have hvariadic := flat_collectVariadic hs ha (m := m) cursor p typeArgs
      rw [bindFrom]
      split
      · rename_i h hh
        rw [hh] at hvariadic
        exact hstep _ hvariadic
      · rename_i e he
        rw [he] at hvariadic
        exact hvariadic

/-- **The call** that a method's host code gets is flat throughout. -/
theorem flat_bind {receiver : Option Object} (hreceiver : ∀ o, receiver = some o → o.AllFlat)
    (hm : ∀ p ∈ m.parameters, p.AllFlat) (plan : List Binding) :
    OutcomeAllFlat HostCall.AllFlat (s.bind m plan receiver a) := by
  have hroutes : ∀ r ∈ m.parameters.zip plan, r.1.AllFlat :=
    fun r hr => hm r.1 (List.of_mem_zip hr).1
  refine (flat_bindFrom hs ha hreceiver _ [] (List.forall_mem_nil _) hroutes).bind fun r hr => ?_
  refine ⟨fun o ho => ?_, hr⟩
  dsimp only at ho
  split at ho
  · cases ho
  · exact hreceiver o ho

end

end Session

end ScriptHost
