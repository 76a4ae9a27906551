import ScriptHost.Proofs.Outcome
import ScriptHost.Builtin
import ScriptHost.Member
import ScriptHost.Program.Eval

/-!
# Quiet and calm computations

Most of what programs do to a session concerns the heap, the methods, the variables and the log.
Such computations leave alone what calls are accounted with, and how they run does not depend on
whether errors leave the outermost call as failures of the host. Nor does it depend on which methods
have their plan kept: plans are kept as calls are made, and never change what a call does. The record
of calls is written and never read, so it does not matter what was called before.

## Main definitions

* `Session.control`: the call depth, its budget and the settings.
* `Session.withRethrow`, `Session.reflected`, `Session.after`: the session with another choice for
  the errors that leave the outermost call, with every plan made anew for every call, and with calls
  recorded that were made before.
* `Disguise`, `Session.under`: these changes.
* `Session.Advances`: plans of methods may be kept, and nothing else happens to methods.
* `Update.Quiet`, `Action.Quiet`: computations that keep the control part and do not look at the
  rule for the outermost call.
* `Update.Calm`, `Action.Calm`: quiet computations that do not look at kept plans either.

## Main results

* `Update.Calm.bind`, `Update.Calm.get`: sequences and readings.
* `calm_toScript`, `calm_member`, `calm_builtin`: the computations of the host boundary and of the
  built-in functions are calm.
-/

namespace ScriptHost

/-- What calls are accounted with. -/
structure Control where
  capacity : Nat
  depth : CallDepth
  settings : Settings

/-- The method with its plan made anew for every call. -/
def Method.reflected (m : Method) : Method := { m with mode := .reflection }

/-- The method with its plan made anew for every call, so that none is kept. -/
def MethodSlot.reflected (slot : MethodSlot) : MethodSlot := .fresh slot.method.reflected

/-- **What happens to a method**: its plan may be kept, unless it is made anew for every call. -/
def MethodSlot.Advances (slot later : MethodSlot) : Prop :=
  later = slot ∨ (slot.method.mode ≠ .reflection ∧ later = .optimized slot.method)

/-- **What computations do not notice**: another choice for the errors that leave the outermost
call, plans that are made anew for every call, and calls that were made before. -/
inductive Disguise where
  | rethrow (b : Bool)
  | reflection
  | earlier (calls : List Invocation)

namespace Disguise

def rethrowNested : Disguise → Bool → Bool
  | rethrow b, _ => b
  | reflection, b | earlier _, b => b

def methods : Disguise → Array MethodSlot → Array MethodSlot
  | rethrow _, slots | earlier _, slots => slots
  | reflection, slots => slots.map MethodSlot.reflected

def invocations : Disguise → List Invocation → List Invocation
  | rethrow _, calls | reflection, calls => calls
  | earlier before, calls => calls ++ before

theorem invocations_cons (d : Disguise) (i : Invocation) (calls : List Invocation) :
    d.invocations (i :: calls) = i :: d.invocations calls := by
  cases d <;> rfl

end Disguise

namespace Session

/-- **The control part** of a session. -/
def control (s : Session) : Control := ⟨s.capacity, s.depth, s.settings⟩

theorem depth_eq_of_control_eq {s t : Session} (h : t.control = s.control) : t.depth = s.depth :=
  congrArg Control.depth h

/-- The session with another choice for the errors that leave the outermost call. -/
def withRethrow (s : Session) (b : Bool) : Session :=
  { s with settings := { s.settings with rethrowNested := b } }

/-- **The session with every plan made anew** for every call. -/
def reflected (s : Session) : Session := { s with methods := s.methods.map MethodSlot.reflected }

/-- **The session after calls** that were made before those it records. -/
def after (s : Session) (calls : List Invocation) : Session :=
  { s with invocations := s.invocations ++ calls }

/-- The session under a disguise. -/
def under (s : Session) (d : Disguise) : Session :=
  { s with
    settings := { s.settings with rethrowNested := d.rethrowNested s.settings.rethrowNested }
    methods := d.methods s.methods
    invocations := d.invocations s.invocations }

theorem under_rethrow (s : Session) (b : Bool) : s.under (.rethrow b) = s.withRethrow b := rfl

theorem under_reflection (s : Session) : s.under .reflection = s.reflected := rfl

/-- What happens to the methods of a session. -/
def Advances (s t : Session) : Prop :=
  ∀ id slot, s.method? id = some slot → ∃ later, t.method? id = some later ∧ slot.Advances later

theorem Advances.refl (s : Session) : s.Advances s :=
  fun _ slot h => ⟨slot, h, Or.inl rfl⟩

theorem Advances.trans {s t u : Session} (h : s.Advances t) (h' : t.Advances u) :
    s.Advances u := by
  intro id slot hslot
  obtain ⟨later, hlater, hadvances⟩ := h id slot hslot
  obtain ⟨latest, hlatest, hadvances'⟩ := h' id later hlater
  refine ⟨latest, hlatest, ?_⟩
  rcases hadvances with rfl | ⟨hmode, rfl⟩
  · exact hadvances'
  · -- The plan is kept already, and keeping it once more changes nothing.
    rcases hadvances' with rfl | ⟨-, rfl⟩ <;> exact Or.inr ⟨hmode, rfl⟩

/-! ## Methods under a disguise -/

theorem method?_reflected (s : Session) (id : MethodId) :
    s.reflected.method? id = (s.method? id).map MethodSlot.reflected := by
  unfold method? reflected
  rw [Array.getElem?_map]

theorem isStaticMethod_under (s : Session) (d : Disguise) (id : MethodId) :
    (s.under d).isStaticMethod id = s.isStaticMethod id := by
  cases d with
  | rethrow _ | earlier _ => rfl
  | reflection =>
    unfold isStaticMethod
    rw [under_reflection, method?_reflected]
    cases s.method? id <;> rfl

theorem methodName_under (s : Session) (d : Disguise) (id : MethodId) :
    (s.under d).methodName id = s.methodName id := by
  cases d with
  | rethrow _ | earlier _ => rfl
  | reflection =>
    unfold methodName
    rw [under_reflection, method?_reflected]
    cases s.method? id <;> rfl

theorem selectOverload_under (s : Session) (d : Disguise) (overloads : List MethodId) (argc : Nat)
    (hasReceiver : Bool) :
    (s.under d).selectOverload overloads argc hasReceiver =
      s.selectOverload overloads argc hasReceiver := by
  cases d with
  | rethrow _ | earlier _ => rfl
  | reflection =>
    unfold selectOverload
    refine congrArg (fun takes => (overloads.find? takes).or overloads.head?) (funext fun id => ?_)
    rw [under_reflection, method?_reflected]
    cases s.method? id <;> rfl

end Session

namespace Update

variable {α β : Type}

/-- Quiet updates keep the control part and do not look at the rule for the outermost call. -/
structure Quiet (u : Update α) : Prop where
  keeps : ∀ s, (u.run s).2.control = s.control
  ignores : ∀ s b, u.run (s.withRethrow b) = ((u.run s).1, (u.run s).2.withRethrow b)

theorem Quiet.pure (x : α) : Quiet (pure x : Update α) := ⟨fun _ => rfl, fun _ _ => rfl⟩

theorem Quiet.bind {u : Update α} {f : α → Update β} (hu : Quiet u) (hf : ∀ x, Quiet (f x)) :
    Quiet (u >>= f) := by
  constructor
  · intro s
    exact ((hf (u.run s).1).keeps (u.run s).2).trans (hu.keeps s)
  · intro s b
    show (f (u.run (s.withRethrow b)).1).run (u.run (s.withRethrow b)).2 = _
    rw [hu.ignores s b]
    exact (hf (u.run s).1).ignores (u.run s).2 b

/-- Calm updates keep the control part, do nothing to methods but keep their plans, and do not
notice a disguise. -/
structure Calm (u : Update α) : Prop where
  keeps : ∀ s, (u.run s).2.control = s.control
  advances : ∀ s : Session, s.Advances (u.run s).2
  ignores : ∀ s d, u.run (s.under d) = ((u.run s).1, (u.run s).2.under d)

theorem Calm.quiet {u : Update α} (h : Calm u) : Quiet u :=
  ⟨h.keeps, fun s b => h.ignores s (.rethrow b)⟩

theorem Calm.pure (x : α) : Calm (pure x : Update α) :=
  ⟨fun _ => rfl, Session.Advances.refl, fun _ _ => rfl⟩

theorem Calm.bind {u : Update α} {f : α → Update β} (hu : Calm u) (hf : ∀ x, Calm (f x)) :
    Calm (u >>= f) := by
  refine ⟨fun s => ?_, fun s => ?_, fun s d => ?_⟩
  · exact ((hf (u.run s).1).keeps (u.run s).2).trans (hu.keeps s)
  · exact (hu.advances s).trans ((hf (u.run s).1).advances (u.run s).2)
  · show (f (u.run (s.under d)).1).run (u.run (s.under d)).2 = _
    rw [hu.ignores s d]
    exact (hf (u.run s).1).ignores (u.run s).2 d

theorem run_get_bind (f : Session → Update β) (s : Session) :
    (get >>= f : Update β).run s = (f s).run s := rfl

/-- What is read of the session must not be what a disguise changes. -/
theorem Calm.get {f : Session → Update β} (hf : ∀ s, Calm (f s))
    (hread : ∀ s d, f (s.under d) = f s) : Calm (get >>= f) := by
  refine ⟨fun s => (hf s).keeps s, fun s => (hf s).advances s, fun s d => ?_⟩
  show (f (s.under d)).run (s.under d) = _
  rw [hread s d]
  exact (hf s).ignores s d

theorem Calm.modify {f : Session → Session} (hkeeps : ∀ s, (f s).control = s.control)
    (hmethods : ∀ s, (f s).methods = s.methods)
    (hignores : ∀ s d, f (s.under d) = (f s).under d) :
    Calm (modify f : Update PUnit) := by
  refine ⟨hkeeps, fun s id slot hslot => ⟨slot, ?_, Or.inl rfl⟩, fun s d => ?_⟩
  · show (f s).methods[id.index]? = some slot
    rw [hmethods]
    exact hslot
  · exact congrArg (Prod.mk PUnit.unit) (hignores s d)

theorem Calm.mapM {f : α → Update β} (hf : ∀ x, Calm (f x)) (xs : List α) :
    Calm (xs.mapM f) := by
  induction xs with
  | nil => exact Calm.pure []
  | cons x xs ih =>
    rw [List.mapM_cons]
    exact (hf x).bind fun _ => ih.bind fun _ => Calm.pure _

end Update

namespace Session

open Update (Calm)

theorem calm_onHeap {α : Type} (f : Heap → α × Heap) : Calm (onHeap f) :=
  ⟨fun _ => rfl, fun s => Advances.refl s, fun _ _ => rfl⟩

theorem calm_newTable (content : Table) : Calm (newTable content) := calm_onHeap _

theorem calm_modifyTable (t : TableId) (f : Table → Table) : Calm (modifyTable t f) :=
  calm_onHeap _

theorem calm_newFunction (name : String) (code : Code) : Calm (newFunction name code) :=
  (calm_onHeap _).bind fun _ => Calm.pure _

theorem calm_newObject (payload : Payload) : Calm (newObject payload) :=
  (calm_onHeap _).bind fun _ => Calm.pure _

theorem calm_newCounter (start : Int64) : Calm (newCounter start) :=
  (calm_onHeap _).bind fun _ => calm_newObject _

theorem calm_newRequest (target : Value) (args : List Value) (k h : Option Function) :
    Calm (newRequest target args k h) :=
  (calm_onHeap _).bind fun _ => Calm.pure _

theorem calm_addLog (e : LogEntry) : Calm (addLog e) :=
  Calm.modify (fun _ => rfl) (fun _ => rfl) fun _ _ => rfl

theorem quiet_addLog (e : LogEntry) : Update.Quiet (addLog e) := (calm_addLog e).quiet

theorem calm_noteInvocation (i : Invocation) : Calm (noteInvocation i) := by
  refine Calm.modify (fun _ => rfl) (fun _ => rfl) fun s d => ?_
  simp only [under, Disguise.invocations_cons]

theorem calm_comparison (kind : NumericKind) (c : Comparison) :
    Calm (numberTable.comparison kind c) :=
  (calm_newFunction _ _).bind fun _ => Calm.pure _

theorem calm_numberTable (kind : NumericKind) : Calm (numberTable kind) := by
  refine Calm.get (fun s => ?_) fun _ _ => rfl
  split
  · exact Calm.pure _
  · refine (calm_comparison kind .equal).bind fun equal => ?_
    refine (calm_comparison kind .less).bind fun less => ?_
    refine (calm_comparison kind .lessEqual).bind fun lessEqual => ?_
    refine (calm_newTable _).bind fun t => ?_
    refine Calm.bind (Calm.modify ?_ ?_ ?_) fun _ => Calm.pure t
    · exact fun _ => rfl
    · exact fun _ => rfl
    · exact fun _ _ => rfl

theorem calm_box (p : Primitive) : Calm (box p) :=
  (calm_numberTable _).bind fun _ => (calm_newObject _).bind fun _ => Calm.pure _

theorem calm_ofObject (o : Object) : Calm (ofObject o) := by
  unfold ofObject
  split
  · exact calm_box _
  · exact Calm.pure _

theorem calm_staticType (t : HostType) : Calm (staticType t) :=
  (calm_newFunction _ _).bind fun _ => (calm_newTable _).bind fun _ =>
    (calm_newObject _).bind fun _ => Calm.pure _

theorem calm_proxy? (o : Object) : Calm (proxy? o) := by
  refine Calm.get (fun s => ?_) fun _ _ => rfl
  split
  · split
    · exact (calm_newObject _).bind fun _ => Calm.pure _
    · exact Calm.pure _
  · exact Calm.pure _

theorem calm_memberTarget (o : Object) : Calm (memberTarget o) := by
  unfold memberTarget
  split
  · exact Calm.pure _
  · refine (calm_proxy? o).bind fun view => ?_
    split <;> exact Calm.pure _

/-! ## Conversion to the host

The conversion reads the heap and the custom conversions only, and so does binding. -/

section

variable {s t : Session} (hheap : t.heap = s.heap) (hconverters : t.converters = s.converters)

include hconverters

theorem customToHost?_congr (type : ParamType) (v : Value) :
    t.customToHost? type v = s.customToHost? type v := by
  unfold customToHost?
  rw [hconverters]

include hheap

theorem standardToHost_congr (site : Site) (type : ParamType) (v : Value) :
    t.standardToHost site type v = s.standardToHost site type v := by
  induction type generalizing v with
  | nullable inner ih =>
    simp only [standardToHost, ih]
  | array element ih =>
    simp only [standardToHost, ih, customToHost?_congr hconverters, hheap]
  | _ => simp only [standardToHost]

theorem toHost_congr (v : Value) (type : ParamType) (default : Option HostValue) (site : Site) :
    t.toHost v type default site = s.toHost v type default site := by
  simp only [toHost, standardToHost_congr hheap hconverters, customToHost?_congr hconverters]

theorem convertEach_congr (function : String) (element : ParamType) (i : Nat) (vs : List Value) :
    t.convertEach function element i vs = s.convertEach function element i vs := by
  induction vs generalizing i with
  | nil => rfl
  | cons v vs ih => simp only [convertEach, toHost_congr hheap hconverters, ih]

theorem bindFrom_congr (m : Method) (receiver : Option Object) (a : Arguments) (cursor : Nat)
    (typeArgs : List HostType) (bound : List HostValue) (rest : List (Parameter × Binding)) :
    t.bindFrom m receiver a cursor typeArgs bound rest =
      s.bindFrom m receiver a cursor typeArgs bound rest := by
  induction rest generalizing cursor typeArgs bound with
  | nil => rfl
  | cons p rest ih =>
    obtain ⟨p, binding⟩ := p
    cases binding <;>
      simp only [bindFrom, convertArgument, collectVariadic, toHost_congr hheap hconverters,
        convertEach_congr hheap hconverters, ih]

theorem bind_congr (m : Method) (plan : List Binding) (receiver : Option Object) (a : Arguments) :
    t.bind m plan receiver a = s.bind m plan receiver a := by
  simp only [Session.bind, bindFrom_congr hheap hconverters]

end

/-! ## Conversion to scripts -/

theorem calm_applyConverter (h : HostValue) (c : ToScriptConverter) : Calm (c.apply h) := by
  cases c with
  | constant v => exact Calm.pure v
  | formName => exact Calm.pure _
  | addHalf =>
    simp only [ToScriptConverter.apply]
    split <;> exact Calm.pure _
  | typed t =>
    simp only [ToScriptConverter.apply]
    split
    · exact Calm.pure _
    · split
      · split
        · exact Calm.get (fun s => Calm.pure _) fun _ _ => rfl
        · exact Calm.pure _
        · split
          · exact calm_box _
          · exact Calm.pure _
        · exact Calm.pure _
      · exact Calm.pure _

theorem calm_shape (dims : List Nat) (vs : List Value) : Calm (shape dims vs) := by
  induction dims generalizing vs with
  | nil => exact (calm_newTable _).bind fun _ => Calm.pure _
  | cons count dims ih =>
    cases dims with
    | nil => exact (calm_newTable _).bind fun _ => Calm.pure _
    | cons d dims =>
      simp only [shape]
      refine (Calm.mapM (fun row => ih row) _).bind fun inner => ?_
      exact (calm_newTable _).bind fun _ => Calm.pure _

/-- A custom conversion comes first, and neither it nor the standard one is anything but calm. -/
theorem calm_customOr (h : HostValue) {standard : Update Value} (hstandard : Calm standard) :
    Calm (do
      match h.hostType?.bind (← get).converters.lookupToScript with
      | some c => c.apply h
      | none => standard) := by
  refine Calm.get (fun s => ?_) fun _ _ => rfl
  split
  · exact calm_applyConverter _ _
  · exact hstandard

mutual

theorem calm_toScript : (h : HostValue) → Calm (toScript h)
  | .array ⟨element, dims, items⟩ => by
    rw [toScript]
    exact calm_customOr _ ((calm_toScriptAll items).bind fun vs => calm_shape dims vs)
  | .void => by
    rw [toScript]
    exact calm_customOr .void (Calm.pure _)
  | .null => by
    rw [toScript]
    exact calm_customOr .null (Calm.pure _)
  | .bool _ | .number _ | .text _ | .dynamic _ | .arguments _ | .script | .context => by
    rw [toScript]
    exact calm_customOr _ (Calm.pure _)
  | .primitive p => by
    rw [toScript]
    exact calm_customOr _ (calm_box p)
  | .object o => by
    rw [toScript]
    exact calm_customOr _ (calm_ofObject o)
  | .type t => by
    rw [toScript]
    exact calm_customOr _ (calm_staticType t)

theorem calm_toScriptAll : (hs : List HostValue) → Calm (toScriptAll hs)
  | [] => by
    rw [toScriptAll]
    exact Calm.pure []
  | h :: hs => by
    rw [toScriptAll]
    exact (calm_toScript h).bind fun _ => (calm_toScriptAll hs).bind fun _ => Calm.pure _

end

theorem calm_outValues (args : List HostValue) (indices : List Nat) :
    Calm (outValues args indices) := by
  induction indices with
  | nil => exact Calm.pure []
  | cons i rest ih =>
    rw [outValues]
    exact (calm_toScript _).bind fun _ => ih.bind fun _ => Calm.pure _

theorem calm_assemble (m : Method) (result : HostValue) (args : List HostValue) :
    Calm (assemble m result args) := by
  have hrest (primary : List Value) : Calm (do
      let outs ← outValues args m.outIndices
      return Value.ofList (primary ++ outs)) :=
    (calm_outValues args m.outIndices).bind fun _ => Calm.pure _
  unfold assemble
  split
  · exact calm_toScript result
  · split
    · exact (Calm.pure []).bind hrest
    · exact (calm_toScript _).bind fun v => (Calm.pure [v]).bind hrest

end Session

/-! ## Quiet and calm actions -/

namespace Action

variable {α β : Type}

/-- Quiet actions, whatever their outcome. -/
def Quiet (a : Action α) : Prop := Update.Quiet a.run

theorem Quiet.control_eq {a : Action α} (h : a.Quiet) (s : Session) :
    (a.exec s).2.control = s.control :=
  h.keeps s

theorem Quiet.exec_withRethrow {a : Action α} (h : a.Quiet) (s : Session) (b : Bool) :
    a.exec (s.withRethrow b) = ((a.exec s).1, (a.exec s).2.withRethrow b) :=
  h.ignores s b

/-- Calm actions, whatever their outcome. -/
def Calm (a : Action α) : Prop := Update.Calm a.run

theorem Calm.quiet {a : Action α} (h : a.Calm) : a.Quiet := Update.Calm.quiet h

theorem Calm.pure (x : α) : (pure x : Action α).Calm := Update.Calm.pure _

theorem Calm.fail (e : ScriptError) : (fail e : Action α).Calm := Update.Calm.pure _

theorem Quiet.pure (x : α) : (pure x : Action α).Quiet := (Calm.pure x).quiet

theorem Quiet.lift {u : Update α} (h : Update.Quiet u) : (liftM u : Action α).Quiet :=
  h.bind fun _ => Update.Quiet.pure _

theorem Calm.lift {u : Update α} (h : Update.Calm u) : (liftM u : Action α).Calm :=
  h.bind fun _ => Update.Calm.pure _

theorem Calm.modify {f : Session → Session} (hkeeps : ∀ s, (f s).control = s.control)
    (hmethods : ∀ s, (f s).methods = s.methods)
    (hignores : ∀ s d, f (s.under d) = (f s).under d) :
    (modify f : Action PUnit).Calm :=
  Calm.lift (Update.Calm.modify hkeeps hmethods hignores)

theorem Calm.ofExcept (r : Except ScriptError α) : (ofExcept r).Calm := by
  cases r with
  | ok x => exact Calm.pure x
  | error e => exact Calm.fail e

theorem Quiet.ofExcept (r : Except ScriptError α) : (ofExcept r).Quiet := (Calm.ofExcept r).quiet

theorem Calm.bind {a : Action α} {f : α → Action β} (ha : a.Calm) (hf : ∀ x, (f x).Calm) :
    (a >>= f).Calm := by
  have hcont (r : Except Interrupt α) : Update.Calm (ExceptT.bindCont f r) := by
    cases r with
    | ok x => exact hf x
    | error i => exact Update.Calm.pure _
  exact Update.Calm.bind ha hcont

theorem Calm.get {f : Session → Action β} (hf : ∀ s, (f s).Calm)
    (hread : ∀ s d, f (s.under d) = f s) : (get >>= f : Action β).Calm := by
  refine ⟨fun s => (hf s).keeps s, fun s => (hf s).advances s, fun s d => ?_⟩
  show (f (s.under d)).exec (s.under d) = _
  rw [hread s d]
  exact (hf s).ignores s d

theorem calm_readPrimitive (kind : NumericKind) (numeral : String) :
    (readPrimitive kind numeral).Calm := by
  unfold readPrimitive
  split
  · exact Calm.pure _
  · exact Calm.fail _

theorem calm_make (o : ObjectExpr) : o.make.Calm := by
  cases o with
  | counter start => exact Calm.lift (Session.calm_newCounter _)
  | primitive kind numeral =>
    exact (calm_readPrimitive kind numeral).bind fun p => Calm.lift (Session.calm_newObject _)
  | account | accountView | blank | text | int32 => exact Calm.lift (Session.calm_newObject _)

/-- Looking up a member calls nothing. -/
theorem calm_member (target : Value) (name : String) : (Session.member target name).Calm := by
  unfold Session.member
  split
  · exact Calm.fail _
  · refine (Calm.lift (Session.calm_memberTarget _)).bind fun target => ?_
    refine Calm.get (fun s => ?_) fun s d => ?_
    · dsimp only
      generalize (if target.2.isNone = true then _ else _) = overloads
      cases overloads with
      | nil => exact Calm.fail _
      | cons first rest =>
        exact (Calm.lift (Session.calm_newFunction _ _)).bind fun _ => Calm.pure _
    · have hstatic : (s.under d).isStaticMethod = s.isStaticMethod :=
        funext (s.isStaticMethod_under d)
      simp only [hstatic, Session.methodName_under]
      rfl

theorem calm_registeredType (t : HostType) : (Session.registeredType t).Calm := by
  refine Calm.get (fun s => ?_) fun _ _ => rfl
  split
  · exact Calm.lift (Session.calm_staticType t)
  · exact Calm.fail _

theorem calm_needArguments (function : String) (n : Nat) (a : Arguments) :
    (needArguments function n a).Calm := by
  unfold needArguments
  split
  · exact Calm.fail _
  · exact Calm.pure _

/-- A built-in function calls nothing by itself; a protected call only asks for a call. -/
theorem calm_builtin (b : Builtin) (a : Arguments) : (b.run a).Calm := by
  cases b with
  | type => exact (calm_needArguments _ _ a).bind fun _ => Calm.pure _
  | tostring => exact (calm_needArguments _ _ a).bind fun _ => Calm.pure _
  | tonumber => exact (calm_needArguments _ _ a).bind fun _ => Calm.ofExcept _
  | pcall =>
    simp only [Builtin.run]
    split
    · exact Calm.fail _
    · exact Calm.lift (Session.calm_newRequest _ _ _ _)
  | error => exact (calm_needArguments _ _ a).bind fun _ => Calm.fail _
  | pcallContinuation => exact Calm.pure _
  | pcallHandler => exact Calm.pure _

theorem calm_makeNumber (kind : NumericKind) (a : Arguments) :
    (Session.makeNumber kind a).Calm :=
  (Calm.ofExcept _).bind fun p => Calm.lift (Session.calm_box p)

end Action

end ScriptHost
