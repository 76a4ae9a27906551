import ScriptHost.Proofs.FlatSessions
import ScriptHost.Call.Script

/-!
# Programs keep tuples flat

Everything a function does is made of new values, readings of the session, and calls back into the
script. If those calls keep sessions flat, so does the function, whatever program or host code it
runs.

## Main definitions

* `CallsKeepFlat call`: calls by way of `call` keep sessions flat.
* `Reentry.KeepsFlat`: both ways back into the script do.
* `HostKeepsFlat host`: so does host code.

## Main results

* `keepsFlat_eval`, `keepsFlat_evalHost`, `keepsFlat_evalFault`: programs.
* `Session.keepsFlat_execute`: calls of host methods, whatever host code they run.
* `keepsFlat_run`: functions.
-/

namespace ScriptHost

open ScriptHost.Action (KeepsFlat)

/-- **Calls that keep sessions flat** for a target and arguments that are flat throughout. -/
def CallsKeepFlat (call : Value → List Value → Action Value) : Prop :=
  ∀ target args, target.AllFlat → (∀ v ∈ args, v.AllFlat) →
    KeepsFlat (call target args) Value.AllFlat

/-- Ways back into the script that keep sessions flat. -/
structure Reentry.KeepsFlat (re : Reentry) : Prop where
  call : CallsKeepFlat re.call
  process : CallsKeepFlat re.process

/-- Host code that keeps sessions flat and answers with values that are flat throughout. -/
def HostKeepsFlat (host : Method → HostCall → Action HostReply) : Prop :=
  ∀ m c, c.AllFlat → KeepsFlat (host m c) HostReply.AllFlat

/-! ## Operators -/

section

variable {call : Value → List Value → Action Value} (hcall : CallsKeepFlat call) {l r : Value}
  (hl : l.AllFlat) (hr : r.AllFlat)

/-- What is done with the metamethod of one of two values, if there is one. -/
theorem keepsFlat_metamethodOf_bind {β : Type} {Q : β → Prop} {event : String} {l r : Value}
    {f : Option Value → Action β} (hsome : ∀ m, m.AllFlat → KeepsFlat (f (some m)) Q)
    (hnone : KeepsFlat (f none) Q) : KeepsFlat (metamethodOf event l r >>= f) Q := by
  have hfound : KeepsFlat (metamethodOf event l r) fun m => ∀ v, m = some v → v.AllFlat := by
    refine .get fun s hs => .pure fun v hv => ?_
    rcases Option.or_eq_some_iff.mp hv with hleft | ⟨-, hright⟩
    · exact hs.metamethod? hleft
    · exact hs.metamethod? hright
  refine hfound.bind fun m hm => ?_
  cases m with
  | some m => exact hsome m (hm m rfl)
  | none => exact hnone

include hcall hl hr

/-- A metamethod is called with both operands. -/
theorem keepsFlat_callMetamethod {m : Value} (hm : m.AllFlat) :
    KeepsFlat (call m [l, r]) Value.AllFlat :=
  hcall m [l, r] hm (by simp [hl, hr])

theorem keepsFlat_arithmetic (ops : Operators) (op : Arithmetic) :
    KeepsFlat (ops.eval call op l r) Value.AllFlat := by
  unfold Operators.eval
  split
  · exact .fail trivial
  · split
    · exact .pure trivial
    · refine keepsFlat_metamethodOf_bind (fun m hm => ?_) (.fail trivial)
      exact (keepsFlat_callMetamethod hcall hl hr hm).map fun _ hv => hv.first

theorem keepsFlat_concat : KeepsFlat (Session.concat call l r) Value.AllFlat := by
  unfold Session.concat
  split
  · exact .pure trivial
  · refine keepsFlat_metamethodOf_bind (fun m hm => ?_) (.fail trivial)
    exact (keepsFlat_callMetamethod hcall hl hr hm).map fun _ hv => hv.first

theorem keepsFlat_equals : KeepsFlat (Session.equals call l r) fun _ => True := by
  unfold Session.equals
  split
  · exact .pure trivial
  · split
    · exact .pure trivial
    · refine keepsFlat_metamethodOf_bind (fun m hm => ?_) (.pure trivial)
      exact (keepsFlat_callMetamethod hcall hl hr hm).map fun _ _ => trivial

theorem keepsFlat_lessThan : KeepsFlat (Session.lessThan call l r) fun _ => True := by
  unfold Session.lessThan
  split
  · exact .pure trivial
  · exact .pure trivial
  · refine keepsFlat_metamethodOf_bind (fun m hm => ?_) (.fail trivial)
    exact (keepsFlat_callMetamethod hcall hl hr hm).map fun _ _ => trivial

theorem keepsFlat_lessEqual : KeepsFlat (Session.lessEqual call l r) fun _ => True := by
  unfold Session.lessEqual
  split
  · exact .pure trivial
  · exact .pure trivial
  · refine keepsFlat_metamethodOf_bind (fun m hm => ?_) ?_
    · exact (keepsFlat_callMetamethod hcall hl hr hm).map fun _ _ => trivial
    · refine keepsFlat_metamethodOf_bind (fun m hm => ?_) (.fail trivial)
      exact (keepsFlat_callMetamethod hcall hr hl hm).map fun _ _ => trivial

end

section

variable {re : Reentry} (hre : re.KeepsFlat)
include hre

theorem keepsFlat_negate {v : Value} (hv : v.AllFlat) :
    KeepsFlat (Session.negate re.call v) Value.AllFlat := by
  unfold Session.negate
  split
  · exact .pure trivial
  · refine .get fun s hs => ?_
    split
    · rename_i m hm
      have hcalled := keepsFlat_callMetamethod hre.call hv hv (hs.metamethod? hm)
      exact hcalled.map fun _ hw => hw.first
    · exact .fail trivial

theorem keepsFlat_unary {v : Value} (hv : v.AllFlat) (op : UnaryOp) :
    KeepsFlat (op.apply re v) Value.AllFlat := by
  cases op with
  | negate => exact keepsFlat_negate hre hv
  | first => exact .pure hv.first
  | truthy | print | typeName | kindName => exact .pure trivial
  | toNumber | toText =>
    refine .pure (Value.allFlat_getD fun w hw => ?_)
    obtain ⟨x, -, rfl⟩ := Option.map_eq_some_iff.mp hw
    trivial
  | getMetatable =>
    refine .get fun s _ => .pure (Value.allFlat_getD fun w hw => ?_)
    obtain ⟨t, -, rfl⟩ := Option.map_eq_some_iff.mp hw
    trivial
  | metamethod event =>
    exact .get fun s hs => .pure (Value.allFlat_getD fun w hw => hs.metamethod? hw)

theorem keepsFlat_binary {l r : Value} (hl : l.AllFlat) (hr : r.AllFlat) (op : BinaryOp) :
    KeepsFlat (op.apply re l r) Value.AllFlat := by
  cases op with
  | arithmetic op => exact keepsFlat_arithmetic hre.call hl hr _ op
  | concat => exact keepsFlat_concat hre.call hl hr
  | equal => exact (keepsFlat_equals hre.call hl hr).map fun _ _ => trivial
  | less => exact (keepsFlat_lessThan hre.call hl hr).map fun _ _ => trivial
  | lessEqual => exact (keepsFlat_lessEqual hre.call hl hr).map fun _ _ => trivial
  | rawEqual => exact .pure trivial

theorem keepsFlat_callGlobal (name : String) {args : List Value} (hargs : ∀ v ∈ args, v.AllFlat) :
    KeepsFlat (Session.callGlobal re name args) Value.AllFlat := by
  unfold Session.callGlobal
  refine .get fun s hs => ?_
  split
  · exact .fail trivial
  · exact hre.call _ args (hs.tables _ _) hargs

end

/-! ## New objects and members -/

theorem keepsFlat_readPrimitive (kind : NumericKind) (numeral : String) :
    KeepsFlat (readPrimitive kind numeral) fun _ => True := by
  unfold readPrimitive
  split
  · exact .pure trivial
  · rename_i e _
    exact .fail (ScriptError.allFlat_ofNumeric e)

theorem keepsFlat_make (o : ObjectExpr) : KeepsFlat o.make Object.AllFlat := by
  cases o with
  | counter start => exact .lift (Session.keepsFlat_newCounter _)
  | primitive kind numeral =>
    refine (keepsFlat_readPrimitive kind numeral).bind fun p _ => ?_
    exact .lift (Session.keepsFlat_newObject fun _ => trivial)
  | account | accountView | blank | text | int32 =>
    exact .lift (Session.keepsFlat_newObject fun _ => trivial)

theorem keepsFlat_registeredType (t : HostType) :
    KeepsFlat (Session.registeredType t) Value.AllFlat := by
  refine .get fun s _ => ?_
  split
  · exact .lift (Session.keepsFlat_staticType t)
  · exact .fail trivial

/-- The function for a member holds the receiver. -/
theorem keepsFlat_member {v : Value} (hv : v.AllFlat) (name : String) :
    KeepsFlat (Session.member v name) Value.AllFlat := by
  unfold Session.member
  split
  · exact .fail trivial
  · rename_i o ho
    refine KeepsFlat.bind (.lift (Session.keepsFlat_memberTarget (hv.object? ho))) fun r hr => ?_
    obtain ⟨t, receiver⟩ := r
    refine .get fun s _ => ?_
    dsimp only
    split
    · exact .fail trivial
    · refine KeepsFlat.map (.lift (Session.keepsFlat_newFunction fun stamp => ?_)) fun _ hf => hf
      exact Function.allFlat_method.mpr hr

theorem allFlat_makeArray (element : ParamType) (dims : Option (List Nat)) {items : List HostValue}
    (hitems : ∀ h ∈ items, h.AllFlat) :
    (HostValue.array (makeArray element dims items)).AllFlat := by
  cases dims <;> exact HostValue.allFlat_array.mpr hitems

/-! ## Programs -/

section

variable {re : Reentry} {a : Arguments}

-- One case for each form of a program, with the parts in the order in which they are evaluated.
mutual

/-- Programs keep sessions flat. -/
theorem keepsFlat_eval (hre : re.KeepsFlat) (ha : a.AllFlat) :
    (e : Expr) → KeepsFlat (e.eval re a) Value.AllFlat
  | .nil | .bool _ | .number _ | .string _ | .argumentCount | .isMethodCall => by
    simp only [Expr.eval]
    exact .pure trivial
  | .variable name => by
    simp only [Expr.eval]
    exact .get fun s hs => .pure (Value.allFlat_getD (hs.assigned name))
  | .assign name e => by
    simp only [Expr.eval]
    refine (keepsFlat_eval hre ha e).bind fun v hv => ?_
    exact KeepsFlat.bind (.modify fun s hs => hs.assign name hv) fun _ _ => .pure hv
  | .globals | .depth => by
    simp only [Expr.eval]
    exact .get fun _ _ => .pure trivial
  | .global name => by
    simp only [Expr.eval]
    exact .get fun s hs => .pure (hs.tables _ _)
  | .assignGlobal name e => by
    simp only [Expr.eval]
    refine (keepsFlat_eval hre ha e).bind fun v hv => .get fun s _ => ?_
    refine KeepsFlat.map (.lift (Session.keepsFlat_modifyTable _ fun content hcontent => ?_))
      fun _ _ => hv
    exact hcontent.set _ hv
  | .tuple es => by
    simp only [Expr.eval]
    exact (keepsFlat_evalAll hre ha es).map fun _ hvs => Value.allFlat_ofList hvs
  | .table items fields metatable => by
    simp only [Expr.eval]
    refine (keepsFlat_evalAll hre ha items).bind fun vs hvs => ?_
    have hitems := Table.allFlat_ofList hvs
    refine (keepsFlat_evalFields hre ha fields _ hitems).bind fun content hcontent => ?_
    refine (keepsFlat_eval hre ha metatable).bind fun m _ => ?_
    exact KeepsFlat.map (.lift (Session.keepsFlat_newTable hcontent)) fun _ _ => trivial
  | .function name body => by
    simp only [Expr.eval]
    exact KeepsFlat.map (.lift (Session.keepsFlat_newFunction fun _ => trivial)) fun _ hf => hf
  | .primitive kind numeral => by
    simp only [Expr.eval]
    exact (keepsFlat_readPrimitive kind numeral).bind fun p _ => .lift (Session.keepsFlat_box p)
  | .object o => by
    simp only [Expr.eval]
    exact (keepsFlat_make o).bind fun o ho => .lift (Session.keepsFlat_ofObject ho)
  | .rawObject o => by
    simp only [Expr.eval]
    exact (keepsFlat_make o).map fun o ho => Value.allFlat_userdata.mpr ho
  | .metaObject metatable o => by
    simp only [Expr.eval]
    refine (keepsFlat_eval hre ha metatable).bind fun m _ => ?_
    exact (keepsFlat_make o).map fun o ho => Value.allFlat_userdata.mpr ho
  | .hostArray element dims items => by
    simp only [Expr.eval]
    refine (keepsFlat_evalHostAll hre ha items).bind fun hs hhs => ?_
    have harray := HostValue.allFlat_array.mp (allFlat_makeArray element dims hhs)
    refine KeepsFlat.map (.lift (Session.keepsFlat_newObject fun stamp => ?_)) fun o ho =>
      Value.allFlat_userdata.mpr ho
    exact Object.allFlat_iff.mpr fun a ha => Option.some.inj ha ▸ harray
  | .staticType t => by
    simp only [Expr.eval]
    exact .lift (Session.keepsFlat_staticType t)
  | .registeredType t => by
    simp only [Expr.eval]
    exact keepsFlat_registeredType t
  | .request target args continuation handler => by
    simp only [Expr.eval]
    refine (keepsFlat_eval hre ha target).bind fun f hf => ?_
    refine (keepsFlat_evalAll hre ha args).bind fun vs hvs => ?_
    refine (keepsFlat_eval hre ha continuation).bind fun k hk => ?_
    refine (keepsFlat_eval hre ha handler).bind fun h hh => ?_
    exact .lift (Session.keepsFlat_newRequest hf hvs (fun _ => hk.function?) fun _ => hh.function?)
  | .argument i => by
    simp only [Expr.eval]
    exact .pure (ha.get i)
  | .rawArgument i => by
    simp only [Expr.eval]
    exact .pure (Value.allFlat_getD fun _ hv => ha.raw? hv)
  | .arguments => by
    simp only [Expr.eval]
    exact .pure (Value.allFlat_ofList ha)
  | .call target args => by
    simp only [Expr.eval]
    refine (keepsFlat_eval hre ha target).bind fun f hf => ?_
    exact (keepsFlat_evalAll hre ha args).bind fun vs hvs => hre.call f vs hf hvs
  | .callGlobal name args => by
    simp only [Expr.eval]
    exact (keepsFlat_evalAll hre ha args).bind fun vs hvs => keepsFlat_callGlobal hre name hvs
  | .process target args => by
    simp only [Expr.eval]
    refine (keepsFlat_eval hre ha target).bind fun f hf => ?_
    exact (keepsFlat_evalAll hre ha args).bind fun vs hvs => hre.process f vs hf hvs
  | .member target name => by
    simp only [Expr.eval]
    exact (keepsFlat_eval hre ha target).bind fun v hv => keepsFlat_member hv name
  | .callMember target name args => by
    simp only [Expr.eval]
    refine (keepsFlat_eval hre ha target).bind fun v hv => ?_
    refine (keepsFlat_evalAll hre ha args).bind fun vs hvs => ?_
    exact (keepsFlat_member hv name).bind fun f hf => hre.call f vs hf hvs
  | .toScript h => by
    simp only [Expr.eval]
    exact (keepsFlat_evalHost hre ha h).bind fun h hh => .lift (Session.keepsFlat_toScript h hh)
  | .unary op e => by
    simp only [Expr.eval]
    exact (keepsFlat_eval hre ha e).bind fun v hv => keepsFlat_unary hre hv op
  | .binary op l r => by
    simp only [Expr.eval]
    refine (keepsFlat_eval hre ha l).bind fun x hx => ?_
    exact (keepsFlat_eval hre ha r).bind fun y hy => keepsFlat_binary hre hx hy op
  | .raise f => by
    simp only [Expr.eval]
    exact (keepsFlat_evalFault hre ha f).bind fun e he => .fail he
  | .ite condition thenE elseE => by
    simp only [Expr.eval]
    refine (keepsFlat_eval hre ha condition).bind fun v _ => ?_
    split
    · exact keepsFlat_eval hre ha thenE
    · exact keepsFlat_eval hre ha elseE
  | .seq es => by
    simp only [Expr.eval]
    refine (keepsFlat_evalAll hre ha es).map fun vs hvs => ?_
    rw [List.getLastD_eq_getLast?]
    exact Value.allFlat_getD fun v hv => hvs v (List.mem_of_getLast? hv)
  | .log e => by
    simp only [Expr.eval]
    refine (keepsFlat_eval hre ha e).bind fun v hv => .get fun s _ => ?_
    exact KeepsFlat.map (.lift (Session.keepsFlat_addLog _)) fun _ _ => hv
  | .getField table key => by
    simp only [Expr.eval]
    refine (keepsFlat_eval hre ha table).bind fun v _ => ?_
    split
    · exact .get fun s hs => .pure (hs.tables _ _)
    · exact .pure trivial
  | .setField table key e => by
    simp only [Expr.eval]
    refine (keepsFlat_eval hre ha table).bind fun v hv => ?_
    refine (keepsFlat_eval hre ha e).bind fun x hx => ?_
    split
    · refine KeepsFlat.map (.lift (Session.keepsFlat_modifyTable _ fun content hcontent => ?_))
        fun _ _ => hv
      exact hcontent.set _ hx
    · exact .pure hv
  | .setMetatable table metatable => by
    simp only [Expr.eval]
    refine (keepsFlat_eval hre ha table).bind fun v hv => ?_
    refine (keepsFlat_eval hre ha metatable).bind fun m _ => ?_
    split
    · exact KeepsFlat.map (.lift (Session.keepsFlat_modifyTable _ fun _ hcontent => hcontent))
        fun _ _ => hv
    · exact .pure hv

theorem keepsFlat_evalAll (hre : re.KeepsFlat) (ha : a.AllFlat) :
    (es : List Expr) → KeepsFlat (Expr.evalAll re a es) fun vs => ∀ v ∈ vs, v.AllFlat
  | [] => by
    simp only [Expr.evalAll]
    exact .pure (List.forall_mem_nil _)
  | e :: es => by
    simp only [Expr.evalAll]
    refine (keepsFlat_eval hre ha e).bind fun v hv => ?_
    refine (keepsFlat_evalAll hre ha es).map fun vs hvs => ?_
    exact List.forall_mem_cons.mpr ⟨hv, hvs⟩

theorem keepsFlat_evalFields (hre : re.KeepsFlat) (ha : a.AllFlat) :
    (fields : List (Key × Expr)) → (content : Table) → content.AllFlat →
      KeepsFlat (Expr.evalFields re a fields content) Table.AllFlat
  | [], content, hcontent => by
    simp only [Expr.evalFields]
    exact .pure hcontent
  | (key, e) :: rest, content, hcontent => by
    simp only [Expr.evalFields]
    refine (keepsFlat_eval hre ha e).bind fun v hv => ?_
    exact keepsFlat_evalFields hre ha rest (content.set key v) (hcontent.set key hv)

/-- Host expressions keep sessions flat. -/
theorem keepsFlat_evalHost (hre : re.KeepsFlat) (ha : a.AllFlat) :
    (h : HostExpr) → KeepsFlat (h.eval re a) HostValue.AllFlat
  | .void | .null | .bool _ | .number _ | .text _ | .type _ | .script | .context => by
    simp only [HostExpr.eval]
    exact .pure trivial
  | .primitive kind numeral => by
    simp only [HostExpr.eval]
    exact (keepsFlat_readPrimitive kind numeral).map fun _ _ => trivial
  | .object o => by
    simp only [HostExpr.eval]
    exact (keepsFlat_make o).map fun _ ho => ho
  | .array element dims items => by
    simp only [HostExpr.eval]
    exact (keepsFlat_evalHostAll hre ha items).map fun _ hhs => allFlat_makeArray element dims hhs
  | .dynamic e => by
    simp only [HostExpr.eval]
    exact (keepsFlat_eval hre ha e).map fun _ hv => hv
  | .arguments es => by
    simp only [HostExpr.eval]
    refine (keepsFlat_evalAll hre ha es).map fun vs hvs => ?_
    exact HostValue.allFlat_arguments.mpr (Arguments.allFlat_ofList hvs false)

theorem keepsFlat_evalHostAll (hre : re.KeepsFlat) (ha : a.AllFlat) :
    (hs : List HostExpr) → KeepsFlat (HostExpr.evalAll re a hs) fun hs => ∀ h ∈ hs, h.AllFlat
  | [] => by
    simp only [HostExpr.evalAll]
    exact .pure (List.forall_mem_nil _)
  | h :: hs => by
    simp only [HostExpr.evalAll]
    refine (keepsFlat_evalHost hre ha h).bind fun v hv => ?_
    refine (keepsFlat_evalHostAll hre ha hs).map fun vs hvs => ?_
    exact List.forall_mem_cons.mpr ⟨hv, hvs⟩

/-- **Fault expressions** keep sessions flat, and so is the value of the error. -/
theorem keepsFlat_evalFault (hre : re.KeepsFlat) (ha : a.AllFlat) :
    (f : FaultExpr) → KeepsFlat (f.eval re a) fun e => e.toValue.AllFlat
  | .runtime _ | .host _ _ | .badArgument _ _ _ | .valueExpected _ _ | .overflow _ _ _
  | .format _ _ | .stackOverflow | .genericBinding _ | .invalidDescriptor _ _ => by
    simp only [FaultExpr.eval]
    exact .pure trivial
  | .value e => by
    simp only [FaultExpr.eval]
    exact (keepsFlat_eval hre ha e).map fun _ hv => hv
  | .badType index function expected e => by
    simp only [FaultExpr.eval]
    exact (keepsFlat_eval hre ha e).map fun _ _ => trivial

end

end

/-! ## Host methods -/

theorem HostCall.AllFlat.setOuts {c : HostCall} (hc : c.AllFlat) {writes : List (Nat × HostValue)}
    (hwrites : ∀ w ∈ writes, w.2.AllFlat) : (c.setOuts writes).AllFlat := by
  induction writes generalizing c with
  | nil => exact hc
  | cons w writes ih =>
    obtain ⟨hw, hrest⟩ := List.forall_mem_cons.mp hwrites
    refine ih ⟨hc.receiver, fun h hh => ?_⟩ hrest
    rcases List.mem_or_eq_of_mem_set hh with hh | rfl
    · exact hc.args h hh
    · exact hw

/-- An answer with the arguments as they were bound. -/
theorem keepsFlat_returned {c : HostCall} (hc : c.AllFlat) {h : HostValue} (hh : h.AllFlat) :
    KeepsFlat (pure (HostReply.returned h c.args)) HostReply.AllFlat :=
  .pure ⟨hh, hc.args⟩

/-- Bodies of methods keep sessions flat. -/
theorem keepsFlat_body {re : Reentry} (hre : re.KeepsFlat) {c : HostCall} (hc : c.AllFlat)
    (b : Body) : KeepsFlat (b.run re c) HostReply.AllFlat := by
  have hno : Arguments.none.AllFlat := Arguments.allFlat_none
  induction b generalizing c with
  | value h => exact (keepsFlat_evalHost hre hno h).bind fun v hv => keepsFlat_returned hc hv
  | argument i => exact keepsFlat_returned hc (hc.arg i)
  | receiver =>
    simp only [Body.run]
    split
    · rename_i o ho
      exact keepsFlat_returned hc (hc.receiver o ho)
    · exact keepsFlat_returned hc trivial
  | fail message => exact .pure trivial
  | throw f => exact (keepsFlat_evalFault hre hno f).bind fun e he => .fail he
  | outs writes next ih =>
    refine (keepsFlat_evalHostAll hre hno _).bind fun values hvalues => ?_
    exact ih (hc.setOuts fun w hw => hvalues w.2 (List.of_mem_zip hw).2)
  | sum => exact keepsFlat_returned hc trivial
  | newCounter =>
    refine KeepsFlat.bind (.lift (Session.keepsFlat_newCounter _)) fun o ho => ?_
    exact keepsFlat_returned hc ho
  | addCounter i =>
    simp only [Body.run]
    split
    · exact .pure trivial
    · refine KeepsFlat.bind (.lift (Session.keepsFlat_addCounter _ _)) fun _ _ => ?_
      exact keepsFlat_returned hc trivial
  | readCounter =>
    simp only [Body.run]
    split
    · exact .pure trivial
    · refine .get fun s _ => ?_
      split <;> exact keepsFlat_returned hc trivial
  | balance =>
    simp only [Body.run]
    split
    · exact keepsFlat_returned hc trivial
    · exact .pure trivial
  | typeArgument i | typeArgumentName i =>
    simp only [Body.run]
    split <;> exact keepsFlat_returned hc trivial
  | result e => exact (keepsFlat_eval hre hno e).bind fun v hv => keepsFlat_returned hc hv
  | callValue i args =>
    -- The target is an argument of the call, or nil.
    refine (keepsFlat_evalAll hre hno args).bind fun vs hvs => ?_
    refine (hre.call _ vs ?_ hvs).bind fun v hv => keepsFlat_returned hc hv
    have harg := hc.arg i
    split
    · rename_i v hv
      rwa [hv] at harg
    · trivial

theorem allFlat_defaultItem (element : ParamType) : (defaultItem element).AllFlat := by
  cases element with
  | primitive kind =>
    rw [defaultItem]
    split <;> trivial
  | _ => trivial

theorem flat_extents (i : Nat) (args : List HostValue) :
    OutcomeAllFlat (fun _ => True) (extents i args) := by
  induction args generalizing i with
  | nil => trivial
  | cons h args ih =>
    rw [extents]
    split
    · exact (ih (i + 1)).map fun _ _ => trivial
    · trivial

/-- A new array holds the default of its element type. -/
theorem flat_filledArray (element : ParamType) (args : List HostValue) :
    OutcomeAllFlat (fun array => (HostValue.array array).AllFlat) (filledArray element args) := by
  refine (flat_extents 0 args).bind fun dims _ => ?_
  split
  · refine .pure (HostValue.allFlat_array.mpr fun item hitem => ?_)
    rw [List.eq_of_mem_replicate hitem]
    exact allFlat_defaultItem element
  · trivial

/-- The host code of methods keeps sessions flat. -/
theorem hostKeepsFlat_hostCode {re : Reentry} (hre : re.KeepsFlat) :
    HostKeepsFlat (HostCode.run re) := by
  intro m c hc
  unfold HostCode.run
  split
  · refine .get fun s _ => ?_
    exact KeepsFlat.bind (.lift (Session.keepsFlat_addLog _)) fun _ _ => keepsFlat_body hre hc _
  · refine KeepsFlat.bind (.ofExcept (flat_filledArray _ c.args)) fun array harray => ?_
    exact keepsFlat_returned hc harray

namespace Session

section

variable {host : Method → HostCall → Action HostReply} (hhost : HostKeepsFlat host)
  {receiver : Option Object} (hreceiver : ∀ o, receiver = some o → o.AllFlat) {a : Arguments}
  (ha : a.AllFlat)
include hhost hreceiver ha

/-- **Calls of host methods** keep sessions flat if the host code does. -/
theorem keepsFlat_execute (id : MethodId) :
    KeepsFlat (execute host id receiver a) Value.AllFlat := by
  unfold execute
  refine .get fun s hs => ?_
  split
  · exact .fail trivial
  · rename_i slot hslot
    -- The method is read before its plan is kept, and the arguments are bound after that.
    have hdefaults := hs.methods id slot hslot
    refine KeepsFlat.bind (.lift (keepsFlat_bindingPlan id hdefaults)) fun plan _ => ?_
    refine .get fun t ht => ?_
    refine KeepsFlat.bind (.ofExcept (flat_bind ht ha hreceiver hdefaults plan)) fun c hc => ?_
    refine (hhost slot.method c hc).bind fun reply hreply => ?_
    cases reply with
    | failed message => exact .fail trivial
    | returned result args => exact .lift (keepsFlat_assemble _ hreply.1 hreply.2)

theorem keepsFlat_runMember (overloads : List MethodId) :
    KeepsFlat (runMember host overloads receiver a) Value.AllFlat := by
  refine .get fun s _ => ?_
  split
  · exact keepsFlat_execute hhost hreceiver ha _
  · exact .fail trivial

end

theorem keepsFlat_runConstructor {host : Method → HostCall → Action HostReply}
    (hhost : HostKeepsFlat host) {a : Arguments} (ha : a.AllFlat) (t : HostType) :
    KeepsFlat (runConstructor host t a) Value.AllFlat := by
  refine .get fun s _ => ?_
  split
  · exact keepsFlat_execute hhost (by simp) ha _
  · exact .fail trivial

end Session

/-! ## Functions -/

theorem keepsFlat_needArguments (function : String) (n : Nat) (a : Arguments) :
    KeepsFlat (needArguments function n a) fun _ => True := by
  unfold needArguments
  split
  · exact .fail trivial
  · exact .pure trivial

theorem allFlat_numberOrNil (x? : Option Float) : (numberOrNil x?).AllFlat := by
  cases x? <;> trivial

theorem flat_toNumberIn (v base : Value) : OutcomeAllFlat Value.AllFlat (toNumberIn v base) := by
  unfold toNumberIn
  split
  · exact allFlat_numberOrNil _
  · split
    · trivial
    · split
      · split <;> exact allFlat_numberOrNil _
      · split <;> trivial
      · trivial
  · trivial

/-- Built-in functions keep sessions flat: a protected call holds what it was given, and its
continuation and its handler answer with a tuple of two values. -/
theorem keepsFlat_builtin (b : Builtin) {a : Arguments} (ha : a.AllFlat) :
    KeepsFlat (b.run a) Value.AllFlat := by
  cases b with
  | type | tostring => exact (keepsFlat_needArguments _ 1 a).bind fun _ _ => .pure trivial
  | tonumber =>
    refine (keepsFlat_needArguments _ 1 a).bind fun _ _ => .ofExcept ?_
    exact flat_toNumberIn (a.get 0) (a.get 1)
  | pcall =>
    simp only [Builtin.run]
    split
    · exact .fail trivial
    · rename_i target rest hvalues
      have hgiven : ∀ v ∈ target :: rest, v.AllFlat := hvalues ▸ ha
      obtain ⟨htarget, hrest⟩ := List.forall_mem_cons.mp hgiven
      refine .lift (Session.keepsFlat_newRequest htarget hrest (fun f hf => ?_) fun f hf => ?_)
      · rw [← Option.some.inj hf]
        trivial
      · rw [← Option.some.inj hf]
        trivial
  | error => exact (keepsFlat_needArguments _ 1 a).bind fun _ _ => .fail (ha.get 0)
  | pcallContinuation | pcallHandler =>
    refine .pure (Value.allFlat_ofList (List.forall_mem_cons.mpr ⟨trivial, ?_⟩))
    exact List.forall_mem_singleton.mpr (ha.get 0)

theorem flat_operand (function : String) (a : Arguments) (i : Nat) :
    OutcomeAllFlat (fun _ => True) (Session.operand function a i) := by
  unfold Session.operand
  split
  · split <;> trivial
  · split <;> trivial

theorem flat_compareNumbers (function : String) (c : Comparison) (a : Arguments) :
    OutcomeAllFlat Value.AllFlat (Session.compareNumbers function c a) :=
  (flat_operand function a 0).bind fun _ _ => (flat_operand function a 1).bind fun _ _ => trivial

theorem flat_baseArgument (kind : NumericKind) (v : Value) :
    OutcomeAllFlat (fun _ => True) (Session.baseArgument kind v) := by
  unfold Session.baseArgument
  split
  · trivial
  · split
    · split <;> trivial
    · trivial

theorem flat_numberFrom (kind : NumericKind) (a : Arguments) :
    OutcomeAllFlat (fun _ => True) (Session.numberFrom kind a) := by
  unfold Session.numberFrom
  extract_lets numeric
  have hnumeric (r : Except Numeric.Fault Primitive) :
      OutcomeAllFlat (fun _ => True) (numeric r) := by
    cases r with
    | ok p => trivial
    | error e => exact ScriptError.allFlat_ofNumeric e
  split
  · trivial
  · split
    · split
      · split
        · exact hnumeric _
        · trivial
      · exact hnumeric _
    · split
      · exact hnumeric _
      · exact (flat_baseArgument kind _).bind fun base _ => hnumeric _
    · split
      · exact hnumeric _
      · trivial

theorem keepsFlat_makeNumber (kind : NumericKind) (a : Arguments) :
    KeepsFlat (Session.makeNumber kind a) Value.AllFlat :=
  KeepsFlat.bind (.ofExcept (flat_numberFrom kind a)) fun p _ => .lift (Session.keepsFlat_box p)

/-- **Functions** keep sessions flat if the ways back into the script do. -/
theorem keepsFlat_run {re : Reentry} (hre : re.KeepsFlat) {f : Function} (hf : f.AllFlat)
    {a : Arguments} (ha : a.AllFlat) : KeepsFlat (f.run re a) Value.AllFlat := by
  refine KeepsFlat.bind (.lift (Session.keepsFlat_noteInvocation hf ha)) fun _ _ => ?_
  have hhost := hostKeepsFlat_hostCode hre
  obtain ⟨stamp, name, code⟩ := f
  cases code with
  | program body => exact keepsFlat_eval hre ha body
  | moduleExport body =>
    cases body with
    | some body => exact keepsFlat_eval hre ha body
    | none => exact .fail trivial
  | builtin b => exact keepsFlat_builtin b ha
  | compare kind c => exact .ofExcept (flat_compareNumbers name c a)
  | makeNumber kind => exact keepsFlat_makeNumber kind a
  | construct t => exact Session.keepsFlat_runConstructor hhost ha t
  | method overloads receiver =>
    exact Session.keepsFlat_runMember hhost (Function.allFlat_method.mp hf) ha overloads

end ScriptHost
