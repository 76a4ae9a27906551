import ScriptHost.Proofs.KeptPlan
import ScriptHost.Call.Script

/-!
# What functions do while they run

A function that is called does calm things and calls back into the script, one after the other.
This is said once here, by one induction over the programs; what calls do to the session then
follows from what the ways back into the script do.

## Main definitions

* `Reentrant body`: the computation `body`, given the ways back into the script, is made of calm
  actions and calls through them.

## Main results

* `reentrant_eval`, `reentrant_evalHost`, `reentrant_evalFault`: programs.
* `reentrant_run`: everything a function can do.
-/

namespace ScriptHost

open ScriptHost.Action (Calm)

/-- **Re-entrant computations**: calm actions, readings of the session and calls back into the
script, one after the other. -/
inductive Reentrant : {α : Type} → (Reentry → Action α) → Prop
  | calm {α : Type} {a : Action α} (h : a.Calm) : Reentrant fun _ => a
  | call (target : Value) (args : List Value) : Reentrant fun re => re.call target args
  | process (target : Value) (args : List Value) : Reentrant fun re => re.process target args
  | get {α : Type} {f : Session → Reentry → Action α} (hf : ∀ s, Reentrant (f s))
      (hread : ∀ s d, f (s.under d) = f s) : Reentrant fun re => get >>= fun s => f s re
  | bind {α β : Type} {a : Reentry → Action α} {f : α → Reentry → Action β} (ha : Reentrant a)
      (hf : ∀ x, Reentrant (f x)) : Reentrant fun re => a re >>= fun x => f x re

namespace Reentrant

variable {α β : Type}

theorem pure (x : α) : Reentrant fun _ => (pure x : Action α) := calm (Calm.pure x)

theorem fail (e : ScriptError) : Reentrant fun _ => (Action.fail e : Action α) :=
  calm (Calm.fail e)

theorem lift {u : Update α} (h : Update.Calm u) : Reentrant fun _ => (liftM u : Action α) :=
  calm (Calm.lift h)

/-- A computation whose value is only turned into another one. -/
theorem map {a : Reentry → Action α} (g : α → β) (ha : Reentrant a) :
    Reentrant fun re => a re >>= fun x => (Pure.pure (g x) : Action β) :=
  ha.bind fun x => pure (g x)

end Reentrant

/-! ## Operators -/

theorem reentrant_metamethodOf (event : String) (l r : Value) :
    Reentrant fun _ => metamethodOf event l r :=
  .get (fun _ => .pure _) fun _ _ => rfl

theorem reentrant_arithmetic (ops : Operators) (op : Arithmetic) (l r : Value) :
    Reentrant fun re => ops.eval re.call op l r := by
  unfold Operators.eval
  split
  · exact .fail _
  · split
    · exact .pure _
    · refine (reentrant_metamethodOf _ l r).bind fun m => ?_
      cases m with
      | some m => exact (Reentrant.call m [l, r]).map _
      | none => exact .fail _

theorem reentrant_negate (v : Value) : Reentrant fun re => Session.negate re.call v := by
  unfold Session.negate
  split
  · exact .pure _
  · refine .get (fun s => ?_) fun _ _ => rfl
    split
    · exact (Reentrant.call _ [v, v]).map _
    · exact .fail _

theorem reentrant_concat (l r : Value) : Reentrant fun re => Session.concat re.call l r := by
  unfold Session.concat
  split
  · exact .pure _
  · refine (reentrant_metamethodOf _ l r).bind fun m => ?_
    cases m with
    | some m => exact (Reentrant.call m [l, r]).map _
    | none => exact .fail _

theorem reentrant_equals (l r : Value) : Reentrant fun re => Session.equals re.call l r := by
  unfold Session.equals
  split
  · exact .pure _
  · split
    · exact .pure _
    · refine (reentrant_metamethodOf _ l r).bind fun m => ?_
      cases m with
      | some m => exact (Reentrant.call m [l, r]).map _
      | none => exact .pure _

theorem reentrant_lessThan (l r : Value) : Reentrant fun re => Session.lessThan re.call l r := by
  unfold Session.lessThan
  split
  · exact .pure _
  · exact .pure _
  · refine (reentrant_metamethodOf _ l r).bind fun m => ?_
    cases m with
    | some m => exact (Reentrant.call m [l, r]).map _
    | none => exact .fail _

theorem reentrant_lessEqual (l r : Value) :
    Reentrant fun re => Session.lessEqual re.call l r := by
  unfold Session.lessEqual
  split
  · exact .pure _
  · exact .pure _
  · refine (reentrant_metamethodOf _ l r).bind fun m => ?_
    cases m with
    | some m => exact (Reentrant.call m [l, r]).map _
    | none =>
      refine (reentrant_metamethodOf _ r l).bind fun m => ?_
      cases m with
      | some m => exact (Reentrant.call m [r, l]).map _
      | none => exact .fail _

theorem reentrant_unary (v : Value) (op : UnaryOp) : Reentrant fun re => op.apply re v := by
  cases op with
  | negate => exact reentrant_negate v
  | getMetatable => exact .get (fun _ => .pure _) fun _ _ => rfl
  | metamethod event => exact .get (fun _ => .pure _) fun _ _ => rfl
  | first | truthy | toNumber | toText | print | typeName | kindName => exact .pure _

theorem reentrant_binary (l r : Value) (op : BinaryOp) :
    Reentrant fun re => op.apply re l r := by
  cases op with
  | arithmetic op => exact reentrant_arithmetic _ op l r
  | concat => exact reentrant_concat l r
  | equal => exact (reentrant_equals l r).map _
  | less => exact (reentrant_lessThan l r).map _
  | lessEqual => exact (reentrant_lessEqual l r).map _
  | rawEqual => exact .pure _

theorem reentrant_callGlobal (name : String) (args : List Value) :
    Reentrant fun re => Session.callGlobal re name args := by
  unfold Session.callGlobal
  refine .get (fun s => ?_) fun _ _ => rfl
  split
  · exact .fail _
  · exact .call _ args

/-! ## Programs -/

-- One case for each form of a program, with the parts in the order in which they are evaluated.
-- Where the session is read, `rfl` shows that what a disguise changes is not what is read.
mutual

/-- Programs do calm things and call back into the script. -/
theorem reentrant_eval (a : Arguments) : (e : Expr) → Reentrant fun re => e.eval re a
  | .nil | .bool _ | .number _ | .string _ | .argument _ | .rawArgument _ | .arguments
  | .argumentCount | .isMethodCall => by
    simp only [Expr.eval]
    exact .pure _
  | .variable _ | .globals | .global _ | .depth => by
    simp only [Expr.eval]
    exact .get (fun _ => .pure _) fun _ _ => rfl
  | .assign name e => by
    simp only [Expr.eval]
    refine (reentrant_eval a e).bind fun v => ?_
    refine .bind (.calm (Calm.modify ?_ ?_ ?_)) fun _ => .pure v
    · exact fun _ => rfl
    · exact fun _ => rfl
    · exact fun _ _ => rfl
  | .assignGlobal name e => by
    simp only [Expr.eval]
    refine (reentrant_eval a e).bind fun v => .get (fun s => ?_) fun _ _ => rfl
    exact (Reentrant.lift (Session.calm_modifyTable _ _)).map _
  | .tuple es => by
    simp only [Expr.eval]
    exact (reentrant_evalAll a es).map _
  | .table items fields metatable => by
    simp only [Expr.eval]
    refine (reentrant_evalAll a items).bind fun vs => ?_
    refine (reentrant_evalFields a fields _).bind fun content => ?_
    refine (reentrant_eval a metatable).bind fun m => ?_
    exact (Reentrant.lift (Session.calm_newTable _)).map _
  | .function name body => by
    simp only [Expr.eval]
    exact (Reentrant.lift (Session.calm_newFunction _ _)).map _
  | .primitive kind numeral => by
    simp only [Expr.eval]
    refine .bind (.calm (Action.calm_readPrimitive kind numeral)) fun p => ?_
    exact .lift (Session.calm_box p)
  | .object o => by
    simp only [Expr.eval]
    exact .bind (.calm (Action.calm_make o)) fun o => .lift (Session.calm_ofObject o)
  | .rawObject o => by
    simp only [Expr.eval]
    exact (Reentrant.calm (Action.calm_make o)).map _
  | .metaObject metatable o => by
    simp only [Expr.eval]
    refine (reentrant_eval a metatable).bind fun m => ?_
    exact (Reentrant.calm (Action.calm_make o)).map _
  | .hostArray element dims items => by
    simp only [Expr.eval]
    refine (reentrant_evalHostAll a items).bind fun hs => ?_
    exact (Reentrant.lift (Session.calm_newObject _)).map _
  | .staticType t => by
    simp only [Expr.eval]
    exact .lift (Session.calm_staticType t)
  | .registeredType t => by
    simp only [Expr.eval]
    exact .calm (Action.calm_registeredType t)
  | .request target args continuation handler => by
    simp only [Expr.eval]
    refine (reentrant_eval a target).bind fun f => ?_
    refine (reentrant_evalAll a args).bind fun vs => ?_
    refine (reentrant_eval a continuation).bind fun k => ?_
    refine (reentrant_eval a handler).bind fun h => ?_
    exact .lift (Session.calm_newRequest _ _ _ _)
  | .call target args => by
    simp only [Expr.eval]
    refine (reentrant_eval a target).bind fun f => ?_
    exact (reentrant_evalAll a args).bind fun vs => .call f vs
  | .callGlobal name args => by
    simp only [Expr.eval]
    exact (reentrant_evalAll a args).bind fun vs => reentrant_callGlobal name vs
  | .process target args => by
    simp only [Expr.eval]
    refine (reentrant_eval a target).bind fun f => ?_
    exact (reentrant_evalAll a args).bind fun vs => .process f vs
  | .member target name => by
    simp only [Expr.eval]
    exact (reentrant_eval a target).bind fun v => .calm (Action.calm_member v name)
  | .callMember target name args => by
    simp only [Expr.eval]
    refine (reentrant_eval a target).bind fun v => ?_
    refine (reentrant_evalAll a args).bind fun vs => ?_
    exact .bind (.calm (Action.calm_member v name)) fun f => .call f vs
  | .toScript h => by
    simp only [Expr.eval]
    exact (reentrant_evalHost a h).bind fun v => .lift (Session.calm_toScript v)
  | .unary op e => by
    simp only [Expr.eval]
    exact (reentrant_eval a e).bind fun v => reentrant_unary v op
  | .binary op l r => by
    simp only [Expr.eval]
    exact (reentrant_eval a l).bind fun x => (reentrant_eval a r).bind fun y =>
      reentrant_binary x y op
  | .raise f => by
    simp only [Expr.eval]
    exact (reentrant_evalFault a f).bind fun e => .fail e
  | .ite condition thenE elseE => by
    simp only [Expr.eval]
    refine (reentrant_eval a condition).bind fun v => ?_
    split
    · exact reentrant_eval a thenE
    · exact reentrant_eval a elseE
  | .seq es => by
    simp only [Expr.eval]
    exact (reentrant_evalAll a es).map _
  | .log e => by
    simp only [Expr.eval]
    refine (reentrant_eval a e).bind fun v => .get (fun s => ?_) fun _ _ => rfl
    exact (Reentrant.lift (Session.calm_addLog _)).map _
  | .getField table key => by
    simp only [Expr.eval]
    refine (reentrant_eval a table).bind fun v => ?_
    split
    · exact .get (fun _ => .pure _) fun _ _ => rfl
    · exact .pure _
  | .setField table key e => by
    simp only [Expr.eval]
    refine (reentrant_eval a table).bind fun v => (reentrant_eval a e).bind fun x => ?_
    split
    · exact (Reentrant.lift (Session.calm_modifyTable _ _)).map _
    · exact .pure _
  | .setMetatable table metatable => by
    simp only [Expr.eval]
    refine (reentrant_eval a table).bind fun v => (reentrant_eval a metatable).bind fun m => ?_
    split
    · exact (Reentrant.lift (Session.calm_modifyTable _ _)).map _
    · exact .pure _

theorem reentrant_evalAll (a : Arguments) :
    (es : List Expr) → Reentrant fun re => Expr.evalAll re a es
  | [] => by
    simp only [Expr.evalAll]
    exact .pure _
  | e :: es => by
    simp only [Expr.evalAll]
    exact (reentrant_eval a e).bind fun _ => (reentrant_evalAll a es).map _

theorem reentrant_evalFields (a : Arguments) :
    (fields : List (Key × Expr)) → (content : Table) →
      Reentrant fun re => Expr.evalFields re a fields content
  | [], content => by
    simp only [Expr.evalFields]
    exact .pure _
  | (key, e) :: rest, content => by
    simp only [Expr.evalFields]
    exact (reentrant_eval a e).bind fun v => reentrant_evalFields a rest (content.set key v)

/-- Host expressions do calm things and call back into the script. -/
theorem reentrant_evalHost (a : Arguments) : (h : HostExpr) → Reentrant fun re => h.eval re a
  | .void | .null | .bool _ | .number _ | .text _ | .type _ | .script | .context => by
    simp only [HostExpr.eval]
    exact .pure _
  | .primitive kind numeral => by
    simp only [HostExpr.eval]
    exact (Reentrant.calm (Action.calm_readPrimitive kind numeral)).map _
  | .object o => by
    simp only [HostExpr.eval]
    exact (Reentrant.calm (Action.calm_make o)).map _
  | .array element dims items => by
    simp only [HostExpr.eval]
    exact (reentrant_evalHostAll a items).map _
  | .dynamic e => by
    simp only [HostExpr.eval]
    exact (reentrant_eval a e).map _
  | .arguments es => by
    simp only [HostExpr.eval]
    exact (reentrant_evalAll a es).map _

theorem reentrant_evalHostAll (a : Arguments) :
    (hs : List HostExpr) → Reentrant fun re => HostExpr.evalAll re a hs
  | [] => by
    simp only [HostExpr.evalAll]
    exact .pure _
  | h :: hs => by
    simp only [HostExpr.evalAll]
    exact (reentrant_evalHost a h).bind fun _ => (reentrant_evalHostAll a hs).map _

/-- Fault expressions do calm things and call back into the script. -/
theorem reentrant_evalFault (a : Arguments) : (f : FaultExpr) → Reentrant fun re => f.eval re a
  | .runtime _ | .host _ _ | .badArgument _ _ _ | .valueExpected _ _ | .overflow _ _ _
  | .format _ _ | .stackOverflow | .genericBinding _ | .invalidDescriptor _ _ => by
    simp only [FaultExpr.eval]
    exact .pure _
  | .value e => by
    simp only [FaultExpr.eval]
    exact (reentrant_eval a e).map _
  | .badType index function expected e => by
    simp only [FaultExpr.eval]
    exact (reentrant_eval a e).map _

end

/-! ## Host methods and functions -/

theorem reentrant_body (c : HostCall) (b : Body) : Reentrant fun re => b.run re c := by
  induction b generalizing c with
  | value h => exact (reentrant_evalHost .none h).map _
  | argument i => exact .pure _
  | receiver =>
    simp only [Body.run]
    split <;> exact .pure _
  | fail message => exact .pure _
  | throw f => exact (reentrant_evalFault .none f).bind fun e => .fail e
  | outs writes next ih =>
    exact (reentrant_evalHostAll .none _).bind fun values => ih _
  | sum => exact .pure _
  | newCounter => exact (Reentrant.lift (Session.calm_newCounter _)).map _
  | addCounter i =>
    simp only [Body.run]
    split
    · exact .pure _
    · exact (Reentrant.lift (Session.calm_onHeap _)).map _
  | readCounter =>
    simp only [Body.run]
    split
    · exact .pure _
    · refine .get (fun s => ?_) fun _ _ => rfl
      split <;> exact .pure _
  | balance =>
    simp only [Body.run]
    split <;> exact .pure _
  | typeArgument i =>
    simp only [Body.run]
    split <;> exact .pure _
  | typeArgumentName i =>
    simp only [Body.run]
    split <;> exact .pure _
  | result e => exact (reentrant_eval .none e).map _
  | callValue i args =>
    exact (reentrant_evalAll .none args).bind fun vs => (Reentrant.call _ vs).map _

theorem reentrant_hostCode (m : Method) (c : HostCall) :
    Reentrant fun re => HostCode.run re m c := by
  unfold HostCode.run
  split
  · refine .get (fun s => ?_) fun _ _ => rfl
    exact .bind (.lift (Session.calm_addLog _)) fun _ => reentrant_body c _
  · exact (Reentrant.calm (Calm.ofExcept _)).map _

theorem reentrant_execute (id : MethodId) (receiver : Option Object) (a : Arguments) :
    Reentrant fun re => Session.execute (HostCode.run re) id receiver a := by
  simp only [Session.execute_eq]
  refine .bind (.calm (Session.calm_prepare id receiver a)) fun p => ?_
  refine (reentrant_hostCode p.1 p.2).bind fun reply => ?_
  cases reply with
  | failed message => exact .fail _
  | returned result args => exact .lift (Session.calm_assemble _ _ _)

theorem reentrant_runMember (overloads : List MethodId) (receiver : Option Object)
    (a : Arguments) :
    Reentrant fun re => Session.runMember (HostCode.run re) overloads receiver a := by
  unfold Session.runMember
  refine .get (fun s => ?_) fun s d => ?_
  · split
    · exact reentrant_execute _ receiver a
    · exact .fail _
  · simp only [s.selectOverload_under d]

theorem reentrant_runConstructor (t : HostType) (a : Arguments) :
    Reentrant fun re => Session.runConstructor (HostCode.run re) t a := by
  unfold Session.runConstructor
  refine .get (fun s => ?_) fun s d => ?_
  · split
    · exact reentrant_execute _ none a
    · exact .fail _
  · simp only [s.selectOverload_under d]
    rfl

theorem reentrant_perform (f : Function) (a : Arguments) : Reentrant fun re => f.perform re a := by
  unfold Function.perform
  split
  · exact reentrant_eval a _
  · exact reentrant_eval a _
  · exact .fail _
  · exact .calm (Action.calm_builtin _ a)
  · exact .calm (Calm.ofExcept _)
  · exact .calm (Action.calm_makeNumber _ a)
  · exact reentrant_runConstructor _ a
  · exact reentrant_runMember _ _ a

/-- Everything a function can do is calm or a call back into the script. -/
theorem reentrant_run (f : Function) (a : Arguments) : Reentrant fun re => f.run re a :=
  .bind (.lift (Session.calm_noteInvocation _)) fun _ => reentrant_perform f a

end ScriptHost
