import ScriptHost.Call.Entry
import ScriptHost.Operator
import ScriptHost.Member
import ScriptHost.Numeric.Read

/-!
# Evaluation of the callback language

Expressions are evaluated from left to right; the first error ends the evaluation. Calls go through
the ways of re-entry, so that evaluation itself follows the structure of the expression.

## Main definitions

* `ObjectExpr.make`: new objects.
* `Expr.eval`, `HostExpr.eval`, `FaultExpr.eval`: the three kinds of expressions.
* `Body.run`: what a host method does with a call.
-/

namespace ScriptHost

/-- The primitive denoted by a numeral. -/
def readPrimitive (kind : NumericKind) (numeral : String) : Action Primitive :=
  match Primitive.read kind numeral none with
  | .ok p => pure p
  | .error e => Action.fail (.ofNumeric e)

/-- **A new object.** -/
def ObjectExpr.make : ObjectExpr → Action Object
  | counter start => Session.newCounter (Int64.ofInt start)
  | account balance => Session.newObject (.account balance)
  | accountView balance => Session.newObject (.accountView balance)
  | blank => Session.newObject .blank
  | text s => Session.newObject (.text s)
  | int32 i => Session.newObject (.int32 i)
  | primitive kind numeral => do
    let p ← readPrimitive kind numeral
    Session.newObject (.primitive p)

/-- A value, or nil for none. -/
def valueOrNil : Option Value → Value := (·.getD .nil)

/-- The operations with one operand. -/
def UnaryOp.apply (re : Reentry) (v : Value) : UnaryOp → Action Value
  | negate => Session.negate re.call v
  | first => return v.first
  | truthy => return .bool v.truthy
  | toNumber => return valueOrNil (v.toNumber?.map .number)
  | toText => return valueOrNil (v.toText?.map .string)
  | print => return .string v.print
  | typeName => return .string v.typeName
  | kindName => return .string v.kind.name
  | getMetatable => return valueOrNil (((← get).heap.metatable? v).map .table)
  | metamethod event => return valueOrNil ((← get).heap.metamethod? v event)

/-- The operators with two operands. -/
def BinaryOp.apply (re : Reentry) (l r : Value) : BinaryOp → Action Value
  | arithmetic op => Operators.standard.eval re.call op l r
  | concat => Session.concat re.call l r
  | equal => return .bool (← Session.equals re.call l r)
  | less => return .bool (← Session.lessThan re.call l r)
  | lessEqual => return .bool (← Session.lessEqual re.call l r)
  | rawEqual => return .bool (l.same r)

/-- An array with given extents, or with one dimension. -/
def makeArray (element : ParamType) (dims : Option (List Nat)) (items : List HostValue) :
    HostArray :=
  match dims with
  | some dims => ⟨element, dims, items⟩
  | none => .ofList element items

mutual

/-- **Evaluation** of an expression with the arguments of a callback. -/
def Expr.eval (re : Reentry) (a : Arguments) : Expr → Action Value
  | .nil => return .nil
  | .bool b => return .bool b
  | .number x => return .number x
  | .string s => return .string s
  | .variable name => return valueOrNil ((← get).assigned.get? name)
  | .assign name e => do
    let v ← e.eval re a
    modify fun s => { s with assigned := s.assigned.insert name v }
    return v
  | .globals => return .table (← get).globals
  | .global name => do
    let s ← get
    return (s.heap.table s.globals).get (.name name)
  | .assignGlobal name e => do
    let v ← e.eval re a
    Session.modifyTable (← get).globals (·.set (.name name) v)
    return v
  | .tuple es => return .ofList (← Expr.evalAll re a es)
  | .table items fields metatable => do
    let vs ← Expr.evalAll re a items
    let content ← Expr.evalFields re a fields (.ofList vs)
    let m ← metatable.eval re a
    return .table (← Session.newTable { content with metatable := m.table? })
  | .function name body => return .function (← Session.newFunction name (.program body))
  | .primitive kind numeral => do Session.box (← readPrimitive kind numeral)
  | .object o => do Session.ofObject (← o.make)
  | .rawObject o => return .userdata ⟨← o.make, none⟩
  | .metaObject metatable o => do
    let m ← metatable.eval re a
    return .userdata ⟨← o.make, m.table?⟩
  | .hostArray element dims items => do
    let hs ← HostExpr.evalAll re a items
    return .userdata ⟨← Session.newObject (.array (makeArray element dims hs)), none⟩
  | .staticType t => Session.staticType t
  | .registeredType t => Session.registeredType t
  | .request target args continuation handler => do
    let f ← target.eval re a
    let vs ← Expr.evalAll re a args
    let k ← continuation.eval re a
    let h ← handler.eval re a
    Session.newRequest f vs k.function? h.function?
  | .argument i => return a.get i
  | .rawArgument i => return valueOrNil (a.raw? i)
  | .arguments => return .ofList a.values
  | .argumentCount => return .number (Double.ofInt a.length)
  | .isMethodCall => return .bool a.isMethodCall
  | .call target args => do
    let f ← target.eval re a
    let vs ← Expr.evalAll re a args
    re.call f vs
  | .callGlobal name args => do
    let vs ← Expr.evalAll re a args
    Session.callGlobal re name vs
  | .process target args => do
    let f ← target.eval re a
    let vs ← Expr.evalAll re a args
    re.process f vs
  | .member target name => do
    let v ← target.eval re a
    Session.member v name
  | .callMember target name args => do
    let v ← target.eval re a
    let vs ← Expr.evalAll re a args
    let f ← Session.member v name
    re.call f vs
  | .toScript h => do Session.toScript (← h.eval re a)
  | .depth => return .number (Double.ofInt (← get).depth.inUse)
  | .unary op e => do
    let v ← e.eval re a
    op.apply re v
  | .binary op l r => do
    let x ← l.eval re a
    let y ← r.eval re a
    op.apply re x y
  | .raise f => do Action.fail (← f.eval re a)
  | .ite condition thenE elseE => do
    let v ← condition.eval re a
    if v.truthy then thenE.eval re a else elseE.eval re a
  | .seq es => return (← Expr.evalAll re a es).getLastD .nil
  | .log e => do
    let v ← e.eval re a
    Session.addLog (.value ((← get).heap.view v))
    return v
  | .getField table key => do
    let v ← table.eval re a
    match v with
    | .table t => return ((← get).heap.table t).get key
    | _ => return .nil
  | .setField table key e => do
    let v ← table.eval re a
    let x ← e.eval re a
    match v with
    | .table t => Session.modifyTable t (·.set key x)
    | _ => pure ()
    return v
  | .setMetatable table metatable => do
    let v ← table.eval re a
    let m ← metatable.eval re a
    match v with
    | .table t => Session.modifyTable t fun content => { content with metatable := m.table? }
    | _ => pure ()
    return v

/-- Evaluation of several expressions in order. -/
def Expr.evalAll (re : Reentry) (a : Arguments) : List Expr → Action (List Value)
  | [] => return []
  | e :: es => do
    let v ← e.eval re a
    let vs ← Expr.evalAll re a es
    return v :: vs

/-- Evaluation of the fields of a table in order, put into its content. -/
def Expr.evalFields (re : Reentry) (a : Arguments) :
    List (Key × Expr) → Table → Action Table
  | [], content => return content
  | (key, e) :: rest, content => do
    let v ← e.eval re a
    Expr.evalFields re a rest (content.set key v)

/-- **Evaluation** of a host expression. -/
def HostExpr.eval (re : Reentry) (a : Arguments) : HostExpr → Action HostValue
  | .void => return .void
  | .null => return .null
  | .bool b => return .bool b
  | .number x => return .number x
  | .text s => return .text s
  | .primitive kind numeral => return .primitive (← readPrimitive kind numeral)
  | .object o => return .object (← o.make)
  | .array element dims items =>
    return .array (makeArray element dims (← HostExpr.evalAll re a items))
  | .type t => return .type t
  | .dynamic e => return .dynamic (← e.eval re a)
  | .script => return .script
  | .context => return .context
  | .arguments es => return .arguments (.ofList (← Expr.evalAll re a es) false)

/-- Evaluation of several host expressions in order. -/
def HostExpr.evalAll (re : Reentry) (a : Arguments) : List HostExpr → Action (List HostValue)
  | [] => return []
  | h :: hs => do
    let v ← h.eval re a
    let vs ← HostExpr.evalAll re a hs
    return v :: vs

/-- **Evaluation** of a fault expression to the error it denotes. -/
def FaultExpr.eval (re : Reentry) (a : Arguments) : FaultExpr → Action ScriptError
  | .runtime message => return .runtime message
  | .host method message => return .hostInvocation method (.text message)
  | .value e => return .raised (← e.eval re a)
  | .badArgument index function message => return .badArgument index function message
  | .badType index function expected e => return .badType index function expected (← e.eval re a)
  | .valueExpected index function => return .valueExpected index function
  | .overflow source target value => return .overflow source target value
  | .format input target => return .format input target
  | .stackOverflow => return .stackOverflow
  | .genericBinding method => return .genericBinding method
  | .invalidDescriptor member reason => return .invalidDescriptor member reason

end

namespace Body

/-- The sum of the numbers among some host values, from the first on. -/
def sumNumbers (hs : List HostValue) : Float :=
  hs.foldl (fun total h => match h.toDouble? with | some x => total + x | none => total) 0.0

/-- The sum of all arguments; an array counts as the sum of its numbers. -/
def sumArguments (hs : List HostValue) : Float :=
  hs.foldl (fun total h =>
    total + match h with
      | .array a => sumNumbers a.items
      | _ => h.toDouble?.getD 0.0) 0.0

/-- The counter a method works on: its receiver, or else its first argument. -/
def counterOf (c : HostCall) : Option CounterId :=
  (c.receiver.bind (·.counter?)).or ((c.arg 0).object?.bind (·.counter?))

/-- **What a host method does** with a call. -/
def run (re : Reentry) (c : HostCall) : Body → Action HostReply
  | value h => do
    let v ← h.eval re .none
    return .returned v c.args
  | argument i => return .returned (c.arg i) c.args
  | receiver =>
    match c.receiver with
    | some o => return .returned (.object o) c.args
    | none => return .returned .null c.args
  | fail message => return .failed message
  | throw f => do Action.fail (← f.eval re .none)
  | outs writes next => do
    let values ← HostExpr.evalAll re .none (writes.map (·.2))
    let written := ((writes.map (·.1)).zip values).foldl (fun c (i, h) => c.setOut i h) c
    next.run re written
  | sum => return .returned (.number (sumArguments c.args)) c.args
  | newCounter => do
    let start := (c.arg 0).toInt64?.getD 0
    return .returned (.object (← Session.newCounter (Int64.ofInt start))) c.args
  | addCounter i =>
    match counterOf c with
    | none => return .failed "Counter expected"
    | some counter => do
      let n := Double.saturate IntegerKind.int64.min IntegerKind.int64.max
        ((c.arg i).toDouble?.getD 0.0)
      Session.addCounter counter (Int64.ofInt n)
      return .returned .void c.args
  | readCounter =>
    match counterOf c with
    | none => return .failed "Counter expected"
    | some counter => do
      match Primitive.ofInt? .int64 ((← get).heap.counter counter).toInt with
      | some p => return .returned (.primitive p) c.args
      | none => return .returned .null c.args
  | balance =>
    match c.receiver with
    | some ⟨_, .accountView x⟩ => return .returned (.number x) c.args
    | _ => return .failed "AccountView expected"
  | typeArgument i =>
    match c.typeArgs[i]? with
    | some t => return .returned (.type t) c.args
    | none => return .returned .null c.args
  | typeArgumentName i =>
    match c.typeArgs[i]? with
    | some t => return .returned (.text t.name) c.args
    | none => return .returned .null c.args
  | result e => do
    let v ← e.eval re .none
    return .returned (.dynamic v) c.args
  | callValue i args => do
    let vs ← Expr.evalAll re .none args
    let target :=
      match c.arg i with
      | .dynamic v => v
      | _ => .nil
    let v ← re.call target vs
    return .returned (.dynamic v) c.args

end Body

end ScriptHost
