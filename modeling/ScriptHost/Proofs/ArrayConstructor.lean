import Mathlib.Data.List.TakeWhile
import ScriptHost.Proofs.NestedTables
import ScriptHost.Proofs.ResultAssembly
import ScriptHost.Proofs.RoundTrip
import ScriptHost.Module

/-!
# Arrays that scripts ask for

A script can ask for an array with given extents. The number of its items is the product of the
extents, and must not exceed a bound. The script gets nested tables, and how large these are is a
matter of the single extents: with a zero among them there are no items, but the tables on the
levels before the zero are made all the same.

## Main results

* `wordProduct?_eq_some`, `le_product_of_mem`: the product of the extents, and what it says of them.
* `Heap.Shaped.forall_within_iff`: when nested tables are within a bound.
* `Session.exists_exec_arrayConstructor`: when an array is made, and what the script gets.
* `Session.exists_shaped_of_numbers`: which numbers a script gets an array for.
* `Session.array_tables_bounded_iff`: when all tables that the script gets are within the bound.
-/

namespace ScriptHost

/-! ## Extents and their product -/

theorem length_extents {i : Nat} {args : List HostValue} {dims : List Nat}
    (h : extents i args = .ok dims) : dims.length = args.length := by
  induction args generalizing i dims with
  | nil =>
    cases h
    rfl
  | cons arg args ih =>
    rw [extents] at h
    split at h
    · cases hrest : extents (i + 1) args with
      | error e =>
        rw [hrest] at h
        cases h
      | ok rest =>
        rw [hrest] at h
        cases h
        rw [List.length_cons, List.length_cons, ih hrest]
    · cases h

/-- The product of extents that fits into a word is their product. -/
theorem wordProduct?_eq_some {product n : Nat} {dims : List Nat}
    (h : wordProduct? product dims = some n) : n = product * dims.foldr (· * ·) 1 := by
  induction dims generalizing product with
  | nil =>
    cases h
    exact (Nat.mul_one _).symm
  | cons d dims ih =>
    rw [wordProduct?] at h
    split at h
    · rw [ih h, List.foldr_cons, Nat.mul_assoc]
    · cases h

theorem product_pos {dims : List Nat} (hzero : 0 ∉ dims) : 0 < dims.foldr (· * ·) 1 := by
  induction dims with
  | nil => exact Nat.one_pos
  | cons d dims ih =>
    obtain ⟨hd, hdims⟩ := not_or.mp (mt List.mem_cons.mpr hzero)
    exact Nat.mul_pos (Nat.pos_of_ne_zero (Ne.symm hd)) (ih hdims)

/-- Extents other than zero are at most their product. -/
theorem le_product_of_mem {dims : List Nat} (hzero : 0 ∉ dims) {d : Nat} (hd : d ∈ dims) :
    d ≤ dims.foldr (· * ·) 1 := by
  induction dims with
  | nil => cases hd
  | cons e dims ih =>
    obtain ⟨he, hdims⟩ := not_or.mp (mt List.mem_cons.mpr hzero)
    rw [List.foldr_cons]
    rcases List.mem_cons.mp hd with rfl | hd
    · exact Nat.le_mul_of_pos_right d (product_pos hdims)
    · exact Nat.le_trans (ih hdims hd) (Nat.le_mul_of_pos_left _ (Nat.pos_of_ne_zero (Ne.symm he)))

/-- The extents before the first zero, each with the extents around it. -/
theorem mem_takeWhile_ne_zero_iff {dims : List Nat} {d : Nat} :
    d ∈ dims.takeWhile (· ≠ 0) ↔
      d ≠ 0 ∧ ∃ front back, dims = front ++ d :: back ∧ 0 ∉ front := by
  constructor
  · intro hd
    obtain ⟨front, rest, hsplit⟩ := List.append_of_mem hd
    have hne (e : Nat) (he : e ∈ dims.takeWhile (· ≠ 0)) : e ≠ 0 := by
      simpa using List.mem_takeWhile_imp he
    refine ⟨hne d hd, front, rest ++ dims.dropWhile (· ≠ 0), ?_, fun hzero => ?_⟩
    · rw [← List.cons_append, ← List.append_assoc, ← hsplit, List.takeWhile_append_dropWhile]
    · exact hne 0 (hsplit ▸ List.mem_append_left _ hzero) rfl
  · rintro ⟨hd, front, back, rfl, hzero⟩
    have hfront (e : Nat) (he : e ∈ front) : decide (e ≠ 0) = true := by
      simpa using ne_of_mem_of_not_mem he hzero
    rw [List.takeWhile_append_of_pos hfront, List.takeWhile_cons_of_pos (by simpa using hd)]
    exact List.mem_append_right _ List.mem_cons_self

/-- When the tables on all levels are within a bound that the number of values is within: when
the dimensions before the first zero are. -/
theorem Heap.Shaped.forall_within_iff {heap : Heap} {dims : List Nat} {vs : List Value} {v : Value}
    {bound : Nat} (h : heap.Shaped dims vs v) (hvs : vs.length = dims.foldr (· * ·) 1)
    (hpos : 0 < bound) (hbound : vs.length ≤ bound) :
    (∀ content, heap.Within (dims.length - 1) v content → content.size ≤ bound) ↔
      ∀ d ∈ dims.takeWhile (· ≠ 0), d ≤ bound := by
  constructor
  · intro hwithin d hd
    obtain ⟨hne, front, back, rfl, hfront⟩ := mem_takeWhile_ne_zero_iff.mp hd
    by_cases hback : back = []
    · -- On the last level there may be fewer entries, but the values are as many as the product.
      subst hback
      have hzero : 0 ∉ front ++ [d] := by simp [hfront, Ne.symm hne]
      exact Nat.le_trans (le_product_of_mem hzero (by simp)) (hvs ▸ hbound)
    · obtain ⟨content, hcontent, rfl⟩ := h.exists_within hfront hback
      apply hwithin content
      apply hcontent.mono
      rw [List.length_append, List.length_cons]
      omega
  · intro hdims content hcontent
    rcases h.size_le (Nat.le_of_eq hvs) hcontent with hone | ⟨front, d, back, rfl, hfront, hsize⟩
    · exact Nat.le_trans hone hpos
    · rcases Nat.eq_zero_or_pos d with rfl | hd
      · exact Nat.le_trans hsize (Nat.zero_le bound)
      · have hmem := mem_takeWhile_ne_zero_iff.mpr ⟨hd.ne', front, back, rfl, hfront⟩
        exact Nat.le_trans hsize (hdims d hmem)

/-- When an array is made: the extents are not negative, and their product is within the
bound. -/
theorem filledArray_eq_ok_iff {element : ParamType} {args : List HostValue} {array : HostArray} :
    filledArray element args = .ok array ↔
      ∃ dims n, extents 0 args = .ok dims ∧ wordProduct? 1 dims = some n ∧ n ≤ maxArrayLength ∧
        array = ⟨element, dims, List.replicate n (defaultItem element)⟩ := by
  unfold filledArray
  cases extents 0 args with
  | error e =>
    constructor
    · intro h
      cases h
    · rintro ⟨dims, n, h, -⟩
      cases h
  | ok dims =>
    have hdims (n : Nat) : (wordProduct? 1 dims).filter (· ≤ maxArrayLength) = some n ↔
        wordProduct? 1 dims = some n ∧ n ≤ maxArrayLength := by
      rw [Option.filter_eq_some_iff, decide_eq_true_iff]
    simp only [bind, Except.bind]
    cases hfilter : (wordProduct? 1 dims).filter (· ≤ maxArrayLength) with
    | none =>
      constructor
      · intro h
        cases h
      · rintro ⟨_, n, hok, hproduct, hn, -⟩
        cases hok
        rw [(hdims n).mpr ⟨hproduct, hn⟩] at hfilter
        cases hfilter
    | some n =>
      obtain ⟨hproduct, hn⟩ := (hdims n).mp hfilter
      constructor
      · intro h
        cases h
        exact ⟨dims, n, rfl, hproduct, hn, rfl⟩
      · rintro ⟨_, m, hok, hm, -, rfl⟩
        cases hok
        obtain rfl : n = m := Option.some.inj (hproduct.symm.trans hm)
        rfl

namespace Session

variable {s : Session}

/-! ## The tables that an array becomes -/

theorem length_toScriptAll (hs : List HostValue) (s : Session) :
    ((toScriptAll hs).run s).1.length = hs.length := by
  induction hs generalizing s with
  | nil =>
    rw [toScriptAll]
    rfl
  | cons h hs ih =>
    rw [toScriptAll]
    exact congrArg Nat.succ (ih ((toScript h).run s).2)

/-- The tables that an array becomes, unless arrays have a custom conversion. -/
theorem shaped_toScript (hconverters : s.converters.lookupToScript .hostArray = none)
    {array : HostArray} {v : Value} {t : Session}
    (hrun : (toScript (.array array)).run s = (v, t)) :
    ∃ vs, vs.length = array.items.length ∧ t.heap.Shaped array.dims vs v := by
  have hlookup : (HostValue.array array).hostType?.bind s.converters.lookupToScript = none :=
    hconverters
  have hshaped := shaped_shape array.dims ((toScriptAll array.items).run s).1
    ((toScriptAll array.items).run s).2
  rw [run_toScript_of_standard hlookup] at hrun
  obtain ⟨rfl, rfl⟩ := Prod.mk.inj hrun
  exact ⟨_, length_toScriptAll array.items s, hshaped⟩

/-! ## The array constructor -/

variable {id : MethodId} {slot : MethodSlot} {element : ParamType} {rank : Nat}

theorem exec_run_arrayConstructor (re : Reentry) (element : ParamType) (rank : Nat)
    (call : HostCall) (s : Session) :
    (HostCode.run re (.arrayConstructor element rank) call).exec s =
      (Action.ofExcept (filledArray element call.args) >>= fun array =>
        pure (HostReply.returned (.array array) call.args)).exec s := rfl

theorem exec_run_arrayConstructor_eq_ok_iff {re : Reentry} {call : HostCall} {reply : HostReply}
    {t : Session} :
    (HostCode.run re (.arrayConstructor element rank) call).exec s = (.ok reply, t) ↔
      ∃ array, filledArray element call.args = .ok array ∧
        reply = .returned (.array array) call.args ∧ t = s := by
  rw [exec_run_arrayConstructor]
  cases filledArray element call.args with
  | error e =>
    constructor
    · intro h
      cases h
    · rintro ⟨array, h, -⟩
      cases h
  | ok array =>
    constructor
    · intro h
      cases h
      exact ⟨array, rfl, rfl, rfl⟩
    · rintro ⟨_, h, rfl, rfl⟩
      cases h
      rfl

theorem assemble_arrayConstructor (element : ParamType) (rank : Nat) (result : HostValue)
    (args : List HostValue) :
    assemble (.arrayConstructor element rank) result args = toScript result := by
  have houts : (Method.arrayConstructor element rank).outIndices = [] := by
    rw [Method.outIndices_eq_nil_iff]
    intro p hp
    obtain ⟨i, -, rfl⟩ := List.mem_map.mp hp
    rfl
  rw [assemble, houts]

/-- When the constructor of arrays succeeds: the arguments are bound, the array is made, and the
script gets what the array becomes. -/
theorem exists_exec_arrayConstructor (re : Reentry) (hslot : s.method? id = some slot)
    (hmethod : slot.method = .arrayConstructor element rank) (receiver : Option Object)
    (a : Arguments) :
    ∃ s' : Session, s'.heap = s.heap ∧ s'.converters = s.converters ∧ ∀ v t,
      (execute (HostCode.run re) id receiver a).exec s = (.ok v, t) ↔
        ∃ call array, s.bind slot.method slot.method.plan receiver a = .ok call ∧
          filledArray element call.args = .ok array ∧
          (toScript (.array array)).run s' = (v, t) := by
  obtain ⟨s', hheap, hconverters, hexec⟩ := exec_execute hslot receiver a
  refine ⟨s', hheap, hconverters, fun v t => ?_⟩
  rw [hexec]
  cases hbind : s.bind slot.method slot.method.plan receiver a with
  | error e => simp
  | ok call =>
    rw [hmethod] at hbind ⊢
    rw [exec_bind_concluded_eq_ok_iff]
    constructor
    · rintro ⟨result, args, u, hrun, hassemble⟩
      obtain ⟨array, hfilled, hreply, rfl⟩ := exec_run_arrayConstructor_eq_ok_iff.mp hrun
      cases hreply
      rw [assemble_arrayConstructor] at hassemble
      exact ⟨call, array, rfl, hfilled, hassemble⟩
    · rintro ⟨_, array, hcall, hfilled, hscript⟩
      cases hcall
      refine ⟨_, _, s', exec_run_arrayConstructor_eq_ok_iff.mpr ⟨array, hfilled, rfl, rfl⟩, ?_⟩
      rw [assemble_arrayConstructor, hscript]

/-! ## Numbers as extents -/

theorem bindFrom_numbers (hconverters : s.converters.toHost.isEmpty = true) {m : Method}
    {receiver : Option Object} {a : Arguments} {xs : List Float} {ps : List Primitive}
    (hxs : List.Forall₂ (fun x p => Primitive.ofNumberChecked (.integer .int32) x = .ok p) xs ps)
    {routes : List (Parameter × Binding)}
    (hroutes : ∀ r ∈ routes, r.1.type = .primitive (.integer .int32) ∧ r.2 = .convert)
    (hlength : routes.length = xs.length) {cursor : Nat}
    (hargs : a.values.drop cursor = xs.map .number) (bound : List HostValue) :
    s.bindFrom m receiver a cursor [] bound routes =
      .ok ([], bound.reverse ++ ps.map .primitive) := by
  induction hxs generalizing routes cursor bound with
  | nil =>
    obtain rfl := List.eq_nil_of_length_eq_zero hlength
    rw [bindFrom, List.map_nil, List.append_nil]
  | @cons x p xs ps hx _ ih =>
    obtain ⟨⟨parameter, b⟩, routes, rfl⟩ := List.exists_cons_of_length_eq_add_one hlength
    obtain ⟨htype, rfl⟩ := hroutes _ List.mem_cons_self
    have hraw : a.raw? cursor = some (.number x) := by
      have hget : (a.values.drop cursor)[0]? = some (.number x) := by rw [hargs]; rfl
      rwa [List.getElem?_drop] at hget
    have hconvert : s.convertArgument m a cursor parameter [] = .ok (.primitive p) := by
      have hsome : (Value.number x).first = .nil → parameter.default = none := by
        intro h
        cases h
      rw [convertArgument, hraw, Option.getD_some, htype,
        toHost_of_standard (customToHost?_of_isEmpty hconverters _ _) hsome]
      exact congrArg primitiveResult hx
    have hrest : a.values.drop (cursor + 1) = xs.map .number := by
      rw [← List.tail_drop, hargs]
      rfl
    simp only [bindFrom, hconvert]
    rw [ih (fun r hr => hroutes r (List.mem_cons_of_mem _ hr)) (Nat.succ.inj hlength) hrest,
      List.reverse_cons, List.append_assoc]
    rfl

/-- Numbers are extents if they can be had as integers of 32 bits: the constructor of arrays
takes them, after the value that it is called on. -/
theorem bind_of_numbers (hconverters : s.converters.toHost.isEmpty = true) {xs : List Float}
    {ps : List Primitive}
    (hxs : List.Forall₂ (fun x p => Primitive.ofNumberChecked (.integer .int32) x = .ok p) xs ps)
    (element : ParamType) (receiver : Option Object) {a : Arguments}
    (hargs : a.values.drop a.offset = xs.map .number) :
    s.bind (.arrayConstructor element xs.length) (Method.arrayConstructor element xs.length).plan
      receiver a = .ok ⟨none, [], ps.map .primitive⟩ := by
  rw [bind_eq_map, bindFrom_numbers hconverters hxs]
  · rfl
  · intro r hr
    rw [Method.zip_plan] at hr
    obtain ⟨i, hi, rfl⟩ := List.mem_mapIdx.mp hr
    simp [Method.arrayConstructor, Method.bindingAt]
  · simp [Method.plan, Method.arrayConstructor]
  · exact hargs

theorem bind_numbers (hconverters : s.converters.toHost.isEmpty = true) {xs : List Float}
    {ps : List Primitive}
    (hxs : List.Forall₂ (fun x p => Primitive.ofNumberChecked (.integer .int32) x = .ok p) xs ps)
    (element : ParamType) :
    s.bind (.arrayConstructor element xs.length) (Method.arrayConstructor element xs.length).plan
      none ⟨xs.map .number, false⟩ = .ok ⟨none, [], ps.map .primitive⟩ :=
  bind_of_numbers hconverters hxs element none rfl

/-- **Arrays can be asked for** by numbers: the constructor succeeds if the product of the extents
is within the bound, and the script gets the nested tables. -/
theorem exists_shaped_of_numbers (re : Reentry) (hslot : s.method? id = some slot)
    (hmethod : slot.method = .arrayConstructor element rank)
    (hconverters : s.converters.isEmpty = true) {xs : List Float} {ps : List Primitive}
    (hxs : List.Forall₂ (fun x p => Primitive.ofNumberChecked (.integer .int32) x = .ok p) xs ps)
    (hlength : xs.length = rank) {dims : List Nat} {n : Nat}
    (hdims : extents 0 (ps.map .primitive) = .ok dims) (hproduct : wordProduct? 1 dims = some n)
    (hn : n ≤ maxArrayLength) :
    ∃ v t vs, (execute (HostCode.run re) id none ⟨xs.map .number, false⟩).exec s = (.ok v, t) ∧
      t.heap.Shaped dims vs v := by
  subst hlength
  obtain ⟨htoHost, htoScript⟩ := Bool.and_eq_true_iff.mp hconverters
  obtain ⟨s', -, hsame, hiff⟩ := exists_exec_arrayConstructor re hslot hmethod none
    ⟨xs.map .number, false⟩
  obtain ⟨array, hfilled, rfl⟩ :
      ∃ array, filledArray element (ps.map .primitive) = .ok array ∧ array.dims = dims :=
    ⟨_, filledArray_eq_ok_iff.mpr ⟨dims, n, hdims, hproduct, hn, rfl⟩, rfl⟩
  have hbind := bind_numbers htoHost hxs element
  rw [← hmethod] at hbind
  have hlookup : s'.converters.lookupToScript .hostArray = none := by
    rw [hsame]
    exact Keyed.get?_of_isEmpty htoScript _
  rcases hrun : (toScript (.array array)).run s' with ⟨v, t⟩
  obtain ⟨vs, -, hshaped⟩ := shaped_toScript hlookup hrun
  exact ⟨v, t, vs, (hiff v t).mpr ⟨_, array, hbind, hfilled, hrun⟩, hshaped⟩

theorem ofNumberChecked_zero :
    Primitive.ofNumberChecked (.integer .int32) 0 = .ok (.integer .int32 0 (by decide)) := by
  rw [Primitive.ofNumberChecked, show Double.roundEven? 0 = some 0 by decide +kernel]
  rfl

/-! ## How large the tables of a new array are -/

/-- **How large the tables of a new array are.** When the constructor of arrays succeeds, the
product of the extents is within the bound on the items of an array. Arrays with a custom conversion
become what it makes of them. Otherwise the script gets nested tables, one level for each extent,
and all of them are within the bound if and only if each extent before the first zero is. So they
are when no extent is zero. -/
theorem array_tables_bounded_iff {re : Reentry} {receiver : Option Object} {a : Arguments}
    {v : Value} {t : Session} (hslot : s.method? id = some slot)
    (hmethod : slot.method = .arrayConstructor element rank)
    (hexec : (execute (HostCode.run re) id receiver a).exec s = (.ok v, t)) :
    ∃ call array, s.bind slot.method slot.method.plan receiver a = .ok call ∧
      filledArray element call.args = .ok array ∧ extents 0 call.args = .ok array.dims ∧
      array.dims.length = rank ∧ array.dims.foldr (· * ·) 1 ≤ maxArrayLength ∧
      (∀ c, s.converters.lookupToScript .hostArray = some c →
        ∃ s' : Session, s'.heap = s.heap ∧ s'.converters = s.converters ∧
          (c.apply (.array array)).run s' = (v, t)) ∧
      (s.converters.lookupToScript .hostArray = none →
        ((∀ content, t.heap.Within (rank - 1) v content → content.size ≤ maxArrayLength) ↔
          ∀ d ∈ array.dims.takeWhile (· ≠ 0), d ≤ maxArrayLength) ∧
        (0 ∉ array.dims →
          ∀ content, t.heap.Within (rank - 1) v content → content.size ≤ maxArrayLength)) := by
  obtain ⟨s', hheap, hconverters, hiff⟩ := exists_exec_arrayConstructor re hslot hmethod receiver a
  obtain ⟨call, array, hbind, hfilled, hscript⟩ := (hiff v t).mp hexec
  obtain ⟨dims, n, hdims, hproduct, hn, rfl⟩ := filledArray_eq_ok_iff.mp hfilled
  obtain rfl : n = dims.foldr (· * ·) 1 := by
    rw [wordProduct?_eq_some hproduct, Nat.one_mul]
  obtain rfl : dims.length = rank := by
    have hvalid : slot.method.Valid := hmethod ▸ .arrayConstructor element rank
    rw [length_extents hdims, length_args_of_bind hvalid hbind, hmethod]
    simp [Method.declared, Method.arrayConstructor]
  refine ⟨call, _, hbind, hfilled, hdims, rfl, hn, fun c hc => ⟨s', hheap, hconverters, ?_⟩,
    fun hnone => ?_⟩
  · have hlookup : (HostValue.array ⟨element, dims, List.replicate (dims.foldr (· * ·) 1)
        (defaultItem element)⟩).hostType?.bind s'.converters.lookupToScript = some c :=
      hconverters ▸ hc
    rwa [toScript.eq_def, Update.run_get_bind, hlookup] at hscript
  · obtain ⟨vs, hvs, hshaped⟩ := shaped_toScript (hconverters ▸ hnone) hscript
    rw [List.length_replicate] at hvs
    have hwithin := hshaped.forall_within_iff hvs (by decide) (hvs ▸ hn)
    refine ⟨hwithin, fun hzero => hwithin.mpr fun d hd => ?_⟩
    exact Nat.le_trans (le_product_of_mem hzero (List.takeWhile_subset _ hd)) hn

/-- An array with three extents, of which the second is zero and the third is beyond the bound. -/
theorem array_tables_bounded_iff_of_inner_zero :
    ∃ (s : Session) (v : Value) (t : Session),
      s.method? ⟨0⟩ = some (.fresh (.arrayConstructor .bool 3)) ∧ s.converters.isEmpty = true ∧
      (execute (HostCode.run (reentry 1)) ⟨0⟩ none
        ⟨[.number 3, .number 0, .number 16777217], false⟩).exec s = (.ok v, t) ∧
      ∀ content, t.heap.Within 2 v content → content.size ≤ maxArrayLength := by
  let s : Session := { bare 1 with methods := #[.fresh (.arrayConstructor .bool 3)] }
  have hslot : s.method? ⟨0⟩ = some (.fresh (.arrayConstructor .bool 3)) := rfl
  have hxs : List.Forall₂ (fun x p => Primitive.ofNumberChecked (.integer .int32) x = .ok p)
      [3, 0, 16777217] [.integer .int32 3 (by decide), .integer .int32 0 (by decide),
        .integer .int32 16777217 (by decide)] :=
    .cons rfl (.cons ofNumberChecked_zero (.cons rfl .nil))
  have hproduct : wordProduct? 1 [3, 0, 16777217] = some 0 := rfl
  obtain ⟨v, t, -, hexec, -⟩ := exists_shaped_of_numbers (reentry 1) hslot rfl rfl hxs rfl rfl
    hproduct (Nat.zero_le _)
  obtain ⟨call, array, hbind, -, hextents, -, -, -, hstandard⟩ :=
    array_tables_bounded_iff hslot rfl hexec
  obtain rfl := Except.ok.inj (hbind.symm.trans (bind_numbers rfl hxs .bool))
  have hdims : array.dims = [3, 0, 16777217] := (Except.ok.inj hextents).symm
  refine ⟨s, v, t, hslot, rfl, hexec, (hstandard rfl).1.mpr ?_⟩
  rw [hdims]
  decide

/-- **A table beyond the bound**: with a zero behind it, an extent beyond the bound is taken, and
the script gets a table with as many entries. -/
theorem array_table_beyond_bound :
    ∃ (s : Session) (v : Value) (t : Session) (content : Table),
      s.method? ⟨0⟩ = some (.fresh (.arrayConstructor .bool 2)) ∧ s.converters.isEmpty = true ∧
      (execute (HostCode.run (reentry 1)) ⟨0⟩ none
        ⟨[.number 16777217, .number 0], false⟩).exec s = (.ok v, t) ∧
      t.heap.Within 1 v content ∧ maxArrayLength < content.size := by
  let s : Session := { bare 1 with methods := #[.fresh (.arrayConstructor .bool 2)] }
  have hslot : s.method? ⟨0⟩ = some (.fresh (.arrayConstructor .bool 2)) := rfl
  have hxs : List.Forall₂ (fun x p => Primitive.ofNumberChecked (.integer .int32) x = .ok p)
      [16777217, 0] [.integer .int32 16777217 (by decide), .integer .int32 0 (by decide)] :=
    .cons rfl (.cons ofNumberChecked_zero .nil)
  have hproduct : wordProduct? 1 [16777217, 0] = some 0 := rfl
  obtain ⟨v, t, vs, hexec, hshaped⟩ := exists_shaped_of_numbers (reentry 1) hslot rfl rfl hxs rfl
    rfl hproduct (Nat.zero_le _)
  have hshaped : t.heap.Shaped ([] ++ 16777217 :: [0]) vs v := hshaped
  obtain ⟨content, hwithin, hsize⟩ := hshaped.exists_within List.not_mem_nil (List.cons_ne_nil 0 [])
  refine ⟨s, v, t, content, hslot, rfl, hexec, hwithin.mono (Nat.zero_le 1), ?_⟩
  rw [hsize]
  decide

end Session

end ScriptHost
