import ScriptHost.Proofs.BoxedComparison
import ScriptHost.Proofs.CheckedRounding
import ScriptHost.Proofs.Coordinates

/-!
# New arrays are filled

A script that asks for an array with positive extents gets nested tables, one level for each extent:
a table on a level is exactly as long as the extent says, and at the bottom there are values of the
element type that stand for zero. A negative extent is refused where it is first met. The number of
items is computed along the extents, and a product that does not fit into a word is refused like one
that is beyond the bound.

## Main definitions

* `Heap.Filled`: nested tables without gaps.
* `Primitive.zero`, `Session.IsBlank`: what a new array holds.

## Main results

* `extents_of_nonneg`, `extents_of_negative`: which extents are taken.
* `wordProduct?_of_lt`: the product of positive extents.
* `Heap.Shaped.filled`: rows cut out of enough values leave no gap.
* `Session.array_filled_on_all_levels`: what a script gets that asks for an array.
-/

namespace ScriptHost

/-! ## Extents that are taken -/

section Extents

variable {args : List HostValue} {is : List ℤ}

/-- Extents that are not negative are taken as they are. -/
theorem extents_of_nonneg (h : List.Forall₂ (fun arg i => arg.toInt64? = some i) args is)
    (hnonneg : ∀ i ∈ is, 0 ≤ i) (start : ℕ) : extents start args = .ok (is.map Int.toNat) := by
  induction h generalizing start with
  | nil => rfl
  | @cons arg i args is harg _ ih =>
    obtain ⟨n, rfl⟩ := Int.eq_ofNat_of_zero_le (hnonneg i List.mem_cons_self)
    have hrest := ih (fun j hj => hnonneg j (List.mem_cons_of_mem _ hj)) (start + 1)
    rw [extents, harg, Option.getD_some]
    exact congrArg (Except.map (n :: ·)) hrest

/-- The first negative extent is refused, by its position. -/
theorem extents_of_negative {front back : List ℤ} {i : ℤ} (hi : i < 0)
    (h : List.Forall₂ (fun arg i => arg.toInt64? = some i) args (front ++ i :: back))
    (hfront : ∀ j ∈ front, 0 ≤ j) (start : ℕ) :
    extents start args = .error (.badArgument (start + front.length + 1) "__new"
      ("negative array extent " ++ Numeral.text i)) := by
  induction front generalizing args start with
  | nil =>
    obtain ⟨arg, args, harg, -, rfl⟩ := List.forall₂_cons_right_iff.mp h
    obtain ⟨n, rfl⟩ := Int.eq_negSucc_of_lt_zero hi
    rw [extents, harg, Option.getD_some]
    rfl
  | cons j front ih =>
    obtain ⟨arg, args, harg, hargs, rfl⟩ := List.forall₂_cons_right_iff.mp h
    obtain ⟨n, rfl⟩ := Int.eq_ofNat_of_zero_le (hfront j List.mem_cons_self)
    have hrest := ih hargs (fun j hj => hfront j (List.mem_cons_of_mem _ hj)) (start + 1)
    rw [extents, harg, Option.getD_some]
    simp only [hrest, List.length_cons]
    rw [Nat.add_assoc start 1, Nat.add_comm 1]
    rfl

theorem cast_product_toNat (hnonneg : ∀ i ∈ is, 0 ≤ i) :
    (((is.map Int.toNat).foldr (· * ·) 1 : ℕ) : ℤ) = is.prod := by
  induction is with
  | nil => rfl
  | cons i is ih =>
    obtain ⟨hi, his⟩ := List.forall_mem_cons.mp hnonneg
    rw [List.map_cons, List.foldr_cons, List.prod_cons, Nat.cast_mul, Int.toNat_of_nonneg hi,
      ih his]

/-- The product of positive extents fits into a word at every step if it does at the end. -/
theorem wordProduct?_of_lt {product : ℕ} {dims : List ℕ} (hzero : 0 ∉ dims)
    (hlt : product * dims.foldr (· * ·) 1 < Nat.pow 2 64) :
    wordProduct? product dims = some (product * dims.foldr (· * ·) 1) := by
  induction dims generalizing product with
  | nil => rw [wordProduct?, List.foldr_nil, Nat.mul_one]
  | cons d dims ih =>
    obtain ⟨-, hdims⟩ := not_or.mp (mt List.mem_cons.mpr hzero)
    rw [List.foldr_cons, ← Nat.mul_assoc] at hlt ⊢
    have hstep : product * d < Nat.pow 2 64 :=
      Nat.lt_of_le_of_lt (Nat.le_mul_of_pos_right _ (product_pos hdims)) hlt
    rw [wordProduct?, if_pos hstep, ih hdims hlt]

theorem filledArray_of_le {dims : List ℕ} (hdims : extents 0 args = .ok dims) (hzero : 0 ∉ dims)
    (hle : dims.foldr (· * ·) 1 ≤ maxArrayLength) (element : ParamType) :
    filledArray element args =
      .ok ⟨element, dims, List.replicate (dims.foldr (· * ·) 1) (defaultItem element)⟩ := by
  have hproduct : wordProduct? 1 dims = some (dims.foldr (· * ·) 1) := by
    have hlt : 1 * dims.foldr (· * ·) 1 < Nat.pow 2 64 := by
      rw [Nat.one_mul]
      exact Nat.lt_of_le_of_lt hle (by decide)
    rw [wordProduct?_of_lt hzero hlt, Nat.one_mul]
  exact filledArray_eq_ok_iff.mpr ⟨dims, _, hdims, hproduct, hle, rfl⟩

/-- A product beyond the bound is refused, whether or not it fits into a word. -/
theorem filledArray_of_lt {dims : List ℕ} (hdims : extents 0 args = .ok dims)
    (hlt : maxArrayLength < dims.foldr (· * ·) 1) (element : ParamType) :
    filledArray element args = .error (.badArgument 1 "__new"
      ("array extents " ++ extentsText dims ++ " too large")) := by
  have hfilter : (wordProduct? 1 dims).filter (· ≤ maxArrayLength) = none := by
    rw [Option.filter_eq_none_iff]
    intro n hn
    rw [wordProduct?_eq_some hn, Nat.one_mul, decide_eq_true_iff]
    exact Nat.not_le.mpr hlt
  unfold filledArray
  rw [hdims]
  simp only [bind, Except.bind, hfilter]
  rfl

end Extents

/-! ## Nested tables without gaps -/

namespace Heap

/-- **Nested tables without gaps**, one level for each dimension: a table on a level has the keys up
to the dimension and no other, and at the bottom there are values of one sort. -/
def Filled (heap : Heap) (sort : Value → Prop) : List ℕ → Value → Prop
  | [], v => sort v
  | d :: dims, v => ∃ t, v = .table t ∧ (heap.table t).border = d ∧ (heap.table t).size = d ∧
      ∀ i < d, heap.Filled sort dims ((heap.table t).get (.ofIndex i))

variable {heap : Heap} {sort : Value → Prop} {dims : List ℕ} {v : Value} {vs : List Value}

/-- A table of values other than nil has no gap. -/
theorem Lists.filled (h : heap.Lists v vs) (hsome : ∀ w ∈ vs, w.isNil = false)
    (hvs : ∀ w ∈ vs, heap.Filled sort dims w) : heap.Filled sort (vs.length :: dims) v := by
  obtain ⟨t, rfl, -, htable⟩ := h
  rw [Filled]
  refine ⟨t, rfl, ?_, ?_, ?_⟩
  · rw [htable, Table.border_ofList hsome]
  · rw [htable, Table.size_ofList hsome]
  · intro i hi
    rw [htable, Key.ofIndex, Table.get_ofList, List.getElem?_eq_getElem hi, Option.getD_some]
    exact hvs _ (List.getElem_mem hi)

end Heap

/-- **Rows cut out of enough values leave no gap.** -/
theorem Heap.Shaped.filled {heap : Heap} {sort : Value → Prop} {dims : List ℕ} {vs : List Value}
    {v : Value} (h : heap.Shaped dims vs v) (hdims : dims ≠ [])
    (hlength : vs.length = dims.foldr (· * ·) 1)
    (hvs : ∀ w ∈ vs, w.isNil = false ∧ sort w) : heap.Filled sort dims v := by
  induction dims generalizing vs v with
  | nil => exact absurd rfl hdims
  | cons count dims ih =>
    by_cases hlast : dims = []
    · subst hlast
      have hlists : heap.Lists v vs := h
      obtain rfl : vs.length = count := by rw [hlength, List.foldr_cons, List.foldr_nil, mul_one]
      exact hlists.filled (fun w hw => (hvs w hw).1) fun w hw => (hvs w hw).2
    · obtain ⟨inner, hlists, hrows⟩ := (shaped_cons_iff hlast).mp h
      obtain rfl : inner.length = count := by rw [← hrows.length_eq, Session.length_rows]
      have hrow (w : Value) (hw : w ∈ inner) : w.isNil = false ∧ heap.Filled sort dims w := by
        obtain ⟨row, hmem, hshaped⟩ := exists_mem_of_forall₂ hrows.flip hw
        obtain ⟨hfull, hsubset⟩ := Session.length_and_subset_of_mem_rows hlength hmem
        exact ⟨hshaped.isNil, ih hshaped hlast hfull fun w hw => hvs w (hsubset hw)⟩
      exact hlists.filled (fun w hw => (hrow w hw).1) fun w hw => (hrow w hw).2

/-! ## What a new array holds -/

/-- **Zero** of a numeric kind. -/
def Primitive.zero : NumericKind → Primitive
  | .integer k => .integer k 0 ⟨k.min_nonpos, k.max_nonneg⟩
  | .single => .single 0
  | .decimal => .decimal ⟨false, 0, 0, by decide, by decide⟩

theorem Primitive.ofNumber_zero (kind : NumericKind) : ofNumber kind 0.0 = .ok (zero kind) := by
  cases kind with
  | integer k =>
    have hsaturate : Double.saturate k.min k.max 0.0 = 0 := by
      cases k <;> decide +kernel
    simp only [ofNumber, hsaturate, zero]
  | single => rfl
  | decimal => rfl

theorem Update.numberTables_mapM {α β : Type} {f : α → Update β}
    (hf : ∀ x s, ((f x).run s).2.numberTables = s.numberTables) (xs : List α) (s : Session) :
    ((xs.mapM f).run s).2.numberTables = s.numberTables := by
  induction xs generalizing s with
  | nil => rfl
  | cons x xs ih =>
    rw [List.mapM_cons]
    exact (ih ((f x).run s).2).trans (hf x s)

namespace Session

/-- What a new array holds for an element type: false, the number zero, or a boxed zero with the
metatable of its kind. -/
def IsBlank (s : Session) : ParamType → Value → Prop
  | .bool, v => v = .bool false
  | .number, v => v = .number 0.0
  | .primitive kind, v => ∃ stamp t, v = .userdata ⟨⟨stamp, .primitive (.zero kind)⟩, some t⟩ ∧
      s.numberTables.get? kind = some t
  | _, _ => False

variable {s u : Session} {element : ParamType}

theorem IsBlank.isNil {v : Value} (h : s.IsBlank element v) : v.isNil = false := by
  cases element with
  | bool | number =>
    obtain rfl := h
    rfl
  | primitive kind =>
    obtain ⟨stamp, t, rfl, -⟩ := h
    rfl
  | _ => cases h

/-- The metatables that a session keeps for boxed numbers, another one keeps too. -/
def KeepsNumberTables (s u : Session) : Prop :=
  ∀ kind t, s.numberTables.get? kind = some t → u.numberTables.get? kind = some t

theorem IsBlank.keep {v : Value} (h : s.IsBlank element v) (hkeeps : s.KeepsNumberTables u) :
    u.IsBlank element v := by
  cases element with
  | primitive kind =>
    obtain ⟨stamp, t, rfl, ht⟩ := h
    exact ⟨stamp, t, rfl, hkeeps kind t ht⟩
  | _ => exact h

/-- The metatable of a kind is kept from now on, and those kept before are still kept. -/
theorem keepsNumberTables_numberTable (s : Session) (kind : NumericKind) :
    s.KeepsNumberTables ((numberTable kind).run s).2 ∧
      ((numberTable kind).run s).2.numberTables.get? kind = some ((numberTable kind).run s).1 := by
  cases hkept : s.numberTables.get? kind with
  | some t =>
    rw [run_numberTable_of_kept hkept]
    exact ⟨fun _ _ h => h, hkept⟩
  | none =>
    rw [run_numberTable_of_none hkept]
    refine ⟨fun kind' t ht => ?_, ?_⟩
    · have hne : kind' ≠ kind := by
        rintro rfl
        rw [hkept] at ht
        cases ht
      exact (Keyed.get?_insert _ _ _ _).trans ((if_neg hne).trans ht)
    · exact (Keyed.get?_insert _ _ _ _).trans (if_pos rfl)

/-- Boxing gives an object with the metatable of its kind, which is kept. -/
theorem exists_box (s : Session) (p : Primitive) :
    s.KeepsNumberTables ((box p).run s).2 ∧
      ∃ stamp t, ((box p).run s).1 = .userdata ⟨⟨stamp, .primitive p⟩, some t⟩ ∧
        ((box p).run s).2.numberTables.get? p.kind = some t := by
  obtain ⟨hkeeps, hkept⟩ := keepsNumberTables_numberTable s p.kind
  exact ⟨hkeeps, _, _, rfl, hkept⟩

theorem numberTables_shape (dims : List ℕ) (vs : List Value) (s : Session) :
    ((shape dims vs).run s).2.numberTables = s.numberTables := by
  induction dims generalizing vs s with
  | nil => rfl
  | cons count dims ih =>
    cases dims with
    | nil => rfl
    | cons d dims =>
      simp only [shape]
      exact Update.numberTables_mapM (fun row s => ih row s) _ s

section

variable (helement : element = .bool ∨ element = .number ∨ ∃ kind, element = .primitive kind)

include helement

/-- What is made of a default item is what a new array holds. -/
theorem isBlank_toScript (hconverters : s.converters.toScript.isEmpty = true) :
    s.KeepsNumberTables ((toScript (defaultItem element)).run s).2 ∧
      ((toScript (defaultItem element)).run s).2.IsBlank element
        ((toScript (defaultItem element)).run s).1 := by
  have hlookup : (defaultItem element).hostType?.bind s.converters.lookupToScript = none := by
    cases (defaultItem element).hostType? with
    | none => rfl
    | some type => exact Keyed.get?_of_isEmpty hconverters type
  rw [run_toScript_of_standard hlookup]
  obtain rfl | rfl | ⟨kind, rfl⟩ := helement
  · exact ⟨fun _ _ h => h, rfl⟩
  · exact ⟨fun _ _ h => h, rfl⟩
  · have hdefault : defaultItem (.primitive kind) = .primitive (.zero kind) := by
      rw [defaultItem, Primitive.ofNumber_zero]
    have hkind : (Primitive.zero kind).kind = kind := by cases kind <;> rfl
    obtain ⟨hkeeps, stamp, t, hbox, hkept⟩ := exists_box s (.zero kind)
    rw [hkind] at hkept
    rw [hdefault]
    exact ⟨hkeeps, stamp, t, hbox, hkept⟩

theorem isBlank_of_mem_toScriptAll (hconverters : s.converters.toScript.isEmpty = true) (n : ℕ) :
    s.KeepsNumberTables (s.afterItems (List.replicate n (defaultItem element))) ∧
      ∀ w ∈ ((toScriptAll (List.replicate n (defaultItem element))).run s).1,
        (s.afterItems (List.replicate n (defaultItem element))).IsBlank element w := by
  unfold afterItems
  induction n generalizing s with
  | zero =>
    rw [List.replicate_zero, toScriptAll]
    exact ⟨fun _ _ h => h, fun w hw => by cases hw⟩
  | succ n ih =>
    rw [List.replicate_succ, toScriptAll]
    obtain ⟨hkeeps, hblank⟩ := isBlank_toScript helement hconverters
    have hlater := (grows_toScript (defaultItem element) s).converters
    obtain ⟨hkeepsAll, hrest⟩ := ih (s := ((toScript (defaultItem element)).run s).2)
      (hlater ▸ hconverters)
    -- The first item stays blank, since the metatable it has is kept while the others are made.
    refine ⟨fun kind t ht => hkeepsAll kind t (hkeeps kind t ht), fun w hw => ?_⟩
    rcases List.mem_cons.mp hw with rfl | hw
    · exact hblank.keep hkeepsAll
    · exact hrest w hw

/-- A new array becomes nested tables without gaps. -/
theorem filled_toScript (hconverters : s.converters.toScript.isEmpty = true) {dims : List ℕ}
    (hdims : dims ≠ []) {v : Value}
    (hrun : (toScript (.array ⟨element, dims,
      List.replicate (dims.foldr (· * ·) 1) (defaultItem element)⟩)).run s = (v, u)) :
    u.heap.Filled (u.IsBlank element) dims v := by
  generalize hitems : List.replicate (dims.foldr (· * ·) 1) (defaultItem element) = items at hrun
  have hlookup : (HostValue.array ⟨element, dims, items⟩).hostType?.bind
      s.converters.lookupToScript = none := Keyed.get?_of_isEmpty hconverters _
  rw [run_toScript_of_standard hlookup] at hrun
  obtain ⟨rfl, rfl⟩ := Prod.mk.inj hrun
  have hlength : ((toScriptAll items).run s).1.length = dims.foldr (· * ·) 1 := by
    rw [length_toScriptAll, ← hitems, List.length_replicate]
  obtain ⟨-, hblank⟩ := hitems ▸ isBlank_of_mem_toScriptAll helement hconverters
    (dims.foldr (· * ·) 1)
  have htables := numberTables_shape dims ((toScriptAll items).run s).1 (s.afterItems items)
  refine (shaped_shape dims ((toScriptAll items).run s).1 (s.afterItems items)).filled hdims hlength
    fun w hw => ⟨(hblank w hw).isNil, (hblank w hw).keep fun kind t ht => ?_⟩
  exact (congrArg (·.get? kind) htables).trans ht

end

/-! ## Arrays that scripts ask for by numbers -/

variable {id : MethodId} {slot : MethodSlot} {rank : ℕ} {receiver : Option Object} {a : Arguments}

theorem exec_execute_of_refused (re : Reentry) (hslot : s.method? id = some slot)
    (hmethod : slot.method = .arrayConstructor element rank) {call : HostCall} {e : ScriptError}
    (hbind : s.bind slot.method slot.method.plan receiver a = .ok call)
    (hrefused : filledArray element call.args = .error e) :
    ∃ t, (execute (HostCode.run re) id receiver a).exec s = (.error (.error e), t) ∧
      t.heap = s.heap := by
  obtain ⟨t, hheap, -, hexec⟩ := exec_execute hslot receiver a
  refine ⟨t, ?_, hheap⟩
  have hhost : (HostCode.run re slot.method call).exec t = (.error (.error e), t) := by
    rw [hmethod, exec_run_arrayConstructor, hrefused]
    rfl
  rw [hexec, hbind]
  exact Action.exec_bind_of_error hhost _

/-- Numbers that stand for integers of 32 bits can be had as such. -/
theorem exists_int32s {xs : List Float} {is : List ℤ}
    (hxs : List.Forall₂ (fun x (i : ℤ) => Double.value? x = some (i : ℚ)) xs is)
    (hrange : ∀ i ∈ is, IntegerKind.int32.Holds i) :
    ∃ ps : List Primitive,
      List.Forall₂ (fun x p => Primitive.ofNumberChecked (.integer .int32) x = .ok p) xs ps ∧
        List.Forall₂ (fun (arg : HostValue) i => arg.toInt64? = some i) (ps.map .primitive) is := by
  induction hxs with
  | nil => exact ⟨[], .nil, .nil⟩
  | @cons x i xs is hx _ ih =>
    obtain ⟨ps, hps, hargs⟩ := ih fun j hj => hrange j (List.mem_cons_of_mem _ hj)
    have hi := hrange i List.mem_cons_self
    refine ⟨.integer .int32 i hi :: ps, .cons ?_ hps, .cons ?_ hargs⟩
    · exact Primitive.ofNumberChecked_of_integral hx hi
    · have hwide : IntegerKind.int64.Holds i :=
        ⟨Int.le_trans (by decide) hi.1, Int.le_trans hi.2 (by decide)⟩
      simp [HostValue.toInt64?, Primitive.toInt?, hwide]

/-- **What a script gets that asks for an array** by numbers that stand for integers of 32 bits.
The first negative number is refused, by its position. If all are positive, the array is made when
their product is at most `2 ^ 24`, and refused in every other case. The script gets nested tables,
one level for each number: each table is as long as the number of its level says and has no other
entries, and at the bottom there are blank values of the element type. -/
theorem array_filled_on_all_levels {re : Reentry} {xs : List Float} {is : List ℤ}
    (hslot : s.method? id = some slot) (hmethod : slot.method = .arrayConstructor element rank)
    (hconverters : s.converters.isEmpty = true)
    (helement : element = .bool ∨ element = .number ∨ ∃ kind, element = .primitive kind)
    (hrank : 1 ≤ rank) (hlength : is.length = rank)
    (hargs : a.values.drop a.offset = xs.map .number)
    (hxs : List.Forall₂ (fun x (i : ℤ) => Double.value? x = some (i : ℚ)) xs is)
    (hrange : ∀ i ∈ is, IntegerKind.int32.Holds i) :
    (∀ front i back, is = front ++ i :: back → (∀ j ∈ front, 0 ≤ j) → i < 0 →
      ∃ t, (execute (HostCode.run re) id receiver a).exec s =
          (.error (.error (.badArgument (front.length + 1) "__new"
            ("negative array extent " ++ Numeral.text i))), t) ∧ t.heap = s.heap) ∧
    ((∀ i ∈ is, 1 ≤ i) →
      (is.prod ≤ 2 ^ 24 → ∃ v t, (execute (HostCode.run re) id receiver a).exec s = (.ok v, t) ∧
        t.heap.Filled (t.IsBlank element) (is.map Int.toNat) v) ∧
      (2 ^ 24 < is.prod → ∃ t, (execute (HostCode.run re) id receiver a).exec s =
          (.error (.error (.badArgument 1 "__new"
            ("array extents " ++ extentsText (is.map Int.toNat) ++ " too large"))), t) ∧
        t.heap = s.heap)) := by
  obtain ⟨htoHost, htoScript⟩ := Bool.and_eq_true_iff.mp hconverters
  obtain ⟨ps, hps, hints⟩ := exists_int32s hxs hrange
  obtain rfl : xs.length = rank := hxs.length_eq.trans hlength
  have hbind := bind_of_numbers htoHost hps element receiver hargs
  rw [← hmethod] at hbind
  refine ⟨?_, fun hpos => ?_⟩
  · rintro front i back rfl hfront hi
    apply exec_execute_of_refused re hslot hmethod hbind
    have hnegative := extents_of_negative hi hints hfront 0
    rw [Nat.zero_add] at hnegative
    rw [filledArray, hnegative]
    rfl
  · have hnonneg (i : ℤ) (hi : i ∈ is) : 0 ≤ i := Int.le_trans Int.one_nonneg (hpos i hi)
    have hdims := extents_of_nonneg hints hnonneg 0
    have hbound : ((maxArrayLength : ℕ) : ℤ) = 2 ^ 24 := rfl
    rw [← cast_product_toNat hnonneg, ← hbound, Nat.cast_le, Nat.cast_lt]
    constructor
    · intro hle
      have hzero : 0 ∉ is.map Int.toNat := by
        intro hmem
        obtain ⟨i, hi, htoNat⟩ := List.mem_map.mp hmem
        have hone := hpos i hi
        omega
      have hne : is.map Int.toNat ≠ [] := by
        intro hnil
        rw [← hlength, List.map_eq_nil_iff.mp hnil] at hrank
        cases hrank
      obtain ⟨s', -, hsame, hiff⟩ := exists_exec_arrayConstructor re hslot hmethod receiver a
      have hfilled := filledArray_of_le hdims hzero hle element
      rcases hrun : (toScript (.array ⟨element, is.map Int.toNat, List.replicate
        ((is.map Int.toNat).foldr (· * ·) 1) (defaultItem element)⟩)).run s' with ⟨v, t⟩
      refine ⟨v, t, (hiff v t).mpr ⟨_, _, hbind, hfilled, hrun⟩, ?_⟩
      exact filled_toScript helement (hsame ▸ htoScript) hne hrun
    · intro hlt
      exact exec_execute_of_refused re hslot hmethod hbind (filledArray_of_lt hdims hlt element)

/-- A script asks for decimals in three dimensions: it gets six zeros in tables of two, one and
three entries; a product that does not fit into a word is refused; and so is the second of three
numbers, which is the first that is negative. -/
theorem array_filled_on_all_levels_of_decimals :
    ∃ s : Session, s.method? ⟨0⟩ = some (.fresh (.arrayConstructor (.primitive .decimal) 3)) ∧
      s.converters.isEmpty = true ∧
      (∃ v t, (execute (HostCode.run (reentry 1)) ⟨0⟩ none
          ⟨[.nil, .number 2, .number 1, .number 3], true⟩).exec s = (.ok v, t) ∧
        t.heap.Filled (t.IsBlank (.primitive .decimal)) [2, 1, 3] v) ∧
      (∃ t, (execute (HostCode.run (reentry 1)) ⟨0⟩ none
          ⟨[.number 4194304, .number 4194304, .number 4194304], false⟩).exec s =
        (.error (.error (.badArgument 1 "__new"
          "array extents [4194304, 4194304, 4194304] too large")), t)) ∧
      ∃ t, (execute (HostCode.run (reentry 1)) ⟨0⟩ none
          ⟨[.number 4, .number (-1), .number (-2)], false⟩).exec s =
        (.error (.error (.badArgument 2 "__new" "negative array extent -1")), t) := by
  let s : Session :=
    { bare 1 with methods := #[.fresh (.arrayConstructor (.primitive .decimal) 3)] }
  have hslot : s.method? ⟨0⟩ = some (.fresh (.arrayConstructor (.primitive .decimal) 3)) := rfl
  have hkind : ParamType.primitive .decimal = .bool ∨ ParamType.primitive .decimal = .number ∨
      ∃ kind, ParamType.primitive .decimal = .primitive kind := Or.inr (Or.inr ⟨.decimal, rfl⟩)
  have hvalues {xs : List Float} {is : List ℤ}
      (h : List.Forall₂ (fun x i => Double.integer? x = some i) xs is) :
      List.Forall₂ (fun x (i : ℤ) => Double.value? x = some (i : ℚ)) xs is :=
    h.imp fun _ _ => Double.integer?_eq_some_iff.mp
  refine ⟨s, hslot, rfl, ?_, ?_, ?_⟩
  · have hxs : List.Forall₂ (fun x i => Double.integer? x = some i) [2, 1, 3] [2, 1, 3] := by
      decide +kernel
    exact ((array_filled_on_all_levels hslot rfl rfl hkind (by decide) rfl rfl (hvalues hxs)
      (by decide)).2 (by decide)).1 (by decide)
  · have hxs : List.Forall₂ (fun x i => Double.integer? x = some i) [4194304, 4194304, 4194304]
        [4194304, 4194304, 4194304] := by
      decide +kernel
    obtain ⟨t, ht, -⟩ := ((array_filled_on_all_levels
      (a := ⟨[.number 4194304, .number 4194304, .number 4194304], false⟩) hslot rfl rfl hkind
      (by decide) rfl rfl (hvalues hxs) (by decide)).2 (by decide)).2 (by decide)
    exact ⟨t, ht⟩
  · have hxs : List.Forall₂ (fun x i => Double.integer? x = some i) [4, -1, -2] [4, -1, -2] := by
      decide +kernel
    obtain ⟨t, ht, -⟩ := (array_filled_on_all_levels
      (a := ⟨[.number 4, .number (-1), .number (-2)], false⟩) hslot rfl rfl hkind (by decide) rfl
      rfl (hvalues hxs) (by decide)).1 [4] (-1) [-2] rfl (by decide) (by decide)
    exact ⟨t, ht⟩

end Session

end ScriptHost
