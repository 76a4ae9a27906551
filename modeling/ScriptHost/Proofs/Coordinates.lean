import ScriptHost.Proofs.ArrayConstructor

/-!
# Items at their coordinates

The items of an array stand in row-major order. The position of an index vector is computed by going
along the dimensions, and the nested tables of an array are made by cutting the items into rows,
again and again. Both say the same: the keys of an index vector lead to the item in its position.
Positions and widths are counted without a bound here; counted in machine words they are the same.

## Main definitions

* `Heap.walk?`: a walk from a value along keys.
* `HostArray.flatIndexWrapping?`, `Session.shapeWrapping`: positions and nested tables, counted in
  words that wrap around.
* `Session.afterItems`: the session in which the next item has its turn.

## Main results

* `HostArray.exists_flatIndex?`, `HostArray.existsUnique_flatIndex?`: index vectors and positions.
* `Heap.Shaped.walk?_eq_some`: a walk along nested tables.
* `HostArray.flatIndexWrapping?_eq`, `Session.shapeWrapping_eq`: the size of a word does not matter.
* `Session.array_items_at_coordinates`: items keep their coordinates.
-/

namespace ScriptHost

/-! ## Positions in row-major order -/

namespace HostArray

variable {dims index : List Nat} {k : Nat}

/-- A position in the dimensions before counts for as many items as the dimensions after it have. -/
theorem flatIndex?_eq_map (flat : Nat) (dims index : List Nat) :
    flatIndex? flat dims index =
      (flatIndex? 0 dims index).map (flat * dims.foldr (· * ·) 1 + ·) := by
  induction dims generalizing flat index with
  | nil =>
    cases index with
    | nil => simp [flatIndex?]
    | cons i index => rfl
  | cons d dims ih =>
    cases index with
    | nil => rfl
    | cons i index =>
      rw [flatIndex?, flatIndex?, ih (flat * d + i), ih (0 * d + i)]
      split
      · rw [Option.map_map]
        congr 1
        funext n
        simp only [Function.comp_apply, List.foldr_cons]
        rw [Nat.zero_mul, Nat.zero_add, Nat.add_mul, Nat.mul_assoc, Nat.add_assoc]
      · rfl

theorem flatIndex?_cons_eq_some_iff {d i : Nat} :
    flatIndex? 0 (d :: dims) (i :: index) = some k ↔
      i < d ∧ ∃ n, flatIndex? 0 dims index = some n ∧ i * dims.foldr (· * ·) 1 + n = k := by
  rw [flatIndex?, flatIndex?_eq_map, Nat.zero_mul, Nat.zero_add]
  split
  case isTrue hi => simp [hi, Option.map_eq_some_iff]
  case isFalse hi => simp [hi]

/-- The position of an index vector is one of the items if each index is below its dimension. -/
theorem exists_flatIndex? (h : List.Forall₂ (· < ·) index dims) :
    ∃ k, flatIndex? 0 dims index = some k ∧ k < dims.foldr (· * ·) 1 := by
  induction h with
  | nil => exact ⟨0, rfl, Nat.one_pos⟩
  | @cons i d index dims hi _ ih =>
    obtain ⟨n, hn, hlt⟩ := ih
    refine ⟨_, flatIndex?_cons_eq_some_iff.mpr ⟨hi, n, hn, rfl⟩, ?_⟩
    calc i * dims.foldr (· * ·) 1 + n < (i + 1) * dims.foldr (· * ·) 1 := by
          rw [Nat.succ_mul]
          omega
      _ ≤ d * dims.foldr (· * ·) 1 := Nat.mul_le_mul_right _ hi

/-- Only index vectors within the dimensions have a position. -/
theorem forall₂_of_flatIndex? (h : flatIndex? 0 dims index = some k) :
    List.Forall₂ (· < ·) index dims := by
  induction dims generalizing index k with
  | nil =>
    cases index with
    | nil => exact .nil
    | cons i index => cases h
  | cons d dims ih =>
    cases index with
    | nil => cases h
    | cons i index =>
      obtain ⟨hi, n, hn, -⟩ := flatIndex?_cons_eq_some_iff.mp h
      exact .cons hi (ih hn)

theorem flatIndex?_lt (h : flatIndex? 0 dims index = some k) : k < dims.foldr (· * ·) 1 := by
  obtain ⟨n, hn, hlt⟩ := exists_flatIndex? (forall₂_of_flatIndex? h)
  obtain rfl := Option.some.inj (hn.symm.trans h)
  exact hlt

/-- Each position is that of one index vector. -/
theorem existsUnique_flatIndex? (h : k < dims.foldr (· * ·) 1) :
    ∃! index, flatIndex? 0 dims index = some k := by
  induction dims generalizing k with
  | nil =>
    obtain rfl : k = 0 := Nat.lt_one_iff.mp h
    refine ⟨[], rfl, fun index hindex => ?_⟩
    exact List.forall₂_nil_right_iff.mp (forall₂_of_flatIndex? hindex)
  | cons d dims ih =>
    rw [List.foldr_cons] at h
    generalize hwidth : dims.foldr (· * ·) 1 = width at h ih
    have hpos : 0 < width := Nat.pos_of_ne_zero fun hzero => by simp [hzero] at h
    -- The first index is the quotient, and the rest is the position in the row.
    obtain ⟨index, hindex, hunique⟩ := ih (Nat.mod_lt k hpos)
    have hrow : k / width < d := (Nat.div_lt_iff_lt_mul hpos).mpr h
    refine ⟨k / width :: index, ?_, fun other hother => ?_⟩
    · refine flatIndex?_cons_eq_some_iff.mpr ⟨hrow, _, hindex, ?_⟩
      rw [hwidth, Nat.mul_comm]
      exact Nat.div_add_mod k width
    · cases other with
      | nil => cases hother
      | cons j other =>
        obtain ⟨-, n, hn, hk⟩ := flatIndex?_cons_eq_some_iff.mp hother
        have hlt := flatIndex?_lt hn
        rw [hwidth] at hk hlt
        have hsame : n + width * j = k := by rw [Nat.mul_comm, Nat.add_comm, hk]
        obtain ⟨rfl, rfl⟩ := (Nat.div_mod_unique hpos).mpr ⟨hsame, hlt⟩
        rw [hunique other hn]

end HostArray

/-! ## Walks along nested tables -/

/-- The key of an index: tables count from one. -/
def Key.ofIndex (i : Nat) : Key := .index ((i : Int) + 1)

namespace Heap

/-- **A walk** from a value along keys. Only tables have entries to go on with. -/
def walk? (heap : Heap) : List Key → Value → Option Value
  | [], v => some v
  | key :: keys, v => v.table?.bind fun t => heap.walk? keys ((heap.table t).get key)

variable {heap : Heap} {v w : Value} {vs : List Value} {dims index : List Nat} {k : Nat}

theorem Lists.walk?_cons (h : heap.Lists v vs) {i : Nat} (hi : vs[i]? = some w) (keys : List Key) :
    heap.walk? (.ofIndex i :: keys) v = heap.walk? keys w := by
  obtain ⟨t, rfl, -, htable⟩ := h
  have hentry : (heap.table t).get (.ofIndex i) = w := by
    rw [htable, Key.ofIndex, Table.get_ofList, hi, Option.getD_some]
  rw [walk?, Value.table?, Option.bind_some, hentry]

end Heap

theorem Session.getElem?_rows {width count i : Nat} (hi : i < count) (vs : List Value) :
    (rows width count vs)[i]? = some ((vs.drop (i * width)).take width) := by
  induction count generalizing vs i with
  | zero => cases hi
  | succ count ih =>
    rw [rows]
    cases i with
    | zero => rw [List.getElem?_cons_zero, Nat.zero_mul, List.drop_zero]
    | succ i =>
      rw [List.getElem?_cons_succ, ih (Nat.lt_of_succ_lt_succ hi), List.drop_drop, Nat.succ_mul,
        Nat.add_comm]

/-- Rows cut out of enough values are full, and hold no other values. -/
theorem Session.length_and_subset_of_mem_rows {width count : Nat} {vs row : List Value}
    (hvs : vs.length = count * width) (h : row ∈ rows width count vs) :
    row.length = width ∧ row ⊆ vs := by
  obtain ⟨i, hrow⟩ := List.mem_iff_getElem?.mp h
  obtain ⟨hi, -⟩ := List.getElem?_eq_some_iff.mp hrow
  rw [length_rows] at hi
  rw [getElem?_rows hi] at hrow
  obtain rfl := Option.some.inj hrow
  refine ⟨?_, List.Subset.trans (List.take_subset _ _) (List.drop_subset _ _)⟩
  -- The rows up to this one are within the values.
  have hwithin : (i + 1) * width ≤ vs.length := hvs ▸ Nat.mul_le_mul_right width hi
  rw [Nat.succ_mul] at hwithin
  rw [List.length_take, List.length_drop]
  omega

theorem exists_getElem?_of_forall₂ {α β : Type} {R : α → β → Prop} {xs : List α} {ys : List β}
    (h : List.Forall₂ R xs ys) {i : Nat} {x : α} (hx : xs[i]? = some x) :
    ∃ y, ys[i]? = some y ∧ R x y := by
  induction h generalizing i with
  | nil => cases hx
  | cons hhead _ ih =>
    cases i with
    | zero =>
      obtain rfl := Option.some.inj hx
      exact ⟨_, rfl, hhead⟩
    | succ i => exact ih hx

/-- A walk along nested tables by the keys of an index vector ends at the value in its position. -/
theorem Heap.Shaped.walk?_eq_some {heap : Heap} {dims index : List Nat} {vs : List Value}
    {v w : Value} {k : Nat} (h : heap.Shaped dims vs v) (hdims : dims ≠ [])
    (hk : HostArray.flatIndex? 0 dims index = some k) (hw : vs[k]? = some w) :
    heap.walk? (index.map .ofIndex) v = some w := by
  induction dims generalizing index vs v k with
  | nil => exact absurd rfl hdims
  | cons count dims ih =>
    cases index with
    | nil => cases hk
    | cons i index =>
      obtain ⟨hi, n, hn, rfl⟩ := HostArray.flatIndex?_cons_eq_some_iff.mp hk
      by_cases hlast : dims = []
      · subst hlast
        obtain rfl := List.forall₂_nil_right_iff.mp (HostArray.forall₂_of_flatIndex? hn)
        obtain rfl := Option.some.inj hn
        have hlists : heap.Lists v vs := h
        rw [List.foldr_nil, Nat.mul_one, Nat.add_zero] at hw
        exact hlists.walk?_cons hw []
      · -- The value is in the row of the first index, at the position of the others.
        obtain ⟨inner, hlists, hrows⟩ := (shaped_cons_iff hlast).mp h
        obtain ⟨row, hrow, hshaped⟩ :=
          exists_getElem?_of_forall₂ hrows (Session.getElem?_rows hi vs)
        have hplace : ((vs.drop (i * dims.foldr (· * ·) 1)).take (dims.foldr (· * ·) 1))[n]? =
            some w := by
          rw [List.getElem?_take_of_lt (HostArray.flatIndex?_lt hn), List.getElem?_drop, hw]
        exact (hlists.walk?_cons hrow _).trans (ih hshaped hlast hn hplace)

/-! ## Machine words

A host counts positions and widths in words, which wrap around. An array holds an item for each
index vector, and fewer items than a word can count; so it does not matter that its dimensions may
multiply to more on the way: they do so only if one of them is zero. -/

namespace HostArray

variable {dims index : List Nat} {k word : Nat}

/-- The position of an index vector, counted in words that wrap around at `word`. -/
def flatIndexWrapping? (word : Nat) : Nat → List Nat → List Nat → Option Nat
  | flat, [], [] => some flat
  | flat, d :: dims, i :: index =>
    if i < d then flatIndexWrapping? word ((flat * d + i) % word) dims index else none
  | _, _, _ => none

theorem flatIndexWrapping?_mod (word flat : Nat) (dims index : List Nat) :
    flatIndexWrapping? word (flat % word) dims index =
      (flatIndex? flat dims index).map (· % word) := by
  induction dims generalizing flat index with
  | nil => cases index <;> rfl
  | cons d dims ih =>
    cases index with
    | nil => rfl
    | cons i index =>
      -- A step from a wrapped position wraps to where the step from the position does.
      have hstep : (flat % word * d + i) % word = (flat * d + i) % word := by
        rw [Nat.add_mod, Nat.mod_mul_mod, ← Nat.add_mod]
      rw [flatIndexWrapping?, flatIndex?, hstep, ih]
      split <;> rfl

/-- **Positions in words** are the positions, if a word can count the items. -/
theorem flatIndexWrapping?_eq (h : dims.foldr (· * ·) 1 ≤ word) (index : List Nat) :
    flatIndexWrapping? word 0 dims index = flatIndex? 0 dims index := by
  rw [← Nat.zero_mod word, flatIndexWrapping?_mod, Nat.zero_mod]
  cases hk : flatIndex? 0 dims index with
  | none => rfl
  | some k =>
    rw [Option.map_some, Nat.mod_eq_of_lt (Nat.lt_of_lt_of_le (flatIndex?_lt hk) h)]

theorem product_le_append {front back : List Nat} (hback : 0 ∉ back) :
    front.foldr (· * ·) 1 ≤ (front ++ back).foldr (· * ·) 1 := by
  induction front with
  | nil => exact product_pos hback
  | cons d front ih => exact Nat.mul_le_mul_left d ih

/-- No position on the way wraps around, unless a dimension still to come is zero and refuses every
index. -/
theorem flatIndex?_lt_word {front back : List Nat} (hback : 0 ∉ back)
    (h : (front ++ back).foldr (· * ·) 1 ≤ word) (hk : flatIndex? 0 front index = some k) :
    k < word := by
  have hfront : k < front.foldr (· * ·) 1 := flatIndex?_lt hk
  exact Nat.lt_of_lt_of_le hfront (Nat.le_trans (product_le_append hback) h)

end HostArray

namespace Session

/-- The product of dimensions, in words that wrap around at `word`. -/
def widthWrapping (word : Nat) (dims : List Nat) : Nat := dims.foldr (fun d n => d * n % word) 1

/-- Nested tables, with widths in words that wrap around at `word`. -/
def shapeWrapping (word : Nat) : List Nat → List Value → Update Value
  | [], vs | [_], vs => return .table (← newTable (.ofList vs))
  | count :: d :: dims, vs => do
    let width := widthWrapping word (d :: dims)
    let inner ← (rows width count vs).mapM fun row => shapeWrapping word (d :: dims) row
    return .table (← newTable (.ofList inner))

theorem widthWrapping_cons (word d : Nat) (dims : List Nat) :
    widthWrapping word (d :: dims) = (d :: dims).foldr (· * ·) 1 % word := by
  induction dims generalizing d with
  | nil => rfl
  | cons d' dims ih =>
    show d * widthWrapping word (d' :: dims) % word = d * (d' :: dims).foldr (· * ·) 1 % word
    rw [ih, Nat.mul_mod_mod]

/-- **Nested tables with widths in words** are the nested tables, if there is a value for each index
vector and a word can count the values. -/
theorem shapeWrapping_eq {word : Nat} {dims : List Nat} {vs : List Value}
    (hvs : vs.length = dims.foldr (· * ·) 1) (hword : vs.length < word) :
    shapeWrapping word dims vs = shape dims vs := by
  induction dims generalizing vs with
  | nil => rfl
  | cons count dims ih =>
    cases dims with
    | nil => rfl
    | cons d dims =>
      -- If there are rows at all, the width is at most the number of values.
      have hwidth (hcount : 0 < count) : (d :: dims).foldr (· * ·) 1 < word := by
        refine Nat.lt_of_le_of_lt ?_ hword
        rw [hvs]
        exact Nat.le_mul_of_pos_left _ hcount
      have hrows : rows (widthWrapping word (d :: dims)) count vs =
          rows ((d :: dims).foldr (· * ·) 1) count vs := by
        cases count with
        | zero => rfl
        | succ count => rw [widthWrapping_cons, Nat.mod_eq_of_lt (hwidth (Nat.succ_pos count))]
      have hinner (row : List Value) (hrow : row ∈ rows ((d :: dims).foldr (· * ·) 1) count vs) :
          shapeWrapping word (d :: dims) row = shape (d :: dims) row := by
        obtain ⟨hlength, -⟩ := length_and_subset_of_mem_rows hvs hrow
        have hcount : 0 < count := by
          rw [← length_rows ((d :: dims).foldr (· * ·) 1) count vs]
          exact List.length_pos_of_mem hrow
        exact ih hlength (hlength ▸ hwidth hcount)
      rw [shapeWrapping, shape, hrows, mapM_congr hinner]

end Session

/-! ## Items converted in their turn -/

namespace Session

/-- The session after host values are converted one after the other. -/
def afterItems (s : Session) (items : List HostValue) : Session := ((toScriptAll items).run s).2

/-- An item is converted in its turn, in the session that the items before it leave, and what is
made of it stays as it is while the items after it are converted. -/
theorem getElem?_toScriptAll {items : List HostValue} {k : Nat} {item : HostValue}
    (h : items[k]? = some item) (s : Session) :
    ((toScriptAll items).run s).1[k]? =
        some ((toScript item).run (s.afterItems (items.take k))).1 ∧
      ((toScript item).run (s.afterItems (items.take k))).2.GrowsTo (s.afterItems items) := by
  unfold afterItems
  induction items generalizing s k with
  | nil => cases h
  | cons first items ih =>
    cases k with
    | zero =>
      obtain rfl := Option.some.inj h
      rw [List.take_zero, toScriptAll, toScriptAll]
      exact ⟨rfl, grows_toScriptAll items ((toScript first).run s).2⟩
    | succ k =>
      rw [List.take_succ_cons, toScriptAll, toScriptAll]
      exact ih h ((toScript first).run s).2

/-- **Items keep their coordinates.** An array with an item for each index vector within its
dimensions has an item at these and no other vectors, each item at one of them. Without a custom
conversion for arrays, a walk along the tables it becomes, by the keys of such a vector, ends at
what is made of the item there in its turn; and that is still as it was made. -/
theorem array_items_at_coordinates {s t : Session} {array : HostArray} {v : Value}
    (hrank : 1 ≤ array.dims.length)
    (hitems : array.items.length = array.dims.foldr (· * ·) 1)
    (hconverters : s.converters.lookupToScript .hostArray = none)
    (hrun : (toScript (.array array)).run s = (v, t)) :
    (∀ index, (array.get? index).isSome = true ↔ List.Forall₂ (· < ·) index array.dims) ∧
    (∀ k, k < array.items.length →
      ∃! index, HostArray.flatIndex? 0 array.dims index = some k) ∧
    ∀ index, List.Forall₂ (· < ·) index array.dims →
      ∃ k item, HostArray.flatIndex? 0 array.dims index = some k ∧
        array.items[k]? = some item ∧ array.get? index = some item ∧
        t.heap.walk? (index.map .ofIndex) v =
          some ((toScript item).run (s.afterItems (array.items.take k))).1 ∧
        ((toScript item).run (s.afterItems (array.items.take k))).2.GrowsTo t := by
  have hitem (index : List Nat) (hindex : List.Forall₂ (· < ·) index array.dims) :
      ∃ k item, HostArray.flatIndex? 0 array.dims index = some k ∧
        array.items[k]? = some item ∧ array.get? index = some item := by
    obtain ⟨k, hk, hlt⟩ := HostArray.exists_flatIndex? hindex
    rw [← hitems] at hlt
    refine ⟨k, array.items.get ⟨k, hlt⟩, hk, List.getElem?_eq_getElem hlt, ?_⟩
    rw [HostArray.get?, hk, Option.bind_some, List.getElem?_eq_getElem hlt]
    rfl
  refine ⟨fun index => ⟨fun hsome => ?_, fun hindex => ?_⟩, fun k hk => ?_, fun index hindex => ?_⟩
  · obtain ⟨item, hget⟩ := Option.isSome_iff_exists.mp hsome
    obtain ⟨k, hk, -⟩ := Option.bind_eq_some_iff.mp hget
    exact HostArray.forall₂_of_flatIndex? hk
  · obtain ⟨k, item, -, -, hget⟩ := hitem index hindex
    rw [hget]
    rfl
  · exact HostArray.existsUnique_flatIndex? (hitems ▸ hk)
  · obtain ⟨k, item, hk, hplace, hget⟩ := hitem index hindex
    obtain ⟨hvalue, hgrown⟩ := getElem?_toScriptAll hplace s
    have hlookup : (HostValue.array array).hostType?.bind s.converters.lookupToScript = none :=
      hconverters
    rw [run_toScript_of_standard hlookup] at hrun
    obtain ⟨rfl, rfl⟩ := Prod.mk.inj hrun
    have hshaped := shaped_shape array.dims ((toScriptAll array.items).run s).1
      (s.afterItems array.items)
    refine ⟨k, item, hk, hplace, hget, ?_, ?_⟩
    · exact hshaped.walk?_eq_some (List.length_pos_iff.mp hrank) hk hvalue
    · exact hgrown.trans (grows_shape array.dims _ (s.afterItems array.items))

/-- In an array of two rows and three columns with holes, the first item of the second row is behind
the keys 2 and 1, and the hole beside the first item is nil. -/
theorem array_items_at_coordinates_with_holes :
    ∃ (array : HostArray) (v : Value) (t : Session),
      array = ⟨.any, [2, 3], [.bool true, .null, .number 1, .text "a", .void, .bool false]⟩ ∧
      (toScript (.array array)).run (bare 1) = (v, t) ∧
      t.heap.walk? [.index 2, .index 1] v = some (.string "a") ∧
      t.heap.walk? [.index 1, .index 2] v = some .nil ∧
      ∀ index, (array.get? index).isSome = true ↔ List.Forall₂ (· < ·) index [2, 3] := by
  let array : HostArray :=
    ⟨.any, [2, 3], [.bool true, .null, .number 1, .text "a", .void, .bool false]⟩
  have hrun : (toScript (.array array)).run (bare 1) =
      (((toScript (.array array)).run (bare 1)).1, ((toScript (.array array)).run (bare 1)).2) :=
    (Prod.eta _).symm
  obtain ⟨hget, -, hwalk⟩ := array_items_at_coordinates (by decide) rfl rfl hrun
  obtain ⟨k, item, hk, hitem, -, htext, -⟩ := hwalk [1, 0] (by decide)
  obtain rfl : 3 = k := Option.some.inj hk
  obtain rfl := Option.some.inj hitem
  obtain ⟨k, item, hk, hitem, -, hhole, -⟩ := hwalk [0, 1] (by decide)
  obtain rfl : 1 = k := Option.some.inj hk
  obtain rfl := Option.some.inj hitem
  exact ⟨array, _, _, rfl, hrun, htext, hhole, hget⟩

end Session

end ScriptHost
