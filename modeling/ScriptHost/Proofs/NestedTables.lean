import ScriptHost.Proofs.Growth
import ScriptHost.Proofs.HostTyping

/-!
# Arrays as nested tables

An array of several dimensions becomes tables of tables, one level for each dimension. A table on a
level has an entry for each index of the dimension, whatever the dimensions after it hold; only on
the last level may entries be missing, where items are nil. So a table on a level has as many
entries as the dimension says, and there are tables on a level if no dimension before it is zero.

## Main definitions

* `Table.size`: the number of entries.
* `Heap.Lists`, `Heap.Shaped`: a table of values, and nested tables of values in row-major order.
* `Heap.Within`: the tables on the levels of a value.

## Main results

* `Table.size_ofList_le`, `Table.size_ofList`: how large a table made of values is.
* `Session.shaped_shape`: what is made of values in row-major order.
* `Heap.Shaped.size_le`, `Heap.Shaped.exists_within`: how large the tables on a level are.
-/

namespace ScriptHost

/-! ## The size of a table -/

namespace Table

/-- **The number of entries** of a table. -/
def size (t : Table) : Nat := t.indexed.size + t.named.size

variable {t : Table}

theorem size_set_index_le (t : Table) (i : Int) (v : Value) :
    (t.set (.index i) v).size ≤ t.size + 1 := by
  have hindexed : (if v.isNil then t.indexed.erase i else t.indexed.insert i v).size ≤
      t.indexed.size + 1 := by
    split
    · exact Nat.le_succ_of_le Std.TreeMap.size_erase_le
    · exact Std.TreeMap.size_insert_le
  simp only [set_index, size]
  omega

theorem size_fill_le (t : Table) (n : Nat) (vs : List Value) :
    (t.fill n vs).size ≤ t.size + vs.length := by
  induction vs generalizing t n with
  | nil => exact Nat.le_refl _
  | cons v vs ih =>
    have hset := size_set_index_le t ((n : Int) + 1) v
    have hfill := ih (t.set (.index ((n : Int) + 1)) v) (n + 1)
    rw [fill, List.length_cons]
    omega

/-- A table made of values has at most an entry for each of them. -/
theorem size_ofList_le (vs : List Value) : (ofList vs).size ≤ vs.length := by
  have h := size_fill_le empty 0 vs
  rwa [show empty.size = 0 from rfl, Nat.zero_add] at h

/-- A table made of values other than nil has an entry for each of them. -/
theorem size_ofList {vs : List Value} (h : ∀ v ∈ vs, v.isNil = false) :
    (ofList vs).size = vs.length := by
  have hpresent : vs.length ≤ (ofList vs).indexed.size := by
    refine le_size_of_contains fun i hi => ?_
    rw [contains_ofList, List.getElem?_eq_getElem hi, Option.getD_some, h _ (List.getElem_mem hi)]
    rfl
  have hle := size_ofList_le vs
  rw [size] at hle ⊢
  omega

end Table

/-! ## Nested tables -/

namespace Heap

/-- **A table of values**: one that was made of a list of them. -/
def Lists (heap : Heap) (v : Value) (vs : List Value) : Prop :=
  ∃ t, v = .table t ∧ t.index < heap.tables.size ∧ heap.table t = .ofList vs

/-- Nested tables of values in row-major order, one level for each dimension; an array without
dimensions is a table all the same. -/
def Shaped (heap : Heap) : List Nat → List Value → Value → Prop
  | [], vs, v | [_], vs, v => heap.Lists v vs
  | count :: d :: dims, vs, v => ∃ inner, heap.Lists v inner ∧
      List.Forall₂ (fun row w => heap.Shaped (d :: dims) row w)
        (Session.rows ((d :: dims).foldr (· * ·) 1) count vs) inner

/-- The tables on the levels of a value, down to some level below it. -/
inductive Within (heap : Heap) : Nat → Value → Table → Prop
  | outermost {n : Nat} {t : TableId} : Within heap n (.table t) (heap.table t)
  | entry {n : Nat} {t : TableId} {key : Key} {content : Table}
      (h : Within heap n ((heap.table t).get key) content) :
      Within heap (n + 1) (.table t) content

variable {heap later : Heap} {v : Value} {vs : List Value} {dims : List Nat}

theorem Lists.mono (hextends : heap.Extends later) (h : heap.Lists v vs) : later.Lists v vs := by
  obtain ⟨t, rfl, ht, htable⟩ := h
  exact ⟨t, rfl, Nat.lt_of_lt_of_le ht hextends.size_le, (hextends.table ht).trans htable⟩

theorem lists_newTable (heap : Heap) (vs : List Value) :
    (heap.newTable (.ofList vs)).2.Lists (.table (heap.newTable (.ofList vs)).1) vs :=
  ⟨_, rfl, by simp [newTable], heap.table_newTable _⟩

/-- Nested tables are the same in a later heap. -/
theorem Shaped.mono (hextends : heap.Extends later) (h : heap.Shaped dims vs v) :
    later.Shaped dims vs v := by
  induction dims generalizing vs v with
  | nil => exact Lists.mono hextends h
  | cons count dims ih =>
    cases dims with
    | nil => exact Lists.mono hextends h
    | cons d dims =>
      obtain ⟨inner, hlists, hrows⟩ := h
      exact ⟨inner, hlists.mono hextends, hrows.imp fun row w hw => ih hw⟩

theorem shaped_cons_iff {count : Nat} (hdims : dims ≠ []) :
    heap.Shaped (count :: dims) vs v ↔ ∃ inner, heap.Lists v inner ∧
      List.Forall₂ (heap.Shaped dims) (Session.rows (dims.foldr (· * ·) 1) count vs) inner := by
  cases dims with
  | nil => exact absurd rfl hdims
  | cons d dims => exact Iff.rfl

/-- Nested tables are a table. -/
theorem Shaped.lists (h : heap.Shaped dims vs v) : ∃ inner, heap.Lists v inner := by
  match dims with
  | [] | [_] => exact ⟨vs, h⟩
  | _ :: _ :: _ =>
    obtain ⟨inner, hlists, -⟩ := h
    exact ⟨inner, hlists⟩

theorem Shaped.isNil (h : heap.Shaped dims vs v) : v.isNil = false := by
  obtain ⟨inner, t, rfl, -⟩ := h.lists
  rfl

end Heap

/-! ## Making nested tables -/

/-- Updates one after the other, each of which makes something that lasts while the heap grows. -/
theorem Update.forall₂_mapM {α β : Type} {f : α → Update β} {R : Heap → α → β → Prop}
    (hmono : ∀ {heap later x y}, heap.Extends later → R heap x y → R later x y)
    (hgrows : ∀ x, Update.Grows (f x))
    (hmade : ∀ x (s : Session), R ((f x).run s).2.heap x ((f x).run s).1) (xs : List α)
    (s : Session) :
    List.Forall₂ (R ((xs.mapM f).run s).2.heap) xs ((xs.mapM f).run s).1 := by
  induction xs generalizing s with
  | nil => exact .nil
  | cons x xs ih =>
    rw [List.mapM_cons]
    have hlater := Update.Grows.mapM hgrows xs ((f x).run s).2
    exact .cons (hmono hlater.heap (hmade x s)) (ih ((f x).run s).2)

namespace Session

theorem length_rows (width count : Nat) (vs : List Value) :
    (rows width count vs).length = count := by
  induction count generalizing vs with
  | zero => rfl
  | succ count ih => rw [rows, List.length_cons, ih]

theorem length_le_of_mem_rows {width count : Nat} {vs row : List Value}
    (h : row ∈ rows width count vs) : row.length ≤ width := by
  induction count generalizing vs with
  | zero => cases h
  | succ count ih =>
    rcases List.mem_cons.mp h with rfl | h
    · exact List.length_take_le _ _
    · exact ih h

/-- What is made of values in row-major order is their nested tables. -/
theorem shaped_shape (dims : List Nat) (vs : List Value) (s : Session) :
    ((shape dims vs).run s).2.heap.Shaped dims vs ((shape dims vs).run s).1 := by
  induction dims generalizing vs s with
  | nil => exact s.heap.lists_newTable vs
  | cons count dims ih =>
    cases dims with
    | nil => exact s.heap.lists_newTable vs
    | cons d dims =>
      -- The rows are made one after the other, and then the table that holds them.
      have hrows := Update.forall₂_mapM (R := fun heap row w => heap.Shaped (d :: dims) row w)
        Heap.Shaped.mono (grows_shape (d :: dims)) ih
        (rows ((d :: dims).foldr (· * ·) 1) count vs) s
      simp only [shape]
      refine ⟨_, Heap.lists_newTable _ _, hrows.imp fun row w hw => ?_⟩
      exact hw.mono (Heap.extends_newTable _ _)

end Session

/-! ## How large the tables on a level are -/

namespace Heap

variable {heap : Heap} {v : Value} {vs : List Value} {dims : List Nat}

theorem Within.mono {n m : Nat} {content : Table} (h : heap.Within n v content) (hle : n ≤ m) :
    heap.Within m v content := by
  induction h generalizing m with
  | outermost => exact .outermost
  | entry _ ih =>
    obtain ⟨m, rfl⟩ : ∃ k, m = k + 1 := ⟨m - 1, by omega⟩
    exact .entry (ih (Nat.le_of_succ_le_succ hle))

/-- The tables within a table of values are the table itself and those within the values. -/
theorem Lists.within_cases (h : heap.Lists v vs) {n : Nat} {content : Table}
    (hwithin : heap.Within n v content) :
    content = .ofList vs ∨ ∃ m w, n = m + 1 ∧ w ∈ vs ∧ heap.Within m w content := by
  obtain ⟨t, rfl, -, htable⟩ := h
  cases hwithin with
  | outermost => exact Or.inl htable
  | @entry m _ key _ hentry =>
    rw [htable] at hentry
    rcases Table.get_ofList_eq_nil_or_mem vs key with hnil | hmem
    · rw [hnil] at hentry
      cases hentry
    · exact Or.inr ⟨m, _, rfl, hmem, hentry⟩

/-- No table on a level is larger than the dimension, and there is one only if no dimension
before it is zero. The values must not be more than there are indices. -/
theorem Shaped.size_le (h : heap.Shaped dims vs v) (hvs : vs.length ≤ dims.foldr (· * ·) 1)
    {content : Table} (hwithin : heap.Within (dims.length - 1) v content) :
    content.size ≤ 1 ∨
      ∃ front d back, dims = front ++ d :: back ∧ 0 ∉ front ∧ content.size ≤ d := by
  induction dims generalizing vs v with
  | nil =>
    rcases Lists.within_cases h hwithin with rfl | ⟨m, w, hm, -⟩
    · exact Or.inl (Nat.le_trans (Table.size_ofList_le vs) hvs)
    · cases hm
  | cons count dims ih =>
    by_cases hdims : dims = []
    · subst hdims
      rcases Lists.within_cases h hwithin with rfl | ⟨m, w, hm, -⟩
      · have hsize := Nat.le_trans (Table.size_ofList_le vs) hvs
        exact Or.inr ⟨[], count, [], rfl, List.not_mem_nil, by simpa using hsize⟩
      · cases hm
    · obtain ⟨inner, hlists, hrows⟩ := (shaped_cons_iff hdims).mp h
      rcases hlists.within_cases hwithin with rfl | ⟨m, w, hm, hw, hentry⟩
      · -- The table itself: as many entries as there are rows.
        have hlength := hrows.length_eq
        rw [Session.length_rows] at hlength
        refine Or.inr ⟨[], count, dims, rfl, List.not_mem_nil, ?_⟩
        rw [hlength]
        exact Table.size_ofList_le inner
      · -- A table within a row: then there are rows, so that the first dimension is not zero.
        obtain ⟨row, hrow, hshaped⟩ := exists_mem_of_forall₂ hrows.flip hw
        have hcount : count ≠ 0 := by
          rintro rfl
          cases hrow
        obtain rfl : m = dims.length - 1 := by
          rw [List.length_cons] at hm
          omega
        rcases ih hshaped (Session.length_le_of_mem_rows hrow) hentry with hone | hdim
        · exact Or.inl hone
        · obtain ⟨front, d, back, rfl, hfront, hsize⟩ := hdim
          exact Or.inr ⟨count :: front, d, back, rfl,
            List.not_mem_cons_of_ne_of_not_mem hcount.symm hfront, hsize⟩

/-- **A table on a level before the last** is as large as the dimension, and there is one if no
dimension before it is zero. -/
theorem Shaped.exists_within {front back : List Nat} {d : Nat} (hfront : 0 ∉ front)
    (hback : back ≠ []) (h : heap.Shaped (front ++ d :: back) vs v) :
    ∃ content, heap.Within front.length v content ∧ content.size = d := by
  induction front generalizing vs v with
  | nil =>
    obtain ⟨inner, ⟨t, rfl, -, htable⟩, hrows⟩ := (shaped_cons_iff hback).mp h
    have hsome (w : Value) (hw : w ∈ inner) : w.isNil = false := by
      obtain ⟨row, -, hshaped⟩ := exists_mem_of_forall₂ hrows.flip hw
      exact hshaped.isNil
    refine ⟨_, .outermost, ?_⟩
    rw [htable, Table.size_ofList hsome, ← hrows.length_eq, Session.length_rows]
  | cons count front ih =>
    obtain ⟨hcount, hrest⟩ := not_or.mp (mt List.mem_cons.mpr hfront)
    obtain ⟨count, rfl⟩ : ∃ k, count = k + 1 := ⟨count - 1, by omega⟩
    obtain ⟨inner, ⟨t, rfl, -, htable⟩, hrows⟩ := (shaped_cons_iff (by simp)).mp h
    -- There is a first row, and the table goes on in it.
    obtain ⟨w, ws, hw, -, rfl⟩ := List.forall₂_cons_left_iff.mp hrows
    obtain ⟨content, hwithin, hsize⟩ := ih hrest hw
    have hfirst : (heap.table t).get (.index ((0 : Nat) + 1)) = w := by
      rw [htable, Table.get_ofList]
      rfl
    rw [← hfirst] at hwithin
    exact ⟨content, .entry hwithin, hsize⟩

end Heap

end ScriptHost
