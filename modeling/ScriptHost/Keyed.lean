/-!
# Keyed lists

A small finite map: a list of pairs in which every key stands once. Entries keep the order of their
last insertion, newest first.

## Main definitions

* `Keyed`: the type.
* `Keyed.get?`, `Keyed.insert`, `Keyed.erase`: access by key.

## Main results

* `Keyed.get?_insert`, `Keyed.get?_erase`: an operation changes one key and no other.
-/

namespace ScriptHost

/-- **A finite map** as a list of pairs. -/
structure Keyed (κ ν : Type) where
  entries : List (κ × ν)

namespace Keyed

variable {κ ν : Type} [DecidableEq κ]

/-- The map without entries. -/
def empty : Keyed κ ν := ⟨[]⟩

instance : Inhabited (Keyed κ ν) := ⟨empty⟩

/-- The value at a key. -/
def get? (m : Keyed κ ν) (k : κ) : Option ν := (m.entries.find? (·.1 = k)).map (·.2)

/-- The map without a key. -/
def erase (m : Keyed κ ν) (k : κ) : Keyed κ ν := ⟨m.entries.filter (·.1 ≠ k)⟩

/-- The map with a value at a key, in place of one that was there. -/
def insert (m : Keyed κ ν) (k : κ) (v : ν) : Keyed κ ν := ⟨(k, v) :: (m.erase k).entries⟩

/-- Whether there are no entries. -/
def isEmpty (m : Keyed κ ν) : Bool := m.entries.isEmpty

/-- The keys, in no particular order. -/
def keys (m : Keyed κ ν) : List κ := m.entries.map (·.1)

@[simp] theorem get?_empty (k : κ) : (empty : Keyed κ ν).get? k = none := rfl

theorem get?_of_isEmpty {m : Keyed κ ν} (h : m.isEmpty = true) (k : κ) : m.get? k = none := by
  simp [get?, List.isEmpty_iff.mp h]

theorem get?_erase (m : Keyed κ ν) (k j : κ) :
    (m.erase k).get? j = if j = k then none else m.get? j := by
  unfold get? erase
  induction m.entries with
  | nil => simp
  | cons e rest ih =>
    by_cases hk : e.1 = k <;> by_cases hj : e.1 = j <;> by_cases hjk : j = k <;>
      simp_all

theorem get?_insert (m : Keyed κ ν) (k j : κ) (v : ν) :
    (m.insert k v).get? j = if j = k then some v else m.get? j := by
  by_cases h : j = k
  · subst h
    simp [get?, insert]
  · have hk : ¬ k = j := fun e => h e.symm
    have := get?_erase m k j
    simp only [h, if_false] at this ⊢
    rw [← this]
    simp [get?, insert, hk]

end Keyed

end ScriptHost
