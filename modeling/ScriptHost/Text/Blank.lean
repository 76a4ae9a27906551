/-!
# Blank characters

The characters with the Unicode property `White_Space`, and texts with those removed at both ends.

## Main definitions

* `isBlank`: membership in the property.
* `trim`: a text without its leading and trailing blanks.
-/

namespace ScriptHost.Text

/-- The ranges of code points with the property `White_Space`, in increasing order. -/
def blankRanges : List (Nat × Nat) :=
  [(0x09, 0x0D), (0x20, 0x20), (0x85, 0x85), (0xA0, 0xA0), (0x1680, 0x1680), (0x2000, 0x200A),
    (0x2028, 0x2029), (0x202F, 0x202F), (0x205F, 0x205F), (0x3000, 0x3000)]

/-- Whether `c` has the property `White_Space`. -/
def isBlank (c : Char) : Bool :=
  blankRanges.any fun (low, high) => low ≤ c.toNat && c.toNat ≤ high

/-- **Trimming**: the characters between the first and the last that are not blank. -/
def trimChars (cs : List Char) : List Char :=
  ((cs.dropWhile isBlank).reverse.dropWhile isBlank).reverse

/-- The characters of a text, trimmed. -/
def trim (s : String) : List Char := trimChars s.toList

@[simp] theorem trimChars_nil : trimChars [] = [] := rfl

/-- A text that neither starts nor ends with a blank is its own trimmed form. -/
theorem trimChars_of_ends {cs : List Char} (first : ∀ c ∈ cs.head?, isBlank c = false)
    (last : ∀ c ∈ cs.getLast?, isBlank c = false) : trimChars cs = cs := by
  have drop (l : List Char) (h : ∀ c ∈ l.head?, isBlank c = false) : l.dropWhile isBlank = l := by
    cases l with
    | nil => rfl
    | cons c r => simp [h c (by simp)]
  unfold trimChars
  rw [drop cs first, drop cs.reverse (by simpa using last), List.reverse_reverse]

end ScriptHost.Text
