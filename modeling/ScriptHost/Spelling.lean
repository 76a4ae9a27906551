import ScriptHost.Text.UpperCase

/-!
# Spellings of member names

A member may be reached under a name that differs from its own in the style of capitals: `get_value`
also finds `Get_value`, `getValue` and `GetValue`, as far as the enabled rules say.

## Main definitions

* `Spelling`: the rules that are enabled.
* `Spelling.candidates`: the names to try, in order.
-/

namespace ScriptHost

/-- Which styles of a name are tried besides the name itself. -/
structure Spelling where
  /-- Underscores removed, the character after each in upper case. -/
  camelCase : Bool
  /-- The first character in upper case. -/
  upperFirst : Bool
  /-- Both of these. -/
  pascalCase : Bool
deriving DecidableEq, Repr

namespace Spelling

/-- Only the name itself. -/
def exact : Spelling := ⟨false, false, false⟩

/-- Every style. -/
def all : Spelling := ⟨true, true, true⟩

/-- A name with its first character in upper case. -/
def capitalize : List Char → List Char
  | [] => []
  | c :: rest => Text.upper c ++ rest

/-- A name in camel case: underscores go, except at the start, and the character after them is put
in upper case. `started` says whether something was written, `raise` whether an underscore was just
passed. -/
def camelFrom (started raise : Bool) : List Char → List Char
  | [] => []
  | c :: rest =>
    if c = '_' ∧ started then camelFrom started true rest
    else if raise then Text.upper c ++ camelFrom true false rest
    else c :: camelFrom true false rest

/-- A name in camel case. -/
def camel (name : List Char) : List Char := camelFrom false false name

/-- A list with one more entry, unless it is there already. -/
def withNew (names : List String) (name : String) : List String :=
  if name ∈ names then names else names ++ [name]

/-- **The names to try** for a member, without repetition and the name itself first. -/
def candidates (s : Spelling) (name : String) : List String :=
  let cs := name.toList
  let styles :=
    (if s.upperFirst then [capitalize cs] else []) ++
    (if s.camelCase then [camel cs] else []) ++
    (if s.pascalCase then [capitalize (camel cs)] else [])
  (styles.map String.ofList).foldl withNew [name]

end Spelling

end ScriptHost
