import ScriptHost.Value.Basic

/-!
# Raw equality

Equality of script values without metamethods: by content for nil, booleans, numbers and strings, by
identity for tables, functions, objects and requests, and element by element for tuples.

## Main definitions

* `Value.same`: raw equality.
-/

namespace ScriptHost.Value

mutual

/-- **Raw equality** of values. -/
def same : Value → Value → Bool
  | nil, nil => true
  | bool a, bool b => a == b
  | number x, number y => x == y
  | string s, string t => s == t
  | table t, table u => t == u
  | function f, function g => f.stamp == g.stamp
  | userdata u, userdata w => u.object.stamp == w.object.stamp
  | tuple xs, tuple ys => sameAll xs ys
  | request r, request s => r.stamp == s.stamp
  | _, _ => false

/-- Raw equality of lists of values, which includes equal length. -/
def sameAll : List Value → List Value → Bool
  | [], [] => true
  | x :: xs, y :: ys => x.same y && sameAll xs ys
  | _, _ => false

end

end ScriptHost.Value
