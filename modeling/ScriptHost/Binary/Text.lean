import ScriptHost.Binary.Shortest
import ScriptHost.Numeral

/-!
# Binary numbers as text

Numbers are written positionally with their shortest digits, never with an exponent, and read from
decimals with an optional exponent, rounding to nearest.

## Main definitions

* `Format.text`: a pattern as text.
* `Scientific`, `Scientific.read?`: the decimals that are read.
* `Format.read?`: a text as a pattern.
-/

namespace ScriptHost.Binary

/-- **Writing**: the text of a pattern. A negative zero keeps its sign. -/
def Format.text (f : Format) (bits : Nat) : String :=
  let sign (negative : Bool) (cs : List Char) := String.ofList (if negative then '-' :: cs else cs)
  match f.parts bits with
  | .nan => "NaN"
  | .infinite negative => sign negative "inf".toList
  | .finite negative 0 _ => sign negative ['0']
  | .finite negative m q =>
    let (digits, e) := f.shortest m q
    sign negative (Numeral.positional digits e)

/-- A decimal `digits * 10 ^ exponent`. -/
structure Scientific where
  digits : Nat
  exponent : Int
deriving DecidableEq, Repr

namespace Scientific

/-- The number denoted by decimal digits. -/
def value (ds : List Char) : Nat :=
  ds.foldl (fun n c => n * 10 + (c.toNat - '0'.toNat)) 0

/-- The magnitude of an exponent. Digits after it has reached sixteen bits do not count. -/
def magnitude (ds : List Char) : Nat :=
  ds.foldl (fun n c => if n < Nat.pow 2 16 then n * 10 + (c.toNat - '0'.toNat) else n) 0

/-- An exponent: a sign, then one or more digits. -/
def exponent? (cs : List Char) : Option Int :=
  let (negative, ds) :=
    match cs with
    | '-' :: rest => (true, rest)
    | '+' :: rest => (false, rest)
    | _ => (false, cs)
  if ds.isEmpty || !ds.all Char.isDigit then none
  else some (if negative then -(magnitude ds : Int) else magnitude ds)

/-- **Reading a decimal**: digits with an optional point, at least one digit in all, and an optional
exponent. -/
def read? (cs : List Char) : Option Scientific :=
  let whole := cs.takeWhile Char.isDigit
  let afterWhole := cs.dropWhile Char.isDigit
  let (fraction, rest) :=
    match afterWhole with
    | '.' :: r => (r.takeWhile Char.isDigit, r.dropWhile Char.isDigit)
    | _ => ([], afterWhole)
  if whole.isEmpty && fraction.isEmpty then none
  else
    let shift : Option Int :=
      match rest with
      | [] => some 0
      | c :: r => if c = 'e' ∨ c = 'E' then exponent? r else none
    shift.map fun e => ⟨value (whole ++ fraction), e - fraction.length⟩

/-- The magnitude pattern nearest to a decimal. A decimal with a large exponent is beyond the
largest number, and one below `2 ^ (log2 digits + 1 + 3 * exponent)` may be far below the
smallest. -/
def nearest (s : Scientific) (f : Format) : Nat :=
  let reach : Int := Int.pow 2 f.exponentBits
  if s.digits = 0 then 0
  else if reach < s.exponent then f.infinity
  else if s.exponent < 0 ∧ s.digits.log2 + 1 + 3 * s.exponent < -reach then 0
  else f.nearest (s.digits * Nat.pow 10 s.exponent.toNat) (Nat.pow 10 (-s.exponent).toNat)

end Scientific

/-- **Reading**: an optional sign, then a decimal or, in any case of letters, `inf`, `infinity` or
`nan`. -/
def Format.read? (f : Format) (cs : List Char) : Option Nat :=
  let (negative, body) :=
    match cs with
    | '-' :: rest => (true, rest)
    | '+' :: rest => (false, rest)
    | _ => (false, cs)
  let word := String.ofList (body.map Char.toLower)
  if word = "inf" ∨ word = "infinity" then some (f.signed negative f.infinity)
  else if word = "nan" then some (f.signed negative f.quietNan)
  else (Scientific.read? body).map fun s => f.signed negative (s.nearest f)

end ScriptHost.Binary
