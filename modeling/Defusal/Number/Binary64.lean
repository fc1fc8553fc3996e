/-!
# Binary fractions

Binary floating-point numbers of 64 bits as exact values: a sign, a whole significand and a power
of two. All arithmetic is on natural numbers; `ofRatio` rounds a quotient to the nearest such
number, ties to the even significand, and every other operation that rounds goes through it.
-/

namespace Defusal

/-- A binary fraction of 64 bits. A finite one is worth `± significand · 2 ^ exponent`, and its
significand lies below `2 ^ 53` and at or above `2 ^ 52` unless the exponent is the least one. -/
inductive Binary64 where
  | nan
  | infinite (negative : Bool)
  | finite (negative : Bool) (significand : Nat) (exponent : Int)
  deriving DecidableEq

namespace Binary64

/-- The least significand of 53 bits. -/
def leastFull : Nat := Nat.pow 2 52

/-- The exponent of the smallest numbers. -/
def leastExponent : Int := -1074

/-- The exponent of the greatest numbers. -/
def greatestExponent : Int := 971

/-- Zero of either sign. -/
def zero (negative : Bool) : Binary64 := .finite negative 0 leastExponent

/-- The whole number nearest to a quotient; a half goes to the even neighbour. -/
def roundDiv (num den : Nat) : Nat :=
  let q := num / den
  let r := num % den
  if 2 * r < den then q
  else if 2 * r = den then q + q % 2
  else q + 1

/-- A quotient divided by a power of two, as a quotient of natural numbers. -/
def scaled (num den : Nat) (e : Int) : Nat × Nat :=
  if 0 ≤ e then (num, den * Nat.pow 2 e.toNat) else (num * Nat.pow 2 (-e).toNat, den)

/-- The exponent at which a positive quotient has a significand of 53 bits, or the least exponent
if that is greater. -/
def exponentFor (num den : Nat) : Int :=
  let guess : Int := (Nat.log2 num : Int) - (Nat.log2 den : Int) - 52
  let (n, d) := scaled num den guess
  let e := if n < d * leastFull then guess - 1 else guess
  max e leastExponent

/-- The number nearest to a quotient; the denominator is positive. -/
def ofRatio (negative : Bool) (num den : Nat) : Binary64 :=
  if num = 0 then zero negative
  else
    let e := exponentFor num den
    let (n, d) := scaled num den e
    let m := roundDiv n d
    let (m, e) := if m = 2 * leastFull then (leastFull, e + 1) else (m, e)
    if greatestExponent < e then .infinite negative else .finite negative m e

/-- The number nearest to a decimal fraction `± coefficient · 10 ^ exponent`. Exponents far beyond
the range of the numbers are settled without computing their power. -/
def ofDecimal (negative : Bool) (coefficient : Nat) (exponent : Int) : Binary64 :=
  let size : Int := (Nat.log2 coefficient : Int) / 4 + exponent
  if coefficient = 0 then zero negative
  else if 400 < size then .infinite negative
  else if (Nat.log2 coefficient : Int) + exponent < -800 then zero negative
  else if 0 ≤ exponent then ofRatio negative (coefficient * Nat.pow 10 exponent.toNat) 1
  else ofRatio negative coefficient (Nat.pow 10 (-exponent).toNat)

/-- The number nearest to a natural number. -/
def ofNat (n : Nat) : Binary64 := ofRatio false n 1

/-- The absolute value of a finite number as a quotient. -/
def ratio (significand : Nat) (exponent : Int) : Nat × Nat :=
  if 0 ≤ exponent then (significand * Nat.pow 2 exponent.toNat, 1)
  else (significand, Nat.pow 2 (-exponent).toNat)

/-- The whole part of a finite number, cut towards zero; `none` for the others. -/
def truncate? : Binary64 → Option Int
  | .finite negative m e =>
    let (num, den) := ratio m e
    let n : Int := (num / den : Nat)
    some (if negative then -n else n)
  | _ => none

/-- The whole number that a finite number equals, if it equals one. -/
def toInt? : Binary64 → Option Int
  | .finite negative m e =>
    let (num, den) := ratio m e
    if num % den = 0 then
      let n : Int := (num / den : Nat)
      some (if negative then -n else n)
    else none
  | _ => none

/-- Equality of values: the two zeros are equal, and what is not a number equals nothing. -/
def same : Binary64 → Binary64 → Bool
  | .nan, _ | _, .nan => false
  | .infinite a, .infinite b => a == b
  | .finite a m e, .finite b n f => m == n && e == f && (a == b || m == 0)
  | _, _ => false

/-- The opposite number. -/
def negate : Binary64 → Binary64
  | .nan => .nan
  | .infinite a => .infinite !a
  | .finite a m e => .finite (!a) m e

/-- The sum of two numbers. Opposite numbers have the sum zero without a minus sign. -/
def plus : Binary64 → Binary64 → Binary64
  | .finite a m e, .finite b n f =>
    let (p, q) := ratio m e
    let (r, s) := ratio n f
    let x : Int := (p * s : Nat)
    let y : Int := (r * q : Nat)
    let sum := (if a then -x else x) + (if b then -y else y)
    if sum = 0 then zero (a && b) else ofRatio (decide (sum < 0)) sum.natAbs (q * s)
  | .nan, _ | _, .nan => .nan
  | .infinite a, .infinite b => if a = b then .infinite a else .nan
  | .infinite a, _ | _, .infinite a => .infinite a

/-- The product with a positive natural number; `none` if that is beyond the finite numbers. -/
def times? (x : Binary64) (k : Nat) : Option Binary64 :=
  match ofNat k, x with
  | .finite _ n f, .finite a m e =>
    let (p, q) := ratio m e
    let (r, s) := ratio n f
    some (ofRatio a (p * r) (q * s))
  | .finite .., x => some x
  | _, _ => none

example : (ofDecimal false 25 (-1)).truncate? = some 2 := by decide +kernel
example : ofDecimal false 1 400 = .infinite false ∧ ofDecimal true 5 (-400) = zero true := by
  decide +kernel

end Binary64

end Defusal
