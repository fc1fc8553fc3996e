import Defusal.Number.Binary64

/-!
# The shortest decimal that reads back

A positive finite number is written with the fewest decimal digits that still round to it, and of
those with the digits nearest to its value. The decimals that round to a number form an interval
around it, with both ends if its significand is even. `Shortest.decimal` tries 1, 2, … 17 digits
and takes the first grid that has a point in the interval: only the two grid points next to the
number need a look, because if any point of a grid lies inside, so does one of these.
-/

namespace Defusal.Binary64.Shortest

/-- A positive number as `value / unit`, and the interval of the decimals that round to it, over
the same unit. -/
structure Neighbourhood where
  low : Nat
  value : Nat
  high : Nat
  unit : Nat
  closed : Bool

/-- The neighbourhood of `m · 2 ^ e`. The gap below the least significand of an exponent is half
as wide as the gap above it. -/
def neighbourhood (m : Nat) (e : Int) : Neighbourhood :=
  let below := if m = leastFull ∧ leastExponent < e then 1 else 2
  let (scale, unit) := if 2 ≤ e then (Nat.pow 2 (e - 2).toNat, 1) else (1, Nat.pow 2 (2 - e).toNat)
  { low := (4 * m - below) * scale
    value := 4 * m * scale
    high := (4 * m + 2) * scale
    unit := unit
    closed := m % 2 == 0 }

/-- Whether `d · num / den` rounds to the number. -/
def Neighbourhood.holds (v : Neighbourhood) (d num den : Nat) : Bool :=
  let x := d * num * v.unit
  if v.closed then v.low * den ≤ x && x ≤ v.high * den
  else v.low * den < x && x < v.high * den

/-- The distance of `d · num / den` from the number, over a common denominator. -/
def Neighbourhood.distance (v : Neighbourhood) (d num den : Nat) : Nat :=
  let x := d * num * v.unit
  let y := v.value * den
  (x - y) + (y - x)

/-- A power of ten as a quotient. -/
def powerOfTen (k : Int) : Nat × Nat :=
  if 0 ≤ k then (Nat.pow 10 k.toNat, 1) else (1, Nat.pow 10 (-k).toNat)

/-- The least `k ≥ start` with `value < 10 ^ k`, looked for over `steps` candidates. -/
def pointFrom (v : Neighbourhood) (start : Int) : Nat → Int
  | 0 => start
  | steps + 1 =>
    let (num, den) := powerOfTen start
    if v.value * den < num * v.unit then start else pointFrom v (start + 1) steps

/-- The position of the decimal point: the number lies at or above `10 ^ (k - 1)` and below
`10 ^ k`. -/
def point (v : Neighbourhood) : Int :=
  let bits : Int := (Nat.log2 v.value : Int) - (Nat.log2 v.unit : Int)
  pointFrom v (bits * 3 / 10 - 2) (bits.natAbs / 300 + 8)

/-- The grid point of `count` digits that rounds to the number and is nearest to it, if there is
one; of two equally near, the even one. The answer is a coefficient and a power of ten. -/
def onGrid? (v : Neighbourhood) (k : Int) (count : Nat) : Option (Nat × Int) :=
  let power := k - count
  let (num, den) := powerOfTen power
  let d := v.value * den / (num * v.unit)
  let down := v.holds d num den
  let up := v.holds (d + 1) num den
  if down && up then
    let a := v.distance d num den
    let b := v.distance (d + 1) num den
    if a < b || (a == b && d % 2 == 0) then some (d, power) else some (d + 1, power)
  else if down then some (d, power)
  else if up then some (d + 1, power)
  else none

/-- Removes the zeros at the end of a coefficient; `fuel` bounds their number. -/
def stripZeros : Nat → Nat × Int → Nat × Int
  | 0, x => x
  | fuel + 1, (d, k) => if d ≠ 0 ∧ d % 10 = 0 then stripZeros fuel (d / 10, k + 1) else (d, k)

/-- The shortest decimal `coefficient · 10 ^ power` that rounds to `m · 2 ^ e`. Seventeen digits
always suffice, so the last alternative is not reached. -/
def decimal (m : Nat) (e : Int) : Nat × Int :=
  let v := neighbourhood m e
  let k := point v
  stripZeros 20 (((List.range 17).findSome? fun n => onGrid? v k (n + 1)).getD (0, 0))

end Defusal.Binary64.Shortest
