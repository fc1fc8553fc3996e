import Defusal.Datum.Basic

/-!
# Equal values

When two values count as equal. Numbers are equal by value whatever their type, with true as one
and false as zero; maps are equal if they hold equal values at equal keys, and sets if they hold
equal items, in whatever order. What is not a number equals nothing, itself included, so `same` is
not reflexive.
-/

namespace Defusal.Datum

/-- The number that a boolean counts as. -/
def ofBool (b : Bool) : Int := if b then 1 else 0

/-- Equality of a whole number with the value of a binary fraction. -/
def sameNumber (n : Int) (x : Binary64) : Bool := x.toInt? == some n

mutual

/-- Equality of values. -/
def same : Datum → Datum → Bool
  | null, null => true
  | bool a, bool b => a == b
  | bool a, int n | int n, bool a => ofBool a == n
  | bool a, float x | float x, bool a => sameNumber (ofBool a) x
  | int m, int n => m == n
  | int n, float x | float x, int n => sameNumber n x
  | float x, float y => x.same y
  | text s, text t => s == t
  | bytes xs, bytes ys => xs == ys
  | date d, date e => d == e
  | moment m, moment n => m.same n
  | list xs, list ys => sameAll xs ys
  | tuple xs, tuple ys => sameAll xs ys
  | set xs, set ys => xs.length == ys.length && sameMembers xs ys
  | map xs, map ys => xs.length == ys.length && sameWithin xs ys
  | instruction o xs, instruction p ys => o == p && sameAll xs ys
  | ring xs m, ring ys n => m == n && sameAll xs ys
  | link m, link n => m == n
  | _, _ => false

/-- Equality of values one by one. -/
def sameAll : List Datum → List Datum → Bool
  | [], [] => true
  | x :: xs, y :: ys => same x y && sameAll xs ys
  | _, _ => false

/-- Whether every one of some values has an equal one among others. -/
def sameMembers : List Datum → List Datum → Bool
  | [], _ => true
  | x :: xs, ys => ys.any (same x) && sameMembers xs ys

/-- Whether every entry of one map has an equal one in another. -/
def sameWithin : List (Datum × Datum) → List (Datum × Datum) → Bool
  | [], _ => true
  | (k, v) :: xs, ys => ys.any (fun e => same k e.1 && same v e.2) && sameWithin xs ys

end

/-- Writes an entry of a map: an equal key keeps its place and its spelling. -/
def put (entries : List (Datum × Datum)) (k v : Datum) : List (Datum × Datum) :=
  match entries with
  | [] => [(k, v)]
  | (k', v') :: entries =>
    if same k k' then (k', v) :: entries else (k', v') :: put entries k v

/-- The map of some entries; of entries with equal keys the last gives the value, the first the
place. -/
def mapOf (entries : List (Datum × Datum)) : Datum :=
  map (entries.foldl (fun es e => put es e.1 e.2) [])

end Defusal.Datum
