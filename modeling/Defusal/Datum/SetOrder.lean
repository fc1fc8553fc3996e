import Defusal.Datum.Basic

/-!
# The order of sets

A set of numbers has an order of its own, which does not follow from their sizes: each number has a
hash, the hash gives a slot of a table, and the set is gone through by slots. Where a slot is taken,
the next ones are tried, and then others that depend on more of the hash. Members that are no
numbers have no hash that is known beforehand; a set with such members keeps the order in which they
were written.
-/

namespace Defusal.Datum

/-- The prime that hashes of numbers are residues of. -/
def hashModulus : Nat := Nat.pow 2 61 - 1

/-- The hash of an infinite number. -/
def infiniteHash : Nat := 314159

/-- Gives a hash its sign; minus one is no hash. -/
def signedHash (negative : Bool) (n : Nat) : Int :=
  if !negative then n else if n = 1 then -2 else -n

/-- The hash of a number. The halves of a fraction count as the number that doubles back to it among
the residues, where two has the order sixty-one. -/
def hash? : Datum → Option Int
  | bool b => some (if b then 1 else 0)
  | int n => some (signedHash (n < 0) (n.natAbs % hashModulus))
  | float (.infinite negative) => some (signedHash negative infiniteHash)
  | float (.finite negative m e) =>
    some (signedHash negative (m * Nat.pow 2 (e % 61).toNat % hashModulus))
  | _ => none

/-- A hash as a machine word. -/
def wordOfHash (h : Int) : Nat := (h % (Nat.pow 2 64 : Nat)).toNat

/-- The number of slots for so many members: a power of two, more than twice as many. -/
def slotCount (count : Nat) : Nat := if count < 5 then 8 else Nat.pow 2 (Nat.log2 (2 * count) + 1)

/-- The number of slots that are tried in a row if the table has as many from there on. -/
def rowLength : Nat := 10

/-- The first free slot for a hash, beginning with a given slot. `left` is the part of the hash that
has had no say yet; `fuel` bounds the number of rows. -/
def freeSlot (size : Nat) (taken : List Nat) : Nat → (slot left : Nat) → Nat
  | 0, slot, _ => slot
  | fuel + 1, slot, left =>
    let row := List.range (if slot + rowLength ≤ size then rowLength else 1)
    match (row.map (slot + ·)).find? (!taken.contains ·) with
    | some free => free
    | none =>
      let left := left / 32
      freeSlot size taken fuel ((slot * 5 + 1 + left) % size) left

/-- Puts members with their hashes into the slots of a table, one after the other. Once the hash is
used up, the rows go through all slots. -/
def place (size : Nat) (members : List (Int × Datum)) : List (Nat × Datum) :=
  members.foldl
    (fun placed m =>
      let word := wordOfHash m.1
      (freeSlot size (placed.map Prod.fst) (size + 16) (word % size) word, m.2) :: placed)
    []

/-- The members of a set in its order, from the order in which they were written. -/
def setOrder (members : List Datum) : List Datum :=
  match members.mapM fun d => d.hash?.map fun h => (h, d) with
  | some hashed =>
    let size := slotCount members.length
    let placed := place size hashed
    (List.range size).filterMap fun slot => placed.lookup slot
  | none => members

end Defusal.Datum
