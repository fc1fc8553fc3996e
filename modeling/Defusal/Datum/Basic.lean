import Defusal.Calendar
import Defusal.Number.Binary64

/-!
# Data

The plain values that levels are written in and that instructions take as operands. An instruction
is a value too: a program may hold instructions that are already built next to texts and maps that
describe them. The entries of a map are in the order in which their keys were first written.

A collection can hold itself, directly or through others. The collections that hold one another
form a ring: each is written with links in the place of those of the ring, and a link gives the
position of the one that it stands for. `opened` follows the links one step, so that whoever reads
a value sees an ordinary collection.
-/

namespace Defusal

/-- A plain value. -/
inductive Datum where
  | null
  | bool (b : Bool)
  | int (n : Int)
  | float (x : Binary64)
  | text (s : String)
  | bytes (content : List UInt8)
  | date (d : Date)
  | moment (m : Moment)
  | list (items : List Datum)
  | tuple (items : List Datum)
  | set (items : List Datum)
  | map (entries : List (Datum × Datum))
  | instruction (op : String) (operands : List Datum)
  /-- One of the collections of a ring, by its position. -/
  | ring (parts : List Datum) (position : Nat)
  /-- Within a ring, its collection at a position. -/
  | link (position : Nat)
  deriving Inhabited

namespace Datum

/-! ## Rings -/

/-- A collection with its links replaced. -/
def mapLinks (follow : Nat → Datum) (d : Datum) : Datum :=
  let replaced : Datum → Datum
    | link n => follow n
    | item => item
  match d with
  | list items => list (items.map replaced)
  | tuple items => tuple (items.map replaced)
  | map entries => map (entries.map fun e => (e.1, replaced e.2))
  | d => d

/-- The positions that the links of a collection give. -/
def links (d : Datum) : List Nat :=
  let position? : Datum → Option Nat
    | link n => some n
    | _ => none
  match d with
  | list items | tuple items => items.filterMap position?
  | map entries => entries.filterMap fun e => position? e.2
  | _ => []

/-- A collection of a ring as an ordinary one; every other value is itself. -/
def opened : Datum → Datum
  | ring parts n => (parts.getD n null).mapLinks (ring parts)
  | d => d

/-! ## What a value is -/

/-- The name of a value's type, as messages give it. -/
def typeName : Datum → String
  | null | link _ => "NoneType"
  | bool _ => "bool"
  | int _ => "int"
  | float _ => "float"
  | text _ => "str"
  | bytes _ => "bytes"
  | date _ => "datetime.date"
  | moment _ => "datetime.datetime"
  | list _ => "list"
  | tuple _ => "tuple"
  | set _ => "set"
  | map _ => "dict"
  | instruction .. => "Instruction"
  | ring parts n =>
    match parts[n]? with
    | some (map _) => "dict"
    | some (tuple _) => "tuple"
    | _ => "list"

/-- What a value yields when it is gone through: the items of a list, tuple or set, the keys of a
map, the characters of a text, the numbers of bytes; nothing else can be gone through. -/
def elements? (d : Datum) : Option (List Datum) :=
  match d.opened with
  | list items | tuple items | set items => some items
  | map entries => some (entries.map Prod.fst)
  | text s => some (s.toList.map fun c => text (String.singleton c))
  | bytes content => some (content.map fun b => int b.toNat)
  | _ => none

/-- The elements of a value, or the fault that it has none. -/
def elements (d : Datum) : Except Fault (List Datum) :=
  match d.elements? with
  | some items => .ok items
  | none => .error .wrongType

/-- The value at a text key in the entries of a map. -/
def field? (name : String) : List (Datum × Datum) → Option Datum
  | [] => none
  | (text s, v) :: entries => if s = name then some v else field? name entries
  | _ :: entries => field? name entries

/-- Whether a value counts as nothing: null, false, zero, or something without elements. -/
def isVoid : Datum → Bool
  | null => true
  | bool b => !b
  | int n => n == 0
  | float (.finite _ m _) => m == 0
  | text s => s.isEmpty
  | bytes content => content.isEmpty
  | list items | tuple items | set items => items.isEmpty
  | map entries => entries.isEmpty
  | _ => false

/-- Whether a value can be the key of a map: one that holds a list, a set or a map cannot. -/
def isKey : Datum → Bool
  | list _ | set _ | map _ | ring .. => false
  | tuple items | instruction _ items => allKeys items
  | _ => true
where
  /-- Whether all of some values can be keys. -/
  allKeys : List Datum → Bool
    | [] => true
    | d :: ds => isKey d && allKeys ds

end Datum

end Defusal
