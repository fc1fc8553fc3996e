import Defusal.Datum.Basic
import Defusal.Number.Fraction

/-!
# Values as text

Two ways to show a value. `literal` writes it as one would write it down: texts in quotes, lists in
brackets, a comma after the only item of a tuple. `shown` differs from it for texts and dates
alone, which stand for themselves. Both fail on a value that holds a number too long to write.

A collection that holds itself is written out once; where it turns up again inside, there is a mark
in its place.

Values are followed to any depth. The limit that there is to the nesting of what is followed is left
out here, as everywhere but in the reading of documents (`Fault.nestedTooDeep`).
-/

namespace Defusal.Datum

/-- The items of a sequence between two brackets. -/
def bracketed (opening closing : String) (items : List String) : String :=
  opening ++ ", ".intercalate items ++ closing

/-- The items of a tuple: a single item is followed by a comma. -/
def tupleText : List String → String
  | [item] => "(" ++ item ++ ",)"
  | items => bracketed "(" ")" items

/-- The items of a set; the empty set has a name, since empty braces are a map. -/
def setText : List String → String
  | [] => "set()"
  | items => bracketed "\x7b" "\x7d" items

/-- An instruction written down, from its opcode and the written form of its operands. -/
def instructionText (op : String) (operands : String) : String :=
  "Instruction(op=" ++ Text.quoted op ++ ", args=" ++ operands ++ ")"

/-- The mark for a collection inside itself. -/
def mark : Datum → String
  | map _ => "\x7b...\x7d"
  | tuple _ => "(...)"
  | _ => "[...]"

/-- How a value is written when it is told how those are written that its links stand for. -/
abbrev Writing : Type := (Nat → Except Fault String) → Except Fault String

/-- The collection of a ring at a position as it is written, inside those at some other positions.
The ways to write the collections come with their marks. -/
def writeRing (parts : List (String × Writing)) : Nat → List Nat → Nat → Except Fault String
  | 0, _, _ => .ok ""
  | fuel + 1, outside, n =>
    match parts[n]? with
    | none => .ok ""
    | some (_, writing) => writing fun m =>
      if (n :: outside).contains m then .ok ((parts[m]?.map Prod.fst).getD "")
      else writeRing parts fuel (n :: outside) m

mutual

/-- A value as it is written down, given what its links stand for. -/
def literalWith : Datum → Writing
  | null, _ => .ok "None"
  | bool b, _ => .ok (if b then "True" else "False")
  | int n, _ => Numeral.write n
  | float x, _ => .ok x.text
  | text s, _ => .ok (Text.quoted s)
  | bytes content, _ => .ok (Text.quotedBytes content)
  | date d, _ => .ok d.literal
  | moment m, _ => .ok m.literal
  | list items, follow => do return bracketed "[" "]" (← literals items follow)
  | tuple items, follow => do return tupleText (← literals items follow)
  | set items, follow => do return setText (← literals items follow)
  | map entries, follow => do return bracketed "\x7b" "\x7d" (← literalEntries entries follow)
  | instruction op operands, follow => do
    return instructionText op (tupleText (← literals operands follow))
  | ring parts n, _ => writeRing (partWritings parts) parts.length [] n
  | link n, follow => follow n

/-- Values as they are written down. -/
def literals : List Datum → (Nat → Except Fault String) → Except Fault (List String)
  | [], _ => .ok []
  | d :: ds, follow => do
    let s ← literalWith d follow
    return s :: (← literals ds follow)

/-- The entries of a map as they are written down. -/
def literalEntries :
    List (Datum × Datum) → (Nat → Except Fault String) → Except Fault (List String)
  | [], _ => .ok []
  | (k, v) :: entries, follow => do
    let key ← literalWith k follow
    let value ← literalWith v follow
    return (key ++ ": " ++ value) :: (← literalEntries entries follow)

/-- The ways to write the collections of a ring, with their marks. -/
def partWritings : List Datum → List (String × Writing)
  | [] => []
  | d :: ds => (mark d, literalWith d) :: partWritings ds

end

/-- A value as it is written down. -/
def literal (d : Datum) : Except Fault String := literalWith d fun _ => .ok (mark (link 0))

/-- A value as it is shown: texts and dates stand for themselves. -/
def shown : Datum → Except Fault String
  | text s => .ok s
  | date d => .ok d.text
  | moment m => .ok m.text
  | d => literal d

example : (literal (.tuple [.text "a", .list [], .int (-3)])).toOption = some "('a', [], -3)" := by
  decide +kernel

example : (literal (.ring [.list [.int 1, .link 0, .link 1], .list [.link 0]] 0)).toOption
    = some "[1, [...], [[...]]]" := by
  decide +kernel

end Defusal.Datum
