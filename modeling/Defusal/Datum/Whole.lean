import Defusal.Datum.Shown

/-!
# Whole numbers from values

Three readings of a value as a whole number, from the most to the least forgiving. `lenient` takes
what it can and answers zero otherwise; it reads operands and the player's input. `strict` accepts
numbers, and texts or bytes that are numerals; it reads line numbers. `exact` accepts whole numbers
and numerals of two bases; it reads the fields of a level.
-/

namespace Defusal.Datum

/-- The whole number that a value stands for as an operand: fractions are cut, a text gives the
number it starts with, and everything else is zero. -/
def lenient : Datum → Except Fault Int
  | bool b => .ok (if b then 1 else 0)
  | int n => .ok n
  | float x => .ok (x.truncate?.getD 0)
  | text s => Numeral.readLeading s
  | _ => .ok 0

/-- Reads bytes as a decimal numeral; only ASCII characters are read. -/
def ofBytes (content : List UInt8) : Except Fault Int :=
  let chars := content.map fun b => if b < 0x80 then Text.charOfByte b else '\uFFFD'
  match Numeral.read 10 (String.ofList chars) with
  | .error (.badNumeral base _) => .error (.badNumeral base (Text.quotedBytes content))
  | outcome => outcome

/-- The whole number that a value is converted to, if there is one. -/
def strict : Datum → Except Fault Int
  | bool b => .ok (if b then 1 else 0)
  | int n => .ok n
  | float .nan => .error .notANumber
  | float (.infinite _) => .error .infiniteNumber
  | float x => .ok (x.truncate?.getD 0)
  | text s => Numeral.read 10 s
  | bytes content => ofBytes content
  | d => .error (.notNumeric d.typeName)

/-- The whole number that a field of a level gives: a number, a decimal numeral, or a hexadecimal
one after `0x`. -/
def exact : Datum → Except Fault Int
  | int n => .ok n
  | text s => Numeral.read (if s.toList.take 2 = ['0', 'x'] then 16 else 10) s
  | d => do .error (.badInteger (← d.shown))

end Defusal.Datum
