import Defusal.Number.Fraction
import Defusal.Text.Base64
import Defusal.Text.Small
import Defusal.Yaml.Tag

/-!
# Scalars

The value of a scalar from its text, as its tag says. A text that does not fit the tag is a fault.
-/

namespace Defusal.Yaml

/-- The value of a row of sixtieths. -/
def ofSixtieths (parts : List Int) : Int := parts.foldl (fun n d => n * 60 + d) 0

/-- A whole number from its characters without sign and underscores. -/
def unsignedWhole (cs : List Char) : Except Fault Int :=
  let read (base : Nat) (cs : List Char) := Numeral.read base (String.ofList cs)
  match cs with
  | [] => .error .noSuchPosition
  | ['0'] => .ok 0
  | '0' :: 'b' :: rest => read 2 rest
  | '0' :: 'x' :: rest => read 16 rest
  | '0' :: rest => read 8 ('0' :: rest)
  | cs =>
    if cs.contains ':' then do return ofSixtieths (← (colonParts cs).mapM (read 10))
    else read 10 cs

/-- A whole number from its text, underscores dropped. -/
def wholeValue (s : String) : Except Fault Int := do
  let (negative, body) := Numeral.splitSign (s.toList.filter (· != '_'))
  let n ← unsignedWhole body
  return if negative then -n else n

/-- A fraction from the text of a decimal one. -/
def decimalValue (cs : List Char) : Except Fault Binary64 :=
  match Binary64.read? (String.ofList cs) with
  | some x => .ok x
  | none => .error (.badFraction (Text.quoted (String.ofList cs)))

/-- The value of a row of sixtieths whose last part may be a fraction, least part first, when the
present part counts so many units. Each count must itself be within the fractions. -/
def sixtiethsValue (unit : Nat) (sum : Binary64) : List Binary64 → Except Fault Binary64
  | [] => .ok sum
  | x :: xs =>
    match x.times? unit with
    | some y => sixtiethsValue (unit * 60) (sum.plus y) xs
    | none => .error .tooLargeForFraction

/-- The name of what is not a number. -/
def nanName : List Char := ['.', 'n', 'a', 'n']

/-- A fraction from its small characters without sign and underscores. -/
def unsignedFraction (cs : List Char) : Except Fault Binary64 :=
  if cs = ['.', 'i', 'n', 'f'] then .ok (.infinite false)
  else if cs = nanName then .ok .nan
  else if cs.contains ':' then do
    sixtiethsValue 1 (.zero false) (← (colonParts cs).mapM decimalValue).reverse
  else decimalValue cs

/-- The sign of a fraction and its small characters, underscores dropped. -/
def fractionParts (s : String) : Bool × List Char :=
  Numeral.splitSign (Text.smalls (s.toList.filter (· != '_')))

/-- A fraction from its text. -/
def fractionValue (s : String) : Except Fault Binary64 := do
  if s.toList.all (· == '_') then .error .noSuchPosition
  let (negative, body) := fractionParts s
  let x ← unsignedFraction body
  return if negative then x.negate else x

/-- A truth value from its text. -/
def truthValue (s : String) : Except Fault Bool :=
  let small := String.ofList (Text.smalls s.toList)
  if trueTexts.contains small then .ok true
  else if falseTexts.contains small then .ok false
  else .error .missingKey

/-- Bytes from their text. -/
def bytesValue (s : String) : Except Fault (List UInt8) :=
  match if s.toList.all (·.toNat < 0x80) then Text.Base64.decode? s.toList else none with
  | some bytes => .ok bytes
  | none => .error .malformedDocument

/-- A date or moment from its text. -/
def timestampValue (s : String) : Except Fault Datum :=
  match Timestamp.ofChars? (withoutFinalFeed s.toList) with
  | some t => t.value
  | none => .error .lacksMember

/-- The value of a scalar; only the tags of scalars have a meaning. -/
def scalarValue (tag text : String) : Except Fault Datum :=
  if tag = textTag then .ok (.text text)
  else if tag = nullTag then .ok .null
  else if tag = boolTag then do return .bool (← truthValue text)
  else if tag = intTag then do return .int (← wholeValue text)
  else if tag = floatTag then do return .float (← fractionValue text)
  else if tag = timestampTag then timestampValue text
  else if tag = binaryTag then do return .bytes (← bytesValue text)
  else .error .malformedDocument

end Defusal.Yaml
