import Defusal.Number.Numeral
import Defusal.Yaml.Timestamp

/-!
# Tags

The tag of a node tells what it stands for. A scalar without a tag of its own gets one from its text
if it is plain: null, a truth value, a whole number in one of five notations, a fraction, a
timestamp, one of the two marks for merging and for a default value, or a sign alone.
-/

namespace Defusal.Yaml

/-! ## Tags -/

/-- The common beginning of the tags of the core types. -/
def coreTag (name : String) : String := "tag:yaml.org,2002:" ++ name

/-- The tag of a text. -/
def textTag : String := coreTag "str"

/-- The tag of null. -/
def nullTag : String := coreTag "null"

/-- The tag of truth values. -/
def boolTag : String := coreTag "bool"

/-- The tag of whole numbers. -/
def intTag : String := coreTag "int"

/-- The tag of fractions. -/
def floatTag : String := coreTag "float"

/-- The tag of timestamps. -/
def timestampTag : String := coreTag "timestamp"

/-- The tag of bytes. -/
def binaryTag : String := coreTag "binary"

/-- The tag of the key that merges other maps into a map. -/
def mergeTag : String := coreTag "merge"

/-- The tag of the mark for a default value. -/
def defaultTag : String := coreTag "value"

/-- The tag of the signs of tags, anchors and aliases where they stand alone; it has no values. -/
def signTag : String := coreTag "yaml"

/-- The tag of lists. -/
def sequenceTag : String := coreTag "seq"

/-- The tag of maps. -/
def mappingTag : String := coreTag "map"

/-- The tag of sets, which are written as maps whose values do not matter. -/
def setTag : String := coreTag "set"

/-- The tag of lists of pairs with different keys. -/
def orderedTag : String := coreTag "omap"

/-- The tag of lists of pairs. -/
def pairsTag : String := coreTag "pairs"

/-! ## Recognising plain scalars -/

/-- The texts of true. -/
def trueTexts : List String :=
  ["yes", "Yes", "YES", "true", "True", "TRUE", "on", "On", "ON"]

/-- The texts of false. -/
def falseTexts : List String :=
  ["no", "No", "NO", "false", "False", "FALSE", "off", "Off", "OFF"]

/-- The texts of null. -/
def nullTexts : List String := ["", "~", "null", "Null", "NULL"]

/-- A decimal digit or an underscore. -/
def isDigitOrLine (c : Char) : Bool := Text.isAsciiDigit c || c == '_'

/-- Drops a sign. -/
def unsigned (cs : List Char) : List Char := (Numeral.splitSign cs).2

/-- A group of sixtieths: one digit, or two of which the first is below six. -/
def isSixtieth : List Char → Bool
  | [a] => Text.isAsciiDigit a
  | [a, b] => '0' ≤ a && a ≤ '5' && Text.isAsciiDigit b
  | _ => false

/-- The parts of a text between colons. -/
def colonParts (cs : List Char) : List (List Char) := cs.splitOn ':'

/-- Whether a text without its sign is a row of sixtieths after a first group of digits. -/
def isSixtieths (firstFromOne : Bool) (cs : List Char) : Bool :=
  match colonParts cs with
  | (c :: first) :: part :: parts =>
    (if firstFromOne then '1' ≤ c && c ≤ '9' else Text.isAsciiDigit c) && first.all isDigitOrLine
      && (part :: parts).all isSixtieth
  | _ => false

/-- Whether a text is a whole number: binary, octal, decimal, hexadecimal or in sixtieths. -/
def isWhole (cs : List Char) : Bool :=
  match unsigned cs with
  | '0' :: 'b' :: d :: ds => (d :: ds).all fun c => c == '0' || c == '1' || c == '_'
  | '0' :: 'x' :: d :: ds =>
    (d :: ds).all fun c => isDigitOrLine c || ('a' ≤ c && c ≤ 'f') || ('A' ≤ c && c ≤ 'F')
  | ['0'] => true
  | '0' :: ds => ds.all fun c => ('0' ≤ c && c ≤ '7') || c == '_'
  | d :: ds => (Text.isAsciiDigit d && ds.all isDigitOrLine) || isSixtieths true (d :: ds)
  | [] => false

/-- Whether a text is empty or the exponent of a fraction, which must have a sign. -/
def isExponent : List Char → Bool
  | [] => true
  | e :: sign :: d :: ds =>
    (e == 'e' || e == 'E') && (sign == '+' || sign == '-') && (d :: ds).all Text.isAsciiDigit
  | _ => false

/-- Whether a text is a fraction: with digits before its point and a sign if need be, with digits
only after its point and no sign, in sixtieths, infinite, or not a number. -/
def isFraction (cs : List Char) : Bool :=
  let body := unsigned cs
  let afterPoint (rest : List Char) : Bool := isExponent (rest.dropWhile isDigitOrLine)
  let startsWithDigits := match body with
    | d :: ds =>
      Text.isAsciiDigit d && match ds.dropWhile isDigitOrLine with
        | '.' :: rest => afterPoint rest
        | _ => false
    | [] => false
  let startsWithPoint := match cs with
    | '.' :: d :: rest => Text.isAsciiDigit d && afterPoint rest
    | _ => false
  let sixtieths :=
    let (whole, rest) := (body.takeWhile (· != '.'), body.dropWhile (· != '.'))
    isSixtieths false whole && match rest with
      | '.' :: rest => rest.all isDigitOrLine
      | _ => false
  let infinite := ([".inf", ".Inf", ".INF"].map String.toList).contains body
  let notANumber := ([".nan", ".NaN", ".NAN"].map String.toList).contains cs
  startsWithDigits || startsWithPoint || sixtieths || infinite || notANumber

/-- A text without the line feed at its end. A line feed alone stays. -/
def withoutFinalFeed (cs : List Char) : List Char :=
  if cs.length != 1 && cs.getLast? == some '\n' then cs.dropLast else cs

/-- The tag of a plain scalar. A line feed at the end of the text does not count. -/
def plainTag (s : String) : String :=
  let cs := withoutFinalFeed s.toList
  let line := String.ofList cs
  if nullTexts.contains line then nullTag
  else if trueTexts.contains line || falseTexts.contains line then boolTag
  else if isFraction cs then floatTag
  else if isWhole cs then intTag
  else if Timestamp.isPlain cs then timestampTag
  else if line = "<<" then mergeTag
  else if line = "=" then defaultTag
  else if ["!", "&", "*"].contains line then signTag
  else textTag

end Defusal.Yaml
