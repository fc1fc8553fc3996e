import Defusal.Text.Printable

/-!
# Quoted text

The quoted form of a text, as it appears inside messages: a single quote on both sides, or double
quotes if the text holds a single quote and no double one. A backslash escapes itself, the chosen
quote and the three common controls; every other character that is not printable is given by its
code point, in the shortest of three widths. Bytes are quoted likewise after a `b`; of them only
those of printable ASCII characters stand for themselves.
-/

namespace Defusal.Text

/-- A number in lower-case hexadecimal digits, filled up with zeros to a width. -/
def hexDigits (width n : Nat) : List Char :=
  let ds := Nat.toDigits 16 n
  List.replicate (width - ds.length) '0' ++ ds

/-- An unprintable character by its code point. -/
def escapeCodePoint (c : Char) : List Char :=
  let n := c.toNat
  if n < 0x100 then '\\' :: 'x' :: hexDigits 2 n
  else if n < 0x10000 then '\\' :: 'u' :: hexDigits 4 n
  else '\\' :: 'U' :: hexDigits 8 n

/-- The spelling of one character between two quotes of the given kind. -/
def quotedChar (mark c : Char) : List Char :=
  if c = mark || c = '\\' then ['\\', c]
  else if c = '\t' then ['\\', 't']
  else if c = '\n' then ['\\', 'n']
  else if c = '\r' then ['\\', 'r']
  else if isPrintable c then [c]
  else escapeCodePoint c

/-- The quote that needs the fewest escapes: the double one only where it avoids all of them. -/
def quoteMark (cs : List Char) : Char :=
  if cs.contains '\'' && !cs.contains '"' then '"' else '\''

/-- The quoted form of a text. -/
def quoted (s : String) : String :=
  let mark := quoteMark s.toList
  String.ofList (mark :: s.toList.flatMap (quotedChar mark) ++ [mark])

/-- The character that a byte is the code point of. -/
def charOfByte (b : UInt8) : Char := Char.ofNat b.toNat

/-- The spelling of one byte between two quotes of the given kind. -/
def quotedByte (mark : Char) (b : UInt8) : List Char :=
  if b < 0x80 then quotedChar mark (charOfByte b) else escapeCodePoint (charOfByte b)

/-- The quoted form of bytes. -/
def quotedBytes (bytes : List UInt8) : String :=
  let mark := quoteMark (bytes.map charOfByte)
  String.ofList ('b' :: mark :: bytes.flatMap (quotedByte mark) ++ [mark])

example : quoted "it's" = "\"it's\"" ∧ quoted "a\n\x00" = "'a\\n\\x00'" := by decide +kernel

end Defusal.Text
