/-!
# Bytes as letters

Bytes written with sixty-four characters, six bits to a character. Four characters stand for three
bytes; an end of two or three characters is filled up with equals signs, and reading stops there.
Characters without a value of their own are skipped.
-/

namespace Defusal.Text.Base64

/-- The six bits that a character stands for. -/
def value? (c : Char) : Option Nat :=
  let n := c.toNat
  if 'A' ≤ c && c ≤ 'Z' then some (n - 'A'.toNat)
  else if 'a' ≤ c && c ≤ 'z' then some (n - 'a'.toNat + 26)
  else if '0' ≤ c && c ≤ '9' then some (n - '0'.toNat + 52)
  else if c = '+' then some 62
  else if c = '/' then some 63
  else none

/-- The bytes of a group of less than four characters, the last bits left out. -/
def partBytes : List Nat → List UInt8
  | [a, b] => [UInt8.ofNat (a * 4 + b / 16)]
  | [a, b, c] => [UInt8.ofNat (a * 4 + b / 16), UInt8.ofNat (b % 16 * 16 + c / 4)]
  | _ => []

/-- The bytes of four characters. -/
def groupBytes (a b c d : Nat) : List UInt8 :=
  [UInt8.ofNat (a * 4 + b / 16), UInt8.ofNat (b % 16 * 16 + c / 4), UInt8.ofNat (c % 4 * 64 + d)]

/-- Reads characters after those of an open group and a number of equals signs; `none` if the last
group is neither full nor filled up. -/
def decodeFrom (group : List Nat) (signs : Nat) : List Char → Option (List UInt8)
  | [] => if group.isEmpty then some [] else none
  | '=' :: cs =>
    if group.length < 2 then decodeFrom group signs cs
    else if 4 ≤ group.length + signs + 1 then some (partBytes group)
    else decodeFrom group (signs + 1) cs
  | c :: cs =>
    match value? c, group with
    | none, _ => decodeFrom group signs cs
    | some d, [a, b, c] => (decodeFrom [] 0 cs).map (groupBytes a b c d ++ ·)
    | some d, _ => decodeFrom (group ++ [d]) 0 cs

/-- The bytes that a text stands for. -/
def decode? (cs : List Char) : Option (List UInt8) := decodeFrom [] 0 cs

example : decode? ['T', 'W', 'E', '='] = some [77, 97] ∧ decode? ['T', 'W', 'E'] = none := by
  decide +kernel

end Defusal.Text.Base64
