import Defusal.Fault

/-!
# UTF-8

Bytes as text. Every character has one encoding, the shortest; surrogates and code points beyond the
last character have none. Bytes that are no text are refused with the first bytes that do not fit
and the reason.

The bytes of a file come in portions. What comes before a portion with a fault is text all the same,
and the place of the fault is counted from where the decoding of its portion starts.
-/

namespace Defusal.Text

/-- Whether a byte continues a character. -/
def isContinuation (b : Nat) : Bool := 0x80 ≤ b && b < 0xC0

/-- Whether the second byte of a character of three or four bytes fits its first one: it rules out
encodings that are too long, surrogates, and code points that are too great. -/
def fitsLead (lead b : Nat) : Bool :=
  isContinuation b
    && !(lead == 0xE0 && b < 0xA0) && !(lead == 0xED && 0xA0 ≤ b)
    && !(lead == 0xF0 && b < 0x90) && !(lead == 0xF4 && 0x90 ≤ b)

/-- The number of bytes of a character by its first byte; zero for a byte that starts none. -/
def lengthOfLead (b : Nat) : Nat :=
  if b < 0x80 then 1
  else if 0xC2 ≤ b && b < 0xE0 then 2
  else if 0xE0 ≤ b && b < 0xF0 then 3
  else if 0xF0 ≤ b && b < 0xF5 then 4
  else 0

/-- The bytes after the first one that belong to the same character, at most so many. -/
def continuations (lead : Nat) (rest : List Nat) (count : Nat) : List Nat :=
  match rest.take count with
  | [] => []
  | b :: more => if fitsLead lead b then b :: more.takeWhile isContinuation else []

/-- The code point of a first byte and the bytes that continue it. -/
def codePoint (lead : Nat) (more : List Nat) : Nat :=
  let low := match more.length with
    | 0 => lead
    | 1 => lead % 0x20
    | 2 => lead % 0x10
    | _ => lead % 0x08
  more.foldl (fun n b => n * 0x40 + b % 0x40) low

/-- Decodes bytes that start at a position; `fuel` bounds the number of characters. The bytes of an
incomplete character at the end are left over. -/
def decodeFrom : Nat → (position : Nat) → List Nat → Except Fault (List Char × List Nat)
  | 0, _, _ => .ok ([], [])
  | _, _, [] => .ok ([], [])
  | fuel + 1, position, lead :: rest =>
    let length := lengthOfLead lead
    if length = 0 then .error (.undecodable [lead] position "invalid start byte")
    else
      let more := continuations lead rest (length - 1)
      if more.length + 1 = length then do
        let (cs, left) ← decodeFrom fuel (position + length) (rest.drop more.length)
        return (Char.ofNat (codePoint lead more) :: cs, left)
      else if more.length = rest.length then .ok ([], lead :: more)
      else .error (.undecodable (lead :: more) position "invalid continuation byte")

/-- The number of bytes in a portion. -/
def portionSize : Nat := 8192

/-- Decodes bytes portion by portion, each after what the one before left over: the text of the
portions without a fault, and the fault after them. `fuel` bounds the number of portions. -/
def decodePortions : Nat → (left : List Nat) → List Nat → List Char × Option Fault
  | 0, _, _ => ([], none)
  | fuel + 1, left, bytes =>
    if bytes.isEmpty then
      ([], if left.isEmpty then none else some (.undecodable left 0 "unexpected end of data"))
    else
      let portion := left ++ bytes.take portionSize
      match decodeFrom portion.length 0 portion with
      | .ok (cs, left) =>
        let (more, fault?) := decodePortions fuel left (bytes.drop portionSize)
        (cs ++ more, fault?)
      | .error f => ([], some f)

/-- The text of some bytes, up to the portion with the first fault, and that fault. -/
def decode (bytes : ByteArray) : List Char × Option Fault :=
  decodePortions (bytes.size + 1) [] (bytes.toList.map UInt8.toNat)

end Defusal.Text
