/-!
# Reading positions

A document is read character by character. A cursor is what is left of the text together with the
position reached: characters from the start, lines, and characters since the last line break. The
end of the text reads as the null character, which no document may hold.
-/

namespace Defusal.Yaml

/-! ## Characters -/

/-- Breaks a line. -/
def isBreak (c : Char) : Bool :=
  c == '\n' || c == '\r' || c == '\u0085' || c == '\u2028' || c == '\u2029'

/-- Breaks a line or ends the text. -/
def endsLine (c : Char) : Bool := c == '\x00' || isBreak c

/-- A space, or the end of a line or of the text. -/
def endsWord (c : Char) : Bool := c == ' ' || endsLine c

/-- A space or tab, or the end of a line or of the text. -/
def isGap (c : Char) : Bool := c == '\t' || endsWord c

/-- Occurs in the names of anchors, directives and tag handles. -/
def isNameChar (c : Char) : Bool :=
  ('0' ≤ c && c ≤ '9') || ('A' ≤ c && c ≤ 'Z') || ('a' ≤ c && c ≤ 'z') || c == '-' || c == '_'

/-- The mark of the byte order, which may open a text and takes up no column. -/
def byteOrderMark : Char := '\uFEFF'

/-- The characters that a document may hold, as inclusive ranges of code points. -/
def allowedRanges : List (Nat × Nat) :=
  [(0x09, 0x0A), (0x0D, 0x0D), (0x20, 0x7E), (0x85, 0x85), (0xA0, 0xD7FF), (0xE000, 0xFFFD),
   (0x10000, 0x10FFFF)]

/-- May occur in a document. -/
def isAllowed (c : Char) : Bool := allowedRanges.any fun r => r.1 ≤ c.toNat && c.toNat ≤ r.2

/-! ## Cursors -/

/-- What is left of a text, and the position reached. -/
structure Cursor where
  rest : List Char
  index : Nat
  line : Nat
  column : Nat
  deriving Inhabited

namespace Cursor

/-- The cursor at the start of a text. -/
def start (text : List Char) : Cursor := ⟨text, 0, 0, 0⟩

/-- The next character. -/
def peek (c : Cursor) : Char := c.rest.headD '\x00'

/-- The character so many places ahead. -/
def peekAt (c : Cursor) (n : Nat) : Char := c.rest[n]?.getD '\x00'

/-- The cursor after the next character. A carriage return before a line feed does not yet break
the line. -/
def next (c : Cursor) : Cursor :=
  match c.rest with
  | [] => c
  | ch :: rest =>
    if isBreak ch && !(ch == '\r' && rest.head? == some '\n') then
      ⟨rest, c.index + 1, c.line + 1, 0⟩
    else if ch == byteOrderMark then ⟨rest, c.index + 1, c.line, c.column⟩
    else ⟨rest, c.index + 1, c.line, c.column + 1⟩

/-- The cursor so many characters later. -/
def skip (c : Cursor) : Nat → Cursor
  | 0 => c
  | n + 1 => c.next.skip n

/-- The characters from here on that satisfy a test, and the cursor after them. -/
def takeWhile (p : Char → Bool) (c : Cursor) : List Char × Cursor :=
  let taken := c.rest.takeWhile p
  (taken, c.skip taken.length)

/-- The cursor after the characters from here on that satisfy a test. -/
def dropWhile (p : Char → Bool) (c : Cursor) : Cursor := (c.takeWhile p).2

/-- A line break at the cursor as the text it stands for, and the cursor after it: most breaks
stand for a line feed, the two separator characters for themselves. -/
def takeBreak (c : Cursor) : List Char × Cursor :=
  match c.rest with
  | '\r' :: '\n' :: _ => (['\n'], c.skip 2)
  | ch :: _ =>
    if ch == '\u2028' || ch == '\u2029' then ([ch], c.next)
    else if isBreak ch then (['\n'], c.next)
    else ([], c)
  | [] => ([], c)

/-- Whether a marker of three characters stands here as a word of its own. -/
def atMarker (c : Cursor) (marker : List Char) : Bool :=
  c.rest.take 3 == marker && isGap (c.peekAt 3)

/-- The marker that starts a document. -/
def documentStart : List Char := ['-', '-', '-']

/-- The marker that ends a document. -/
def documentEnd : List Char := ['.', '.', '.']

/-- Whether a marker of a document's start or end stands here. -/
def atDocumentMarker (c : Cursor) : Bool := c.atMarker documentStart || c.atMarker documentEnd

/-- A number of steps that no reading of the rest exceeds. -/
def fuel (c : Cursor) : Nat := c.rest.length + 2

end Cursor

end Defusal.Yaml
