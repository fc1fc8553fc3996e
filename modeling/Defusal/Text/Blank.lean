/-!
# Blanks and line ends

Which characters count as blank, how a text is trimmed of them, and where a text is cut into
lines. `splitLines` never yields a line that holds a line end, and it yields no empty line after a
final line end.
-/

namespace Defusal.Text

/-- The blank characters, as inclusive ranges of code points: the controls from tab to carriage
return, the four separators before the space, the space itself, and the wider spaces. -/
def blankRanges : List (Nat × Nat) :=
  [(0x09, 0x0D), (0x1C, 0x20), (0x85, 0x85), (0xA0, 0xA0), (0x1680, 0x1680), (0x2000, 0x200A),
   (0x2028, 0x2029), (0x202F, 0x202F), (0x205F, 0x205F), (0x3000, 0x3000)]

/-- Blank characters separate tokens and are trimmed from the ends of a line. -/
def isBlank (c : Char) : Bool :=
  blankRanges.any fun r => r.1 ≤ c.toNat && c.toNat ≤ r.2

/-- Drops the blanks at the start. -/
def trimStart (cs : List Char) : List Char := cs.dropWhile isBlank

/-- Drops the blanks at the end. -/
def trimEnd (cs : List Char) : List Char := (cs.reverse.dropWhile isBlank).reverse

/-- Drops the blanks at both ends. -/
def trim (cs : List Char) : List Char := trimEnd (trimStart cs)

/-! ## Lines -/

/-- The characters that end a line on their own. -/
def lineEnds : List Char :=
  ['\n', '\r', '\x0b', '\x0c', '\x1c', '\x1d', '\x1e', '\u0085', '\u2028', '\u2029']

/-- Ends a line: the line feed, the carriage return and eight rarer characters. -/
def isLineEnd (c : Char) : Bool := lineEnds.contains c

/-- The lines of a text, given the line read so far in reverse. A carriage return and the line
feed after it end one line together. -/
def splitLinesFrom (line : List Char) : List Char → List (List Char)
  | [] => if line.isEmpty then [] else [line.reverse]
  | '\r' :: '\n' :: rest => line.reverse :: splitLinesFrom [] rest
  | c :: rest =>
    if isLineEnd c then line.reverse :: splitLinesFrom [] rest else splitLinesFrom (c :: line) rest

/-- The lines of a text without their line ends. -/
def splitLines (cs : List Char) : List (List Char) := splitLinesFrom [] cs

/-- Rewrites the two-character and the carriage-return line end as a line feed. -/
def unifyLineFeeds : List Char → List Char
  | [] => []
  | '\r' :: '\n' :: rest => '\n' :: unifyLineFeeds rest
  | '\r' :: rest => '\n' :: unifyLineFeeds rest
  | c :: rest => c :: unifyLineFeeds rest

example : isBlank '\t' ∧ isBlank '\u3000' ∧ ¬ isBlank 'x' := by decide
example : trim " a b\t".toList = "a b".toList := by decide
example : splitLines "a\r\nb\n\nc".toList = ["a".toList, "b".toList, [], "c".toList] := by decide
example : splitLines "a\n".toList = ["a".toList] := by decide

end Defusal.Text
