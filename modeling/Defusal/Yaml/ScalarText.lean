import Defusal.Fault
import Defusal.Yaml.Cursor

/-!
# The text of scalars

How the text of a scalar is read in each of its written forms: plain, in single or double quotes,
and as a block after `|` or `>`. Inside plain and quoted scalars a single line break folds into a
space and further ones are kept.
-/

namespace Defusal.Yaml

/-- The fault of a text that is no document. -/
def malformed {α : Type} : Except Fault α := .error .malformedDocument

/-! ## Line breaks inside scalars -/

/-- What the line breaks between two parts of a scalar stand for: the first one folds into a space
if it is plain and alone. -/
def foldBreaks (first others : List Char) : List Char :=
  (if first != ['\n'] then first else if others.isEmpty then [' '] else []) ++ others

/-- Further line breaks in a quoted scalar with the blanks around them; a document marker is not
allowed there. -/
def takeQuotedBreaks : Nat → Cursor → Except Fault (List Char × Cursor)
  | 0, c => .ok ([], c)
  | fuel + 1, c =>
    if c.atDocumentMarker then malformed
    else
      let c := c.dropWhile fun ch => ch == ' ' || ch == '\t'
      if isBreak c.peek then do
        let (br, c) := c.takeBreak
        let (more, c) ← takeQuotedBreaks fuel c
        return (br ++ more, c)
      else .ok ([], c)

/-- Further line breaks in a plain scalar with the spaces around them; `none` if a document marker
ends the scalar there. -/
def takePlainBreaks : Nat → Cursor → Option (List Char) × Cursor
  | 0, c => (some [], c)
  | fuel + 1, c =>
    let c := c.dropWhile (· == ' ')
    if isBreak c.peek then
      let (br, c) := c.takeBreak
      if c.atDocumentMarker then (none, c)
      else
        let (more, c) := takePlainBreaks fuel c
        (more.map (br ++ ·), c)
    else (some [], c)

/-! ## Plain scalars -/

/-- What a plain scalar leaves behind: its text, and whether it ended after a line break. -/
structure PlainText where
  text : List Char
  afterBreak : Bool
  cursor : Cursor

/-- The spaces and line breaks after a part of a plain scalar: the text they stand for, whether
there was a line break, and the cursor after them. The text is empty where the scalar ends. -/
def takePlainSpaces (c : Cursor) : List Char × Bool × Cursor :=
  let (spaces, c) := c.takeWhile (· == ' ')
  if isBreak c.peek then
    let (br, c) := c.takeBreak
    if c.atDocumentMarker then ([], true, c)
    else
      match takePlainBreaks c.fuel c with
      | (none, c) => ([], true, c)
      | (some breaks, c) => (foldBreaks br breaks, true, c)
  else (spaces, false, c)

/-- The length of the part of a plain scalar at the start of a text: up to a blank, up to a colon
that ends a key, and inside a flow collection up to one of its marks. -/
def plainLength (inFlow : Bool) : List Char → Nat
  | [] => 0
  | ch :: rest =>
    let after := rest.headD '\x00'
    let endsKey := ch == ':'
      && (isGap after || (inFlow && [',', '[', ']', '\x7b', '\x7d'].contains after))
    let isMark := inFlow && [',', '?', '[', ']', '\x7b', '\x7d'].contains ch
    if isGap ch || endsKey || isMark then 0 else plainLength inFlow rest + 1

/-- Reads a plain scalar whose further lines must be indented at least so far. `gap` is what stands
between the part read last and the next one. -/
def takePlainFrom (inFlow : Bool) (indent : Int) :
    Nat → (text gap : List Char) → (afterBreak : Bool) → Cursor → PlainText
  | 0, text, _, afterBreak, c => ⟨text, afterBreak, c⟩
  | fuel + 1, text, gap, afterBreak, c =>
    let length := if c.peek == '#' then 0 else plainLength inFlow c.rest
    if length = 0 then ⟨text, afterBreak, c⟩
    else
      let text := text ++ gap ++ c.rest.take length
      let (gap, broke, c) := takePlainSpaces (c.skip length)
      if gap.isEmpty || c.peek == '#' || (!inFlow && (c.column : Int) < indent) then
        ⟨text, broke, c⟩
      else takePlainFrom inFlow indent fuel text gap broke c

/-- Reads a plain scalar. -/
def takePlain (inFlow : Bool) (indent : Int) (c : Cursor) : PlainText :=
  takePlainFrom inFlow indent c.fuel [] [] false c

/-! ## Quoted scalars -/

/-- What an escape of one character stands for. -/
def simpleEscape? (ch : Char) : Option Char :=
  [('0', '\x00'), ('a', '\x07'), ('b', '\x08'), ('t', '\t'), ('\t', '\t'), ('n', '\n'),
   ('v', '\x0b'), ('f', '\x0c'), ('r', '\r'), ('e', '\x1b'), (' ', ' '), ('"', '"'), ('\\', '\\'),
   ('/', '/'), ('N', '\u0085'), ('_', '\u00a0'), ('L', '\u2028'), ('P', '\u2029')].lookup ch

/-- The number of hexadecimal digits after an escape that gives a code point. -/
def escapeWidth? (ch : Char) : Option Nat := [('x', 2), ('u', 4), ('U', 8)].lookup ch

/-- The value of a hexadecimal digit. -/
def hexValue? (ch : Char) : Option Nat :=
  if '0' ≤ ch && ch ≤ '9' then some (ch.toNat - '0'.toNat)
  else if 'a' ≤ ch && ch ≤ 'f' then some (ch.toNat - 'a'.toNat + 10)
  else if 'A' ≤ ch && ch ≤ 'F' then some (ch.toNat - 'A'.toNat + 10)
  else none

/-- The character of a code point. Half of a surrogate pair is none. -/
def ofCodePoint (n : Nat) : Except Fault Char :=
  if h : n.isValidChar then .ok (Char.ofNatAux n h)
  else if n ≤ 0x10FFFF then .error .loneSurrogate
  else if n < 0x80000000 then .error .codePointOutOfRange
  else .error .codePointTooLarge

/-- Reads what follows a backslash in double quotes. -/
def takeEscape (c : Cursor) : Except Fault (List Char × Cursor) := do
  let ch := c.peek
  match simpleEscape? ch, escapeWidth? ch with
  | some r, _ => return ([r], c.next)
  | none, some width =>
    let ds := (c.rest.drop 1).take width
    match ds.mapM hexValue? with
    | some values =>
      if values.length < width then malformed
      else return ([← ofCodePoint (values.foldl (fun n d => n * 16 + d) 0)], c.skip (width + 1))
    | none => malformed
  | none, none =>
    if isBreak ch then takeQuotedBreaks c.fuel c.takeBreak.2 else malformed

/-- Reads the characters of a quoted scalar up to a blank, a break, or the closing quote. -/
def takeQuotedWord (double : Bool) : Nat → Cursor → Except Fault (List Char × Cursor)
  | 0, c => .ok ([], c)
  | fuel + 1, c => do
    let (taken, c) := c.takeWhile fun ch => !(isGap ch || ch == '\'' || ch == '"' || ch == '\\')
    let ch := c.peek
    let step : Option (Except Fault (List Char × Cursor)) :=
      if !double && ch == '\'' && c.peekAt 1 == '\'' then some (.ok (['\''], c.skip 2))
      else if (double && ch == '\'') || (!double && (ch == '"' || ch == '\\')) then
        some (.ok ([ch], c.next))
      else if double && ch == '\\' then some (takeEscape c.next)
      else none
    match step with
    | none => return (taken, c)
    | some read =>
      let (piece, c) ← read
      let (more, c) ← takeQuotedWord double fuel c
      return (taken ++ piece ++ more, c)

/-- Reads the blanks and line breaks between two words of a quoted scalar. -/
def takeQuotedSpaces (c : Cursor) : Except Fault (List Char × Cursor) :=
  let (blanks, c) := c.takeWhile fun ch => ch == ' ' || ch == '\t'
  if c.rest.isEmpty then .error .unfinishedDocument
  else if isBreak c.peek then do
    let (br, c) := c.takeBreak
    let (breaks, c) ← takeQuotedBreaks c.fuel c
    return (foldBreaks br breaks, c)
  else .ok (blanks, c)

/-- Reads a quoted scalar from its first word up to its closing quote. -/
def takeQuotedFrom (double : Bool) : Nat → Cursor → Except Fault (List Char × Cursor)
  | 0, _ => malformed
  | fuel + 1, c => do
    let (word, c) ← takeQuotedWord double c.fuel c
    if c.peek == (if double then '"' else '\'') then return (word, c.next)
    else
      let (space, c) ← takeQuotedSpaces c
      let (more, c) ← takeQuotedFrom double fuel c
      return (word ++ space ++ more, c)

/-- Reads a quoted scalar; the cursor stands on its opening quote. -/
def takeQuoted (double : Bool) (c : Cursor) : Except Fault (List Char × Cursor) :=
  takeQuotedFrom double c.fuel c.next

/-! ## Block scalars -/

/-- What becomes of the line breaks at the end of a block scalar. -/
inductive Chomping where
  | strip
  | clip
  | keep
  deriving DecidableEq

/-- The sign of a chomping. -/
def chompingOf? (ch : Char) : Option Chomping :=
  if ch == '+' then some .keep else if ch == '-' then some .strip else none

/-- The digit of an indentation; zero is none. -/
def indentationOf? (ch : Char) : Option Nat :=
  if '0' ≤ ch && ch ≤ '9' then some (ch.toNat - '0'.toNat) else none

/-- Reads the signs after `|` or `>` in either order. -/
def takeBlockSigns (c : Cursor) : Except Fault (Chomping × Option Nat × Cursor) := do
  let (chomping, increment, c) :=
    match chompingOf? c.peek, indentationOf? c.peek with
    | some ch, _ =>
      match indentationOf? c.next.peek with
      | some n => (ch, some n, c.skip 2)
      | none => (ch, none, c.next)
    | none, some n =>
      match chompingOf? c.next.peek with
      | some ch => (ch, some n, c.skip 2)
      | none => (.clip, some n, c.next)
    | none, none => (.clip, none, c)
  if increment = some 0 || !endsWord c.peek then malformed else return (chomping, increment, c)

/-- Skips the rest of a line that may hold nothing but a comment. -/
def skipCommentLine (c : Cursor) : Except Fault Cursor :=
  let c := c.dropWhile (· == ' ')
  let c := if c.peek == '#' then c.dropWhile (!endsLine ·) else c
  if endsLine c.peek then .ok c.takeBreak.2 else malformed

/-- The blank lines before the first line of a block scalar, and the widest indentation seen. -/
def takeBlockLead : Nat → (widest : Nat) → Cursor → List Char × Nat × Cursor
  | 0, widest, c => ([], widest, c)
  | fuel + 1, widest, c =>
    if c.peek == ' ' then
      let c := c.next
      takeBlockLead fuel (max widest c.column) c
    else if isBreak c.peek then
      let (br, c) := c.takeBreak
      let (more, widest, c) := takeBlockLead fuel widest c
      (br ++ more, widest, c)
    else ([], widest, c)

/-- Skips spaces up to a column. -/
def skipIndent (indent : Nat) : Nat → Cursor → Cursor
  | 0, c => c
  | fuel + 1, c => if c.column < indent && c.peek == ' ' then skipIndent indent fuel c.next else c

/-- The blank lines before a further line of a block scalar. -/
def takeBlockBreaks (indent : Nat) : Nat → Cursor → List Char × Cursor
  | 0, c => ([], c)
  | fuel + 1, c =>
    let c := skipIndent indent c.fuel c
    if isBreak c.peek then
      let (br, c) := c.takeBreak
      let (more, c) := takeBlockBreaks indent fuel c
      (br ++ more, c)
    else ([], c)

/-- Reads the lines of a block scalar. `breaks` are the blank lines before the next one. The answer
is the text without the breaks at its end, then the last break and the blank lines after it. -/
def takeBlockLines (folded : Bool) (indent : Nat) :
    Nat → (breaks : List Char) → Cursor → List Char × List Char × List Char × Cursor
  | 0, breaks, c => ([], [], breaks, c)
  | fuel + 1, breaks, c =>
    let startsWithWord := !(c.peek == ' ' || c.peek == '\t')
    let (line, c) := c.takeWhile (!endsLine ·)
    let (br, c) := c.takeBreak
    let (next, c) := takeBlockBreaks indent c.fuel c
    if c.column = indent && !c.rest.isEmpty then
      let joint :=
        if folded && br == ['\n'] && startsWithWord && !(c.peek == ' ' || c.peek == '\t') then
          if next.isEmpty then [' '] else []
        else br
      let (text, last, trailing, c) := takeBlockLines folded indent fuel next c
      (breaks ++ line ++ joint ++ text, last, trailing, c)
    else (breaks ++ line, br, next, c)

/-- Reads a block scalar inside a block that is indented so far; the cursor stands on its sign. -/
def takeBlock (folded : Bool) (outer : Int) (c : Cursor) : Except Fault (List Char × Cursor) := do
  let (chomping, increment, c) ← takeBlockSigns c.next
  let c ← skipCommentLine c
  let least := (max (outer + 1) 1).toNat
  let (breaks, indent, c) := match increment with
    | some n =>
      let indent := least + n - 1
      let (breaks, c) := takeBlockBreaks indent c.fuel c
      (breaks, indent, c)
    | none =>
      let (breaks, widest, c) := takeBlockLead c.fuel 0 c
      (breaks, max least widest, c)
  let (text, last, trailing, c) :=
    if c.column = indent && !c.rest.isEmpty then takeBlockLines folded indent c.fuel breaks c
    else ([], [], breaks, c)
  let ending := match chomping with
    | .strip => []
    | .clip => last
    | .keep => last ++ trailing
  return (text ++ ending, c)

end Defusal.Yaml
