import Defusal.Yaml.Excerpt
import Defusal.Yaml.ScalarText

/-!
# Tokens

A document as a row of tokens. Most tokens are single characters; the nesting of blocks is made
explicit by tokens for their start and end, which follow from the indentation. Where a text turns
out to be a key only at the colon after it, the key token is inserted before it afterwards.

A text that cannot be cut further ends with a token for the fault, so that a fault found earlier in
the row of tokens comes first. A token that may still get a key before it is not handed out, so the
fault stands where the first such token would. The end of an excerpt that breaks off is such a
fault, as soon as a token reaches it.
-/

namespace Defusal.Yaml

/-- A directive before a document. -/
inductive Directive where
  | version (major : Nat)
  | tagHandle (handle : String) (expansion : String)
  | other

/-- A tag as it is written: a handle and a suffix, or a tag in full. -/
structure TagText where
  handle? : Option String
  suffix : String

/-- A token. -/
inductive Token where
  | directive (d : Directive)
  | documentStart
  | documentEnd
  | blockSequenceStart
  | blockMappingStart
  | blockEnd
  | flowSequenceStart
  | flowSequenceEnd
  | flowMappingStart
  | flowMappingEnd
  | flowEntry
  | blockEntry
  | key
  | value
  | alias (name : String)
  | anchor (name : String)
  | tag (t : TagText)
  | scalar (isPlain : Bool) (text : String)
  | fault (f : Fault)

/-! ## Tokens with a text of their own -/

/-- Reads a name of at least one character. -/
def takeName (c : Cursor) : Except Fault (String × Cursor) :=
  let (name, c) := c.takeWhile isNameChar
  if name.isEmpty then malformed else .ok (String.ofList name, c)

/-- Reads the name of an anchor or alias after its sign. -/
def takeAnchor (c : Cursor) : Except Fault (String × Cursor) := do
  let (name, c) ← takeName c.next
  if isGap c.peek || ['?', ':', ',', ']', '\x7d', '%', '@', '`'].contains c.peek then
    return (name, c)
  else malformed

/-- Occurs in a tag besides the characters of names. -/
def isTagChar (ch : Char) : Bool :=
  isNameChar ch || [';', '/', '?', ':', '@', '&', '=', '+', '$', ',', '.', '!', '~', '*', '\'', '(',
    ')', '[', ']'].contains ch

/-- Reads the escaped bytes of a tag that stand together. -/
def takeTagBytes : Nat → Cursor → Except Fault (List UInt8 × Cursor)
  | 0, c => .ok ([], c)
  | fuel + 1, c =>
    if c.peek == '%' then
      match hexValue? (c.peekAt 1), hexValue? (c.peekAt 2) with
      | some a, some b => do
        let (more, c) ← takeTagBytes fuel (c.skip 3)
        return (UInt8.ofNat (a * 16 + b) :: more, c)
      | _, _ => malformed
    else .ok ([], c)

/-- Reads the characters of a tag. -/
def takeTagCharsFrom : Nat → Cursor → Except Fault (List Char × Cursor)
  | 0, c => .ok ([], c)
  | fuel + 1, c => do
    let (taken, c) := c.takeWhile isTagChar
    if c.peek == '%' then
      let (bytes, c) ← takeTagBytes c.fuel c
      match String.fromUTF8? ⟨bytes.toArray⟩ with
      | some s =>
        let (more, c) ← takeTagCharsFrom fuel c
        return (taken ++ s.toList ++ more, c)
      | none => malformed
    else return (taken, c)

/-- Reads a tag of at least one character. -/
def takeTagChars (c : Cursor) : Except Fault (String × Cursor) := do
  let (cs, c) ← takeTagCharsFrom c.fuel c
  if cs.isEmpty then malformed else return (String.ofList cs, c)

/-- Reads a handle: an exclamation mark, or a name between two. -/
def takeHandle (c : Cursor) : Except Fault (String × Cursor) :=
  if c.peek != '!' then malformed
  else
    let (name, after) := c.next.takeWhile isNameChar
    if after.peek == '!' then .ok (String.ofList ('!' :: name ++ ['!']), after.next)
    else if name.isEmpty && c.peekAt 1 == ' ' then .ok ("!", c.next)
    else malformed

/-- Reads a tag. -/
def takeTag (c : Cursor) : Except Fault (TagText × Cursor) := do
  let (tag, c) ←
    if c.peekAt 1 == '<' then do
      let (suffix, c) ← takeTagChars (c.skip 2)
      if c.peek != '>' then malformed else pure (⟨none, suffix⟩, c.next)
    else if isGap (c.peekAt 1) then pure (⟨none, "!"⟩, c.next)
    else if (c.next.takeWhile fun ch => !endsWord ch).1.contains '!' then do
      let (handle, c) ← takeHandle c
      let (suffix, c) ← takeTagChars c
      pure (⟨some handle, suffix⟩, c)
    else do
      let (suffix, c) ← takeTagChars c.next
      pure (⟨some "!", suffix⟩, c)
  if endsWord c.peek then return (tag, c) else malformed

/-- Reads a row of decimal digits. -/
def takeNumber (c : Cursor) : Except Fault (Nat × Cursor) :=
  let (ds, c) := c.takeWhile fun ch => '0' ≤ ch && ch ≤ '9'
  if ds.isEmpty then malformed
  else .ok (ds.foldl (fun n d => n * 10 + (d.toNat - '0'.toNat)) 0, c)

/-- Reads a directive; the cursor stands on its percent sign. -/
def takeDirective (c : Cursor) : Except Fault (Directive × Cursor) := do
  let (name, c) ← takeName c.next
  if !endsWord c.peek then malformed
  else
    let (d, c) ←
      if name = "YAML" then do
        let (major, c) ← takeNumber (c.dropWhile (· == ' '))
        if c.peek != '.' then malformed
        else
          let (_, c) ← takeNumber c.next
          if endsWord c.peek then pure (.version major, c) else malformed
      else if name = "TAG" then do
        let (handle, c) ← takeHandle (c.dropWhile (· == ' '))
        if c.peek != ' ' then malformed
        else
          let (expansion, c) ← takeTagChars (c.dropWhile (· == ' '))
          if endsWord c.peek then pure (.tagHandle handle expansion, c) else malformed
      else pure (.other, c.dropWhile (!endsLine ·))
    return (d, ← skipCommentLine c)

/-! ## Cutting a text -/

/-- A text that may turn out to be a key: where in the row of tokens it starts, where in the text,
and whether it must be a key. -/
structure PendingKey where
  position : Nat
  required : Bool
  index : Nat
  line : Nat
  column : Nat

/-- The state of the cutting: the tokens so far, the depth of flow collections, the indentation of
the present block and of those around it, whether a key may start here, and the texts that may turn
out to be keys by the depth at which they stand. `ending?` is the fault met at the end of the text,
if it breaks off. -/
structure Scanner where
  cursor : Cursor
  ending? : Option Fault
  tokens : Array Token
  depth : Nat
  indent : Int
  outer : List Int
  keyAllowed : Bool
  pending : List (Nat × PendingKey)

namespace Scanner

/-- The state at the start of an excerpt. -/
def start (e : Excerpt) : Scanner :=
  ⟨.start e.text, e.fault?, #[], 0, -1, [], true, []⟩

/-- Adds a token. -/
def push (s : Scanner) (t : Token) : Scanner := { s with tokens := s.tokens.push t }

/-- Inserts a token before others. -/
def insert (s : Scanner) (position : Nat) (t : Token) : Scanner :=
  { s with tokens := s.tokens.insertIdxIfInBounds position t }

/-- Moves over some characters. -/
def skip (s : Scanner) (n : Nat) : Scanner := { s with cursor := s.cursor.skip n }

/-- Whether the cursor is inside a flow collection. -/
def inFlow (s : Scanner) : Bool := s.depth != 0

/-- Says whether a key may start at the next token. -/
def allowKey (s : Scanner) (allowed : Bool) : Scanner := { s with keyAllowed := allowed }

/-- The longest text that can be a key. -/
def keyLimit : Nat := 1024

/-- Whether a text is no key after all: a key stands on one line with its colon. -/
def isStale (s : Scanner) (k : PendingKey) : Bool :=
  k.line != s.cursor.line || s.cursor.index - k.index > keyLimit

/-- Forgets the texts that are no keys after all. -/
def dropStale (s : Scanner) : Except Fault Scanner :=
  if s.pending.any fun e => s.isStale e.2 && e.2.required then malformed
  else .ok { s with pending := s.pending.filter fun e => !s.isStale e.2 }

/-- Forgets the text at the present depth; it must not be a key that is required. -/
def dropPending (s : Scanner) : Except Fault Scanner :=
  match s.pending.lookup s.depth with
  | some k =>
    if k.required then malformed
    else .ok { s with pending := s.pending.filter fun e => e.1 != s.depth }
  | none => .ok s

/-- Remembers that the text that starts here may be a key. -/
def savePending (s : Scanner) : Except Fault Scanner := do
  if s.keyAllowed then
    let s ← s.dropPending
    let c := s.cursor
    let required := !s.inFlow && s.indent = (c.column : Int)
    return { s with
      pending := (s.depth, ⟨s.tokens.size, required, c.index, c.line, c.column⟩) :: s.pending }
  else return s

/-- Ends the blocks that are indented further than a column, given those around the present one. -/
def unwindFrom (column : Int) : List Int → Scanner → Scanner
  | [], s => s
  | indent :: outer, s =>
    if column < s.indent then
      unwindFrom column outer { s.push .blockEnd with indent := indent, outer := outer }
    else s

/-- Ends the blocks that are indented further than a column; flow collections have no blocks. -/
def unwind (s : Scanner) (column : Int) : Scanner :=
  if s.inFlow then s else unwindFrom column s.outer s

/-- Starts a block at a column if it is indented further than the present one. -/
def indentTo (s : Scanner) (column : Nat) : Option Scanner :=
  if s.indent < (column : Int) then
    some { s with indent := column, outer := s.indent :: s.outer }
  else none

/-- Skips spaces, comments and line breaks. Outside flow collections a key may start after a line
break. -/
def skipBlanks : Nat → Scanner → Scanner
  | 0, s => s
  | fuel + 1, s =>
    let c := s.cursor.dropWhile (· == ' ')
    let c := if c.peek == '#' then c.dropWhile (!endsLine ·) else c
    if isBreak c.peek then
      let s := { s with cursor := c.takeBreak.2 }
      skipBlanks fuel (if s.inFlow then s else s.allowKey true)
    else { s with cursor := c }

/-! ### One token -/

/-- A token that stands at the start of a line and ends all blocks. -/
def documentToken (s : Scanner) (t : Token) (length : Nat) : Except Fault Scanner := do
  return (((← (s.unwind (-1)).dropPending).allowKey false).skip length).push t

/-- The start of a flow collection. -/
def openFlow (s : Scanner) (t : Token) : Except Fault Scanner := do
  let s ← s.savePending
  return (({ s with depth := s.depth + 1 }.allowKey true).skip 1).push t

/-- The end of a flow collection. -/
def closeFlow (s : Scanner) (t : Token) : Except Fault Scanner := do
  let s ← s.dropPending
  if s.depth = 0 then malformed
  else return (({ s with depth := s.depth - 1 }.allowKey false).skip 1).push t

/-- The comma between the entries of a flow collection. -/
def flowEntry (s : Scanner) : Except Fault Scanner := do
  return ((← (s.allowKey true).dropPending).skip 1).push .flowEntry

/-- Starts a block at the cursor's column where the indentation asks for one; only where a key may
start. -/
def startBlock (s : Scanner) (t : Token) : Except Fault Scanner :=
  if s.inFlow then .ok s
  else if !s.keyAllowed then malformed
  else .ok (match s.indentTo s.cursor.column with
    | some s => s.push t
    | none => s)

/-- The dash before an entry of a block sequence. -/
def blockEntry (s : Scanner) : Except Fault Scanner := do
  let s ← s.startBlock .blockSequenceStart
  return ((← (s.allowKey true).dropPending).skip 1).push .blockEntry

/-- The question mark before a key. -/
def explicitKey (s : Scanner) : Except Fault Scanner := do
  let s ← s.startBlock .blockMappingStart
  return ((← (s.allowKey !s.inFlow).dropPending).skip 1).push .key

/-- The colon before a value. The text before it on its line becomes the key. -/
def valueMark (s : Scanner) : Except Fault Scanner := do
  match s.pending.lookup s.depth with
  | some k =>
    let s := { s with pending := s.pending.filter fun e => e.1 != s.depth }
    let s := s.insert k.position .key
    let s := if s.inFlow then s else
      match s.indentTo k.column with
      | some s => s.insert k.position .blockMappingStart
      | none => s
    return ((s.allowKey false).skip 1).push .value
  | none =>
    let s ← s.startBlock .blockMappingStart
    return ((← (s.allowKey !s.inFlow).dropPending).skip 1).push .value

/-- A token that may start a key, read by a function of its own. -/
def textToken (s : Scanner) (take : Cursor → Except Fault (Token × Cursor)) :
    Except Fault Scanner := do
  let s ← s.savePending
  let (t, c) ← take s.cursor
  return ({ s with cursor := c }.allowKey false).push t

/-- A block scalar. -/
def blockScalar (s : Scanner) (folded : Bool) : Except Fault Scanner := do
  let s ← (s.allowKey true).dropPending
  let (text, c) ← takeBlock folded s.indent s.cursor
  return { s with cursor := c }.push (.scalar false (String.ofList text))

/-- A plain scalar. -/
def plainScalar (s : Scanner) : Except Fault Scanner := do
  let s ← s.savePending
  let plain := takePlain s.inFlow (s.indent + 1) s.cursor
  return ({ s with cursor := plain.cursor }.allowKey plain.afterBreak).push
    (.scalar true (String.ofList plain.text))

/-- The characters that start no plain scalar. -/
def marks : List Char :=
  ['-', '?', ':', ',', '[', ']', '\x7b', '\x7d', '#', '&', '*', '!', '|', '>', '\'', '"', '%', '@',
   '`']

/-- Whether a plain scalar starts here. -/
def atPlain (s : Scanner) : Bool :=
  let ch := s.cursor.peek
  !(isGap ch || marks.contains ch)
    || (!isGap (s.cursor.peekAt 1) && (ch == '-' || (!s.inFlow && (ch == '?' || ch == ':'))))

/-- Reads the next token; the cursor stands on its first character. -/
def token (s : Scanner) : Except Fault Scanner :=
  let c := s.cursor
  let gapAfter := isGap (c.peekAt 1)
  let atStart := c.column = 0
  match c.peek with
  | '%' =>
    if atStart then do
      let (d, after) ← takeDirective c
      let s ← s.documentToken (.directive d) 0
      return { s with cursor := after }
    else malformed
  | '[' => s.openFlow .flowSequenceStart
  | '\x7b' => s.openFlow .flowMappingStart
  | ']' => s.closeFlow .flowSequenceEnd
  | '\x7d' => s.closeFlow .flowMappingEnd
  | ',' => s.flowEntry
  | '*' => s.textToken fun c => do
    let (name, c) ← takeAnchor c
    return (.alias name, c)
  | '&' => s.textToken fun c => do
    let (name, c) ← takeAnchor c
    return (.anchor name, c)
  | '!' => s.textToken fun c => do
    let (t, c) ← takeTag c
    return (.tag t, c)
  | '\'' => s.textToken fun c => do
    let (text, c) ← takeQuoted false c
    return (.scalar false (String.ofList text), c)
  | '"' => s.textToken fun c => do
    let (text, c) ← takeQuoted true c
    return (.scalar false (String.ofList text), c)
  | ch =>
    if atStart && c.atMarker Cursor.documentStart then s.documentToken .documentStart 3
    else if atStart && c.atMarker Cursor.documentEnd then s.documentToken .documentEnd 3
    else if ch == '-' && gapAfter then s.blockEntry
    else if ch == '?' && (s.inFlow || gapAfter) then s.explicitKey
    else if ch == ':' && (s.inFlow || gapAfter) then s.valueMark
    else if ch == '|' && !s.inFlow then s.blockScalar false
    else if ch == '>' && !s.inFlow then s.blockScalar true
    else if s.atPlain then s.plainScalar
    else malformed

/-- Where in the row of tokens a reader has to wait for the next token: at the first text that may
still turn out to be a key, or else at the end. -/
def front (s : Scanner) : Nat :=
  (s.pending.filter fun e => !s.isStale e.2).foldl (fun n e => min n e.2.position) s.tokens.size

/-- The tokens of a text that cannot be cut further. -/
def failed (s : Scanner) (f : Fault) : Array Token := (s.tokens.take s.front).push (.fault f)

/-- The fault met at the cursor if the text breaks off there. -/
def brokenOff? (s : Scanner) : Option Fault := if s.cursor.rest.isEmpty then s.ending? else none

/-- The fault of a token that cannot be read: one that the text leaves unfinished is broken off. -/
def tokenFault (s : Scanner) (f : Fault) : Fault :=
  if f = .unfinishedDocument then s.ending?.getD f else f

/-- Reads all tokens. -/
def run : Nat → Scanner → Array Token
  | 0, s => s.failed .malformedDocument
  | fuel + 1, before =>
    let s := skipBlanks before.cursor.fuel before
    match s.brokenOff?, s.dropStale with
    | some f, _ | none, .error f => before.failed f
    | none, .ok s =>
      let s := s.unwind s.cursor.column
      if s.cursor.rest.isEmpty then
        match (s.unwind (-1)).dropPending with
        | .ok s => s.tokens
        | .error f => before.failed f
      else
        match s.token with
        | .ok s =>
          match s.brokenOff? with
          | some f => before.failed f
          | none => run fuel s
        | .error f => before.failed (s.tokenFault f)

end Scanner

/-- The tokens of an excerpt. A byte order mark at its start is skipped. -/
def tokensOf (e : Excerpt) : List Token :=
  let s := Scanner.start e
  let s := if s.cursor.peek == byteOrderMark then s.skip 1 else s
  (Scanner.run s.cursor.fuel s).toList

end Defusal.Yaml
