import Defusal.Instruction.Basic
import Defusal.Table
import Defusal.Text.Blank

/-!
# Reading instructions

A line of text gives an instruction: an opcode, blanks, and operands that blanks, commas or arrows
separate; a semicolon starts a comment. A listing is a text of lines that each start with a number
and a colon. Instructions are also read from plain values that describe them.
-/

namespace Defusal.Instruction

/-! ## One line -/

/-- What stands before the first semicolon. -/
def dropComment (cs : List Char) : List Char := cs.takeWhile (· != ';')

/-- Writes a blank for each arrow, both of one character and of two. -/
def blankArrows : List Char → List Char
  | [] => []
  | '→' :: rest => ' ' :: blankArrows rest
  | '-' :: '>' :: rest => ' ' :: blankArrows rest
  | c :: rest => c :: blankArrows rest

/-- Separates operands: blanks and the comma. -/
def isSeparator (c : Char) : Bool := Text.isBlank c || c == ','

/-- The tokens of a text, given the token read so far in reverse. -/
def tokensFrom (token : List Char) : List Char → List (List Char)
  | [] => if token.isEmpty then [] else [token.reverse]
  | c :: rest =>
    if isSeparator c then
      if token.isEmpty then tokensFrom [] rest else token.reverse :: tokensFrom [] rest
    else tokensFrom (c :: token) rest

/-- The tokens of a text of operands. -/
def tokens (cs : List Char) : List (List Char) := tokensFrom [] (blankArrows cs)

/-- The operand that a token stands for: a number if it is a numeral, the text itself otherwise. -/
def operandOf (token : List Char) : Except Fault Datum :=
  match Numeral.ofToken? token with
  | some n? => n?.map .int
  | none => .ok (.text (String.ofList token))

/-- The instruction on a line; `none` if the line is blank up to its comment. -/
def ofChars? (line : List Char) : Except Fault (Option Instruction) :=
  match Text.trim (dropComment line) with
  | [] => .ok none
  | body => do
    let op := body.takeWhile (!Text.isBlank ·)
    let rest := (body.dropWhile (!Text.isBlank ·)).dropWhile Text.isBlank
    let operands ← (tokens rest).mapM operandOf
    return some ⟨Text.capitals (String.ofList op), operands⟩

/-- The instruction on a line; `none` if the line is blank up to its comment. -/
def ofLine? (line : String) : Except Fault (Option Instruction) := ofChars? line.toList

/-! ## Listings -/

/-- A line number at the start of a line, with the characters after its colon and the blanks that
follow the colon. -/
def takeLineNumber (line : List Char) : Option (Bool × List Char × List Char) :=
  let (negative, body) := Numeral.splitSign (Text.trimStart line)
  let ds := body.takeWhile Text.isDigit
  match ds, Text.trimStart (body.dropWhile Text.isDigit) with
  | _ :: _, ':' :: rest => some (negative, ds, Text.trimStart rest)
  | _, _ => none

/-- What follows a line number must be a single line; one line feed at its end is dropped. -/
def singleLine? (cs : List Char) : Option (List Char) :=
  let body := if cs.getLast? = some '\n' then cs.dropLast else cs
  if body.contains '\n' then none else some body

/-- Splits a line of a listing into its number, if it has one, and its instruction text. -/
def splitLineNumber (line : List Char) : Except Fault (Option Int × List Char) :=
  match takeLineNumber line with
  | none => .ok (none, line)
  | some (negative, ds, rest) =>
    match singleLine? rest with
    | none => .ok (none, line)
    | some body => do return (some (← Numeral.ofDecimal negative ds), body)

/-- Reads a listing from a position on, adding to the lines read before. Lines without an
instruction need no number. -/
def assembleFrom (position : Nat) (program : Table Int Instruction) :
    List String → Except Fault (Table Int Instruction)
  | [] => .ok program
  | line :: lines => do
    let (number?, body) ← splitLineNumber line.toList
    match ← ofChars? body, number? with
    | none, _ => assembleFrom (position + 1) program lines
    | some _, none => .error (.missingLineNumber position line)
    | some i, some number =>
      if program.contains number then .error (.duplicateLineNumber number position)
      else assembleFrom (position + 1) (program.put number i) lines

/-- Reads the lines of a listing. -/
def assemble (lines : List String) : Except Fault (Table Int Instruction) :=
  assembleFrom 1 .empty lines

/-- Reads a listing that is one text. -/
def assembleText (s : String) : Except Fault (Table Int Instruction) :=
  assemble ((Text.splitLines s.toList).map String.ofList)

/-! ## Descriptions -/

/-- The operands that a map lists in its field `args`, which may be missing or null. -/
def listedOperands (description : Datum) (entries : List (Datum × Datum)) :
    Except Fault (List Datum) :=
  match ((Datum.field? "args" entries).getD .null).opened with
  | .null => .ok []
  | .list items | .tuple items => .ok items
  | _ => do .error (.operandsNotListed (← description.literal))

/-- The instruction that a map with some entries describes: `op`, by default the idle opcode, and
`args`, a list or tuple. -/
def ofEntries (description : Datum) (entries : List (Datum × Datum)) :
    Except Fault Instruction := do
  let operands ← listedOperands description entries
  ofParts ((Datum.field? "op" entries).getD (.text idle.op)) (.list operands)

/-- The instruction that a value describes: an instruction itself, a map, or a line of text, where
a line without an instruction gives the idle one. -/
def ofDatum (d : Datum) : Except Fault Instruction :=
  match d.opened with
  | .instruction op operands => .ok ⟨op, operands⟩
  | .map entries => ofEntries d entries
  | .text s => do return (← ofLine? s).getD idle
  | _ => do .error (.notAnInstruction (← d.literal))

end Defusal.Instruction
