import Defusal.Text.Quoted

/-!
# Faults

Everything that can go wrong, by cause. `Fault.kind` sorts the causes into kinds, `Fault.message`
gives the wording that a player or an author of levels reads. Data that a message shows is stored
in its shown form, because showing it may itself be impossible (a number may be too long).
-/

namespace Defusal

/-- The causes of failure. -/
inductive Fault where
  /-- A text that is no number in the given base; its quoted form. -/
  | badNumeral (base : Nat) (shown : String)
  /-- A decimal text with more digits than are read. -/
  | tooManyDigits (count : Nat)
  /-- A number with more decimal digits than are written. -/
  | tooLongToWrite
  /-- A text that is no decimal fraction; its quoted form. -/
  | badFraction (shown : String)
  | notANumber
  | infiniteNumber
  /-- A value that no number can be made of; the name of its type. -/
  | notNumeric (typeName : String)
  | operandsNotListed (shown : String)
  | notAnInstruction (shown : String)
  | programIsText
  | fixedProgramIsNumbered
  | unknownArchitecture (name : String)
  | missingLineNumber (position : Nat) (line : String)
  | duplicateLineNumber (number : Int) (position : Nat)
  | notALevel (shown : String)
  | notALevelFile (source : String)
  | unknownLevelArchitecture (level name : String)
  | badProgramShape (level : String)
  | badProgram (level : String) (cause : Fault)
  | badInteger (shown : String)
  | missingClock (level : String)
  | missingPlayerRegister (register level : String)
  /-- A value of the wrong type where the program reads no further. -/
  | wrongType
  /-- A value that lacks what is asked of it. -/
  | lacksMember
  | missingKey
  | noSuchPosition
  /-- A code point beyond the last character. -/
  | codePointOutOfRange
  /-- A code point beyond every machine word. -/
  | codePointTooLarge
  /-- Half of a surrogate pair, which no text holds. -/
  | loneSurrogate
  /-- A whole number beyond every binary fraction where one is needed. -/
  | tooLargeForFraction
  | yearOutOfRange (year : Nat)
  | monthOutOfRange
  | dayOutOfRange
  | hourOutOfRange
  | minuteOutOfRange
  | secondOutOfRange
  /-- A clock a day or more away from universal time; the written form of the distance. -/
  | clockOutOfRange (shown : String)
  /-- Text that is no well-formed document, or a document whose tags have no meaning here. -/
  | malformedDocument
  /-- A document that ends inside a quoted text. -/
  | unfinishedDocument
  /-- A document nested deeper, or with longer chains of mappings, than is followed. -/
  | nestedTooDeep
  | missingFile (path : String)
  | fileIsDirectory (path : String)
  /-- A file that cannot be opened for another reason, which the system gives with a number. -/
  | cannotBeOpened (number : Nat) (reason path : String)
  /-- Bytes that are no UTF-8 text: the offending bytes, where they start, and what is wrong. -/
  | undecodable (bytes : List Nat) (start : Nat) (reason : String)
  deriving DecidableEq

/-- The kinds of fault, which decide who reports them. -/
inductive FaultKind where
  | value
  | type
  | attribute
  | key
  | index
  | overflow
  | undecodable
  | missingFile
  | directory
  | system
  | document
  | surrogate
  | depth
  deriving DecidableEq

namespace Fault

/-- The kind of a fault. -/
def kind : Fault → FaultKind
  | notNumeric _ | wrongType => .type
  | lacksMember => .attribute
  | missingKey => .key
  | noSuchPosition => .index
  | infiniteNumber | codePointTooLarge | tooLargeForFraction => .overflow
  | malformedDocument | unfinishedDocument => .document
  | loneSurrogate => .surrogate
  | nestedTooDeep => .depth
  | missingFile _ => .missingFile
  | fileIsDirectory _ => .directory
  | cannotBeOpened .. => .system
  | undecodable .. => .undecodable
  | _ => .value

/-- How a run of undecodable bytes is named. -/
def shownBytes (bytes : List Nat) (start : Nat) : String :=
  match bytes with
  | [b] => s!"byte 0x" ++ String.ofList (Text.hexDigits 2 b) ++ s!" in position {start}"
  | _ => s!"bytes in position {start}-{start + bytes.length - 1}"

/-- How it is said that the system does not open a file. -/
def systemText (number : Nat) (reason path : String) : String :=
  s!"[Errno {number}] " ++ reason ++ ": " ++ Text.quoted path

/-- The longest quoted text that a message about a bad numeral shows. -/
def shownNumeralLimit : Nat := 200

/-- The wording of a fault; empty where only its kind is told. -/
def message : Fault → String
  | badNumeral base shown =>
    s!"invalid literal for int() with base {base}: "
      ++ String.ofList (shown.toList.take shownNumeralLimit)
  | tooManyDigits count =>
    "Exceeds the limit (4300 digits) for integer string conversion: value has "
      ++ s!"{count} digits; use sys.set_int_max_str_digits() to increase the limit"
  | tooLongToWrite =>
    "Exceeds the limit (4300 digits) for integer string conversion; "
      ++ "use sys.set_int_max_str_digits() to increase the limit"
  | badFraction shown => s!"could not convert string to float: {shown}"
  | notANumber => "cannot convert float NaN to integer"
  | infiniteNumber => "cannot convert float infinity to integer"
  | notNumeric typeName =>
    "int() argument must be a string, a bytes-like object or a real number, not "
      ++ "'" ++ typeName ++ "'"
  | operandsNotListed shown => s!"Instruction args must be a list: {shown}"
  | notAnInstruction shown => s!"Invalid instruction definition: {shown}"
  | programIsText => "Program must be a list or a mapping of instructions, not a string"
  | fixedProgramIsNumbered => "FIXED programs must be defined as an ordered list of instructions"
  | unknownArchitecture name => s!"Unsupported architecture: {name}"
  | missingLineNumber position line => s!"Missing line number on line {position}: {line}"
  | duplicateLineNumber number position =>
    s!"Duplicate line number {number} on line {position}"
  | notALevel shown => s!"Invalid level definition: {shown}"
  | notALevelFile source => s!"Invalid level file {source}: top level must be a mapping"
  | unknownLevelArchitecture level name => s!"Unsupported architecture for level '{level}': {name}"
  | badProgramShape level => s!"Program of level '{level}' must be a list or a mapping"
  | badProgram level cause => s!"Invalid program in level '{level}': " ++ cause.message
  | badInteger shown => s!"Invalid integer format: {shown}"
  | missingClock level => s!"Initial registers of level '{level}' must include 'T'"
  | missingPlayerRegister register level =>
    s!"Player register '{register}' is not defined in level '{level}'"
  | codePointOutOfRange => "chr() arg not in range(0x110000)"
  | yearOutOfRange year => s!"year {year} is out of range"
  | monthOutOfRange => "month must be in 1..12"
  | dayOutOfRange => "day is out of range for month"
  | hourOutOfRange => "hour must be in 0..23"
  | minuteOutOfRange => "minute must be in 0..59"
  | secondOutOfRange => "second must be in 0..59"
  | clockOutOfRange shown =>
    "offset must be a timedelta strictly between -timedelta(hours=24) and "
      ++ s!"timedelta(hours=24), not {shown}."
  | missingFile path => systemText 2 "No such file or directory" path
  | fileIsDirectory path => systemText 21 "Is a directory" path
  | cannotBeOpened number reason path => systemText number reason path
  | undecodable bytes start reason =>
    "'utf-8' codec can't decode " ++ shownBytes bytes start ++ ": " ++ reason
  | _ => ""

end Fault

end Defusal
