import Defusal.Level.Basic
import Defusal.Program.Reading
import Defusal.Registers

/-!
# Reading levels

A level is read from a map of named fields. `Level.read` checks the fields in a fixed order and
fails at the first one that is wrong. Fields that a level does not have are ignored with a notice,
which is given before any other check, so it also comes with a level that is then refused.

A document is a map that is one level itself, or that holds several under `levels`.
-/

namespace Defusal

namespace Level

/-- The fields of a level. -/
def fieldNames : List String :=
  ["id", "name", "description", "architecture", "program", "initial_registers",
   "initialRegisters", "player_register", "order"]

/-- The key of an entry unless it is a field of a level. A key that is no text is a fault. -/
def unknownField? (e : Datum × Datum) : Except Fault (Option String) :=
  match e.1 with
  | .text s => .ok (if fieldNames.contains s then none else some s)
  | _ => .error .wrongType

/-- The keys that are no fields of a level, in ascending order. -/
def unknownFields (entries : List (Datum × Datum)) : Except Fault (List String) := do
  return (← entries.filterMapM unknownField?).mergeSort fun s t => decide (s ≤ t)

/-- The notices about a level: one if it has unknown fields. -/
def notices (d : Datum) : List String :=
  match d.opened with
  | .map entries =>
    match unknownFields entries with
    | .ok [] | .error _ => []
    | .ok unknown => ["Ignoring unknown level keys: " ++ ", ".intercalate unknown]
  | _ => []

/-- The value of a field as text, or a default. -/
def textField (entries : List (Datum × Datum)) (name byDefault : String) : Except Fault String :=
  match Datum.field? name entries with
  | some d => d.shown
  | none => .ok byDefault

/-- The program of a level in the form that the level keeps: a text is read as a listing. -/
def programField (level : String) (entries : List (Datum × Datum)) : Except Fault Datum := do
  let program := (Datum.field? "program" entries).getD (.list [])
  match program.opened with
  | .text s => return Program.listingDatum (← Instruction.assembleText s)
  | .list _ | .map _ => return program
  | _ => .error (.badProgramShape level)

/-- A program must be readable for its architecture. A fault in it is told as one of the level,
unless it is of a kind that nothing here accounts for. -/
def checkProgram (level : String) (a : Architecture) (program : Datum) : Except Fault Unit :=
  match Program.read a program with
  | .ok _ => .ok ()
  | .error f =>
    if f.kind = .value ∨ f.kind = .type then .error (.badProgram level f) else .error f

/-- One register with its first value. -/
def registerOf (e : Datum × Datum) : Except Fault (String × Int) := do
  let name ← e.1.shown
  return (name, ← e.2.exact)

/-- What a level writes in the field of its registers, which has two names. -/
def writtenRegisters (entries : List (Datum × Datum)) : Datum :=
  ((Datum.field? "initial_registers" entries).orElse fun _ =>
    Datum.field? "initialRegisters" entries).getD (.map [])

/-- The registers of a level; void values of the field give none. -/
def registersField (entries : List (Datum × Datum)) : Except Fault (Table String Int) :=
  match (writtenRegisters entries).opened with
  | .map lines => do return Table.ofList (← lines.mapM registerOf)
  | d => if d.isVoid then .ok .empty else .error .lacksMember

/-- The name of a level, which its identifier stands in for. -/
def nameField (entries : List (Datum × Datum)) : Except Fault String :=
  match Datum.field? "name" entries with
  | some d => d.shown
  | none => textField entries "id" "Untitled"

/-- The architecture of a level, of which the name may be written in small letters. -/
def architectureField (level : String) (entries : List (Datum × Datum)) :
    Except Fault Architecture := do
  let name := Text.capitals (← textField entries "architecture" "SPARSE")
  match Architecture.ofName? name with
  | some a => .ok a
  | none => .error (.unknownLevelArchitecture level name)

/-- What a level says before its program: its name, its identifier and its architecture. -/
structure Heading where
  name : String
  id : String
  architecture : Architecture

/-- The heading of a level. -/
def heading (entries : List (Datum × Datum)) : Except Fault Heading := do
  let name ← nameField entries
  let id ← textField entries "id" name
  return { name, id, architecture := ← architectureField id entries }

/-- Fails with a fault unless something holds. -/
def require (holds : Bool) (f : Fault) : Except Fault Unit := if holds then .ok () else .error f

/-- The level with a heading, a program and registers: checks that the registers suffice and reads
what is left. -/
def complete (entries : List (Datum × Datum)) (h : Heading) (program : Datum)
    (registers : Table String Int) : Except Fault Level := do
  require (registers.contains clockName) (.missingClock h.id)
  let playerRegister ← textField entries "player_register" "A"
  require (registers.contains playerRegister) (.missingPlayerRegister playerRegister h.id)
  return {
    id := h.id
    name := h.name
    architecture := h.architecture
    program, registers, playerRegister
    description := ← textField entries "description" ""
    order := ← ((Datum.field? "order" entries).getD (.int 0)).exact }

/-- The level that the fields of a map describe. -/
def ofEntries (entries : List (Datum × Datum)) : Except Fault Level := do
  let _ ← unknownFields entries
  let h ← heading entries
  let program ← programField h.id entries
  checkProgram h.id h.architecture program
  complete entries h program (← registersField entries)

/-- Reads a level. -/
def read (d : Datum) : Except Fault Level :=
  match d.opened with
  | .map entries => ofEntries entries
  | _ => do .error (.notALevel (← d.literal))

end Level

/-! ## Documents -/

/-- The outcome of a reading, with the notices given on the way. -/
structure Report (α : Type) where
  notices : List String
  result : Except Fault α

namespace Report

/-- The reading that gives a value without notices. -/
def ok {α : Type} (a : α) : Report α := ⟨[], .ok a⟩

/-- The reading that fails without notices. -/
def error {α : Type} (f : Fault) : Report α := ⟨[], .error f⟩

/-- Continues a reading with what it gave. -/
def andThen {α β : Type} (r : Report α) (next : α → Report β) : Report β :=
  match r.result with
  | .ok a => ⟨r.notices ++ (next a).notices, (next a).result⟩
  | .error f => ⟨r.notices, .error f⟩

/-- The readings of several things in order, up to the first that fails. -/
def all {α : Type} : List (Report α) → Report (List α)
  | [] => ok []
  | r :: rs => r.andThen fun a => (all rs).andThen fun as => ok (a :: as)

end Report

namespace Level

/-- Reads a level with its notices. -/
def report (d : Datum) : Report Level := ⟨notices d, read d⟩

/-- The levels that a value lists; a void value lists none. -/
def listed (d : Datum) : Except Fault (List Datum) := if d.isVoid then .ok [] else d.elements

/-- What a document gives as its levels: what it lists, or else itself. -/
def itemsOf (document : Datum) (entries : List (Datum × Datum)) : Except Fault (List Datum) :=
  match Datum.field? "levels" entries with
  | none => .ok [document]
  | some d => listed d

/-- Reads the levels of a document; `source` names the document in messages. -/
def ofDocument (source : String) (document : Datum) : Report (List Level) :=
  match document.opened with
  | .map entries =>
    match itemsOf document entries with
    | .ok items => .all (items.map report)
    | .error f => .error f
  | _ => .error (.notALevelFile source)

end Level

end Defusal
