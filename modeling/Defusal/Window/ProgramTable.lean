import Defusal.Session.Basic

/-!
# The program table

The table shows the viewport of a session: a line number and an instruction in each row, with an
explanation to each, and a row of dots for a gap. The row of the line that the machine stands on is
highlighted and scrolled to.
-/

namespace Defusal

/-- A row of the table. -/
structure ProgramRow where
  line : String
  text : String
  tooltip : String
  isHighlighted : Bool
  isGap : Bool

/-- The table: its rows, the highlighted one, and the one it was last scrolled to. -/
structure ProgramTable where
  rows : List ProgramRow
  current : Option Nat
  scrolledTo : Option Nat

namespace ProgramTable

/-- A table that shows nothing yet. -/
def empty : ProgramTable := ⟨[], none, none⟩

/-- The background of the highlighted row. -/
def highlightColour : String := "#2E5E2E"

/-- The background of the other rows. -/
def normalColour : String := "#101010"

/-- The row of a gap. -/
def gapRow : ProgramRow := ⟨"", ViewportRow.gapText, "", false, true⟩

/-- The row of the table for a row of the viewport. -/
def rowOf (a : Architecture) (pc : Int) (row : ViewportRow) : Except Fault ProgramRow :=
  match row with
  | .gap => .ok gapRow
  | .line number i => do
    let line ← Numeral.write number
    let text ← a.format i
    return ⟨line, text, ← a.explain i, row.isCurrent pc, false⟩

/-- The rows up to the first that cannot be written, with the fault if there is one. -/
def rowsUpToFault (a : Architecture) (pc : Int) : List ViewportRow → List ProgramRow × Option Fault
  | [] => ([], none)
  | row :: rows =>
    match rowOf a pc row with
    | .error f => ([], some f)
    | .ok r =>
      let (rs, fault) := rowsUpToFault a pc rows
      (r :: rs, fault)

/-- The place of the highlighted row. -/
def currentOf (rows : List ProgramRow) : Option Nat := rows.findIdx? (·.isHighlighted)

/-- Shows the program of a session. A row that cannot be written stops the table: the rows from
there on keep what they showed. -/
def update (t : ProgramTable) (s : Session) : ProgramTable × Option Fault :=
  let viewport := s.viewport
  match rowsUpToFault s.architecture s.pc viewport with
  | (rows, none) =>
    let current := currentOf rows
    (⟨rows, current, current.orElse fun _ => t.scrolledTo⟩, none)
  | (rows, some f) =>
    let old := (t.rows.drop rows.length).take (viewport.length - rows.length)
    (⟨rows ++ old, currentOf rows, t.scrolledTo⟩, some f)

end ProgramTable

end Defusal
