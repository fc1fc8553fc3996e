import Defusal.Window.Basic

/-!
# The window on a terminal

A terminal shows the window as lines of text and takes its events as words: the name of a button,
`tick` for the timer, `level` with a row of the list, or `value` with a number for the player's
input. The first line of `screen` is the level's name, and the line that the machine stands on is
marked.
-/

namespace Defusal

namespace Window

/-- The lines of a register group. -/
def boxLines (b : RegisterBox) : List String :=
  b.title :: b.labels.map fun l => "  " ++ l.caption ++ " " ++ l.value

/-- The line of a row of the program table. -/
def rowLine (r : ProgramRow) : String :=
  (if r.isHighlighted then "> " else "  ") ++ r.line ++ "  " ++ r.text

/-- The line of a level in the list. -/
def levelLine (w : Window) (e : Level × Nat) : String :=
  (if w.row = some e.2 then "* " else "  ") ++ toString e.2 ++ "  " ++ e.1.name

/-- The lines that show the window. -/
def screen (w : Window) : List String :=
  [w.name, w.description]
    ++ w.levels.zipIdx.map w.levelLine
    ++ w.panel.boxes.flatMap boxLines
    ++ w.table.rows.map rowLine
    ++ [w.playerLabel ++ " " ++ toString w.playerValue, w.statusText]

namespace Event

/-- The event that some words ask for. -/
def ofWords? : List (List Char) → Option Event
  | [word] =>
    match String.ofList word with
    | "reset" => some reset
    | "run" => some run
    | "step" => some step
    | "tick" => some tick
    | _ => none
  | [word, number] =>
    match String.ofList word, Numeral.ofToken? number with
    | "level", some (.ok n) => some (chooseRow n)
    | "value", some (.ok n) => some (setValue n)
    | _, _ => none
  | _ => none

/-- The event that a line asks for. -/
def ofLine? (line : String) : Option Event := ofWords? (Instruction.tokens line.toList)

end Event

end Window

end Defusal
