import Defusal.Program.Basic

/-!
# Viewports

The part of a program that is worth showing: every stored line, the line that the machine stands
on, and the neighbours of all of these, in ascending order, with a single gap wherever line numbers
are skipped. Its length depends on the number of stored lines and not on how far apart they are.
-/

namespace Defusal

/-- One row of a viewport. -/
inductive ViewportRow where
  | line (number : Int) (instruction : Instruction)
  | gap

namespace ViewportRow

/-- Whether the row is the line that the machine stands on. -/
def isCurrent (pc : Int) : ViewportRow → Bool
  | line number _ => number == pc
  | gap => false

/-- What a gap shows in place of its lines. -/
def gapText : String := "..."

end ViewportRow

namespace Viewport

/-- A line with the lines before and after it. -/
def around (line : Int) : List Int := [line - 1, line, line + 1]

/-- Drops the repetitions in an ascending list. -/
def dropRepeats : List Int → List Int
  | a :: b :: rest => if a = b then dropRepeats (b :: rest) else a :: dropRepeats (b :: rest)
  | short => short

/-- The visible lines in ascending order. -/
def visibleLines (p : Program) (pc : Int) : List Int :=
  dropRepeats (((p.lines ++ [pc]).flatMap around).mergeSort fun a b => decide (a ≤ b))

/-- The rows of ascending lines, with a gap between two lines that are not neighbours. -/
def rowsOf (p : Program) : List Int → List ViewportRow
  | a :: b :: rest =>
    let row := ViewportRow.line a (p.get a)
    if 1 < b - a then row :: .gap :: rowsOf p (b :: rest) else row :: rowsOf p (b :: rest)
  | [a] => [.line a (p.get a)]
  | [] => []

/-- The viewport of a program for a machine that stands on a line. -/
def rows (p : Program) (pc : Int) : List ViewportRow := rowsOf p (visibleLines p pc)

end Viewport

end Defusal
