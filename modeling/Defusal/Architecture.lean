import Defusal.Fault

/-!
# Architectures

The two kinds of machine. On a sparse machine lines may have any numbers, programs can change
themselves and a missing line does nothing. On a fixed machine lines are numbered from zero without
gaps, the program never changes and leaving it is fatal.
-/

namespace Defusal

/-- The kinds of machine. -/
inductive Architecture where
  | sparse
  | fixed
  deriving DecidableEq, Inhabited

namespace Architecture

/-- The name that levels give to an architecture. -/
def name : Architecture → String
  | sparse => "SPARSE"
  | fixed => "FIXED"

/-- The architecture of a name. -/
def ofName? (s : String) : Option Architecture :=
  if s = "SPARSE" then some sparse else if s = "FIXED" then some fixed else none

/-- The architecture of a name, or the fault that there is none. -/
def named (s : String) : Except Fault Architecture :=
  match ofName? s with
  | some a => .ok a
  | none => .error (.unknownArchitecture s)

/-- The line where a program starts, which is also the number of its first listed line. -/
def firstLine : Architecture → Int
  | sparse => 1
  | fixed => 0

theorem ofName?_name (a : Architecture) : ofName? a.name = some a := by
  cases a <;> rfl

end Architecture

end Defusal
