import Defusal.Datum.Whole
import Defusal.Instruction.Reading
import Defusal.Program.Basic

/-!
# Reading programs

A program is read from a plain value for the machine that it is to run on. A list numbers its
entries in order from the machine's first line. A map gives the line numbers itself, and only a
sparse machine takes one; of keys that are equal as numbers the last one counts.
-/

namespace Defusal.Program

/-- One numbered entry of a program. -/
def entryOf (e : Datum × Datum) : Except Fault (Int × Instruction) := do
  let line ← e.1.strict
  return (line, ← Instruction.ofDatum e.2)

/-- Instructions numbered in order from a first line. -/
def numbered (first : Int) (code : List Instruction) : List (Int × Instruction) :=
  code.zipIdx.map fun e => (first + (e.2 : Int), e.1)

/-- The entries of a program given in order. -/
def ofElements (d : Datum) : Except Fault (List Instruction) := do
  (← d.elements).mapM Instruction.ofDatum

/-- Reads a program for an architecture. -/
def read (a : Architecture) (d : Datum) : Except Fault Program :=
  match a, d.opened with
  | .fixed, .map _ => .error .fixedProgramIsNumbered
  | .fixed, _ => do return fixed (← ofElements d)
  | .sparse, .map entries => do return sparse (.ofList (← entries.mapM entryOf))
  | .sparse, .text _ | .sparse, .bytes _ => .error .programIsText
  | .sparse, _ => do
    return sparse (.ofList (numbered Architecture.sparse.firstLine (← ofElements d)))

/-- An assembled listing as the value that a level holds. -/
def listingDatum (listing : Table Int Instruction) : Datum :=
  .map (listing.toList.map fun e => (.int e.1, e.2.toDatum))

end Defusal.Program
