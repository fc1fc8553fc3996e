import Defusal.Datum.Same
import Defusal.Datum.Shown
import Defusal.Text.Capital

/-!
# Instructions

An instruction is an opcode in capital letters and its operands in order. Operands are plain
values; which of them an opcode reads, and how, is up to the machine that executes it.
-/

namespace Defusal

/-- An opcode with its operands. -/
structure Instruction where
  op : String
  operands : List Datum
  deriving Inhabited

namespace Instruction

/-- The instruction that does nothing; a missing line reads as it. -/
def idle : Instruction := ⟨"EMPTY", []⟩

/-- The instruction that a fixed machine finds outside its program. -/
def explosion : Instruction := ⟨"EXPLODE", []⟩

/-- An instruction as a value. -/
def toDatum (i : Instruction) : Datum := .instruction i.op i.operands

/-- Whether two instructions are equal as values. -/
def same (i j : Instruction) : Bool := Datum.same i.toDatum j.toDatum

/-- An instruction from a value for its opcode and one that holds its operands. -/
def ofParts (op operands : Datum) : Except Fault Instruction := do
  let op := Text.capitals (← op.shown)
  return ⟨op, ← operands.elements⟩

/-- The operand at a position; a missing operand reads as zero. -/
def operand (i : Instruction) (n : Nat) : Datum := i.operands[n]?.getD (.int 0)

end Instruction

end Defusal
