import Defusal.History
import Defusal.Instruction.Display
import Defusal.Machine.Operation
import Defusal.Program.Basic

/-!
# Steps

A machine is its registers, the line it stands on, its program, and how the last step ended the
game, if it did. A step fetches the instruction on that line, advances the clock, moves to the next
line, executes the instruction, and records the registers under the new time. Operands are read
after the clock has advanced. A step fails only where a number is too long to be read or written.
-/

namespace Defusal

/-- How a game can end. -/
inductive Outcome where
  | won
  | lost
  deriving DecidableEq

/-- The state of a machine. -/
structure Machine where
  registers : Registers
  pc : Int
  program : Program
  outcome : Option Outcome
  deriving Inhabited

/-- What a step leaves behind: the machine and the history after it, the instruction that was
executed, the line it stood on, and the two as one text. -/
structure Snapshot where
  machine : Machine
  instruction : Instruction
  history : History
  origin : Int
  symbol : String
  deriving Inhabited

namespace Machine

/-- The instruction that the machine executes next. On a fixed machine a line that is not stored
explodes; on a sparse one it does nothing. -/
def fetch (a : Architecture) (m : Machine) : Instruction :=
  match a with
  | .sparse => m.program.get m.pc
  | .fixed => (m.program.get? m.pc).getD .explosion

/-- The machine with its clock advanced and on the line after the present one, or on the same line
for an operation that ends the game. -/
def advanced (m : Machine) (op : Operation) : Machine where
  registers := m.registers.put clockName (m.registers.time + 1)
  pc := if op.isFinal then m.pc else m.pc + 1
  program := m.program
  outcome := none

/-! ## Executing an instruction

Each operation takes the machine after `advanced`. -/

/-- Adds the first two operands into the register that the third names; without a third operand
nothing happens. -/
def add (m : Machine) (i : Instruction) : Except Fault Machine :=
  match i.operands with
  | left :: right :: target :: _ => do
    let a ← m.registers.resolve left
    let b ← m.registers.resolve right
    return { m with registers := m.registers.put (← target.shown) (a + b) }
  | _ => .ok m

/-- Continues at the line that the first operand gives. -/
def jump (m : Machine) (i : Instruction) : Except Fault Machine := do
  return { m with pc := ← m.registers.resolve (i.operand 0) }

/-- Continues at the line that the fourth operand gives if the comparison that the second names
holds between the first and the third. -/
def compareJump (m : Machine) (i : Instruction) : Except Fault Machine := do
  let left ← m.registers.resolve (i.operand 0)
  let test? := Comparison.ofSymbol? (← (i.operand 1).shown)
  let right ← m.registers.resolve (i.operand 2)
  let target ← m.registers.resolve (i.operand 3)
  return if test?.any (·.holds left right) then { m with pc := target } else m

/-- Continues at the line number that is the first operand. -/
def directJump (m : Machine) (i : Instruction) : Except Fault Machine := do
  return { m with pc := ← (i.operand 0).lenient }

/-- Continues at the line number that is the third operand if a comparison holds between the first
two. -/
def branch (m : Machine) (test : Comparison) (i : Instruction) : Except Fault Machine := do
  let left ← m.registers.resolve (i.operand 0)
  let right ← m.registers.resolve (i.operand 1)
  if test.holds left right then return { m with pc := ← (i.operand 2).lenient } else return m

/-- Inserts a copy of the instruction on the line that the first operand gives: at the line that
the second operand gives, or after the line of the copy instruction, `origin`, if there is no
second operand. An insertion at or before `origin` moves the copy instruction up, and the machine
moves up with it. -/
def copy (m : Machine) (origin : Int) (i : Instruction) : Except Fault Machine := do
  let copied := m.program.get (← m.registers.resolve (i.operand 0))
  match i.operands[1]? with
  | some operand =>
    let target ← m.registers.resolve operand
    return { m with
      program := m.program.insertAt target copied
      pc := if target ≤ origin then m.pc + 1 else m.pc }
  | none => return { m with program := m.program.insertAt (origin + 1) copied }

/-- Takes the registers that were last recorded at the present time; where there are none, nothing
happens. -/
def travel (m : Machine) (h : History) : Machine :=
  match h.lookup m.registers.time with
  | some r => { m with registers := r }
  | none => m

/-- Executes an instruction that stood on the line `origin`. -/
def execute (m : Machine) (op : Operation) (i : Instruction) (origin : Int) (h : History) :
    Except Fault Machine :=
  match op with
  | .idle => .ok m
  | .add => m.add i
  | .jump => m.jump i
  | .compareJump => m.compareJump i
  | .copy => m.copy origin i
  | .travel => .ok (m.travel h)
  | .directJump => m.directJump i
  | .branch test => m.branch test i
  | .defuse => .ok { m with outcome := some .won }
  | .explode => .ok { m with outcome := some .lost }

/-- The text of an instruction on a line. -/
def symbolText (a : Architecture) (line : Int) (i : Instruction) : Except Fault String := do
  let number ← Numeral.write line
  return number ++ ": " ++ (← a.format i)

/-- One step of a machine. -/
def step (a : Architecture) (m : Machine) (h : History) : Except Fault Snapshot := do
  let i := m.fetch a
  let op := a.operation i.op
  let after ← (m.advanced op).execute op i m.pc h
  return {
    machine := after
    instruction := i
    history := h.record after.registers.time after.registers
    origin := m.pc
    symbol := ← symbolText a m.pc i }

end Machine

end Defusal
