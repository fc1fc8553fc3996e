import Defusal.Architecture
import Defusal.Instruction.Basic
import Defusal.Machine.Operation
import Defusal.Text.Blank

/-!
# Displaying instructions

Two displays of an instruction. `Architecture.format` is the line of the program table, with arrows
where a value goes somewhere. `Architecture.explain` is a sentence about what the instruction does;
it is empty for an opcode that the architecture does not know. Missing operands are left blank.
-/

namespace Defusal

namespace Instruction

/-- The display of the operand at a position; blank if there is none. -/
def shownAt (i : Instruction) (n : Nat) : Except Fault String :=
  match i.operands[n]? with
  | some d => d.shown
  | none => .ok ""

/-- A text that names a register by a single capital letter; a line feed may follow it. -/
def isRegisterToken (s : String) : Bool :=
  match s.toList with
  | [c] | [c, '\n'] => 'A' ≤ c && c ≤ 'Z'
  | _ => false

/-- The operand at a position as a sentence names it. -/
def explainedAt (i : Instruction) (n : Nat) : Except Fault String :=
  match i.operands[n]? with
  | some (.text s) => .ok (if isRegisterToken s then "Register " ++ s else s)
  | some d => d.shown
  | none => .ok ""

/-- The displays of all operands. -/
def allShown (i : Instruction) : Except Fault (List String) := i.operands.mapM Datum.shown

/-- A text without the blanks at its end. -/
def trimmedEnd (s : String) : String := String.ofList (Text.trimEnd s.toList)

/-- The display of an instruction without a layout of its own: its operands separated by commas. -/
def plainFormat (i : Instruction) (operands : List String) : String :=
  trimmedEnd (i.op ++ " " ++ ", ".intercalate operands)

end Instruction

open Instruction

namespace Architecture

/-- The display of an addition. -/
def formatSum (operands : List String) : String :=
  operands.getD 2 "" ++ " ← " ++ operands.getD 0 "" ++ " + " ++ operands.getD 1 ""

/-- The display of an instruction on a sparse machine. -/
def formatSparse (i : Instruction) : Except Fault String :=
  match operation .sparse i.op with
  | .add => do return formatSum (← i.allShown)
  | .compareJump => do
    let a ← i.allShown
    return i.op ++ " " ++ a.getD 0 "" ++ " " ++ a.getD 1 "" ++ " " ++ a.getD 2 "" ++ " → "
      ++ a.getD 3 ""
  | .jump => do return i.op ++ " " ++ (← i.allShown).getD 0 ""
  | .copy => do
    let a ← i.allShown
    return i.op ++ " " ++ if a.length = 2 then a.getD 0 "" ++ " → " ++ a.getD 1 "" else a.getD 0 ""
  | .travel | .defuse | .explode => .ok i.op
  | _ => if i.op = idle.op then .ok i.op else do return i.plainFormat (← i.allShown)

/-- The display of an instruction on a fixed machine. -/
def formatFixed (i : Instruction) : Except Fault String := do
  let a ← i.allShown
  return match operation .fixed i.op with
  | .add => formatSum a
  | .branch _ =>
    i.op ++ " " ++ a.getD 0 "" ++ ", " ++ a.getD 1 "" ++ " → " ++ a.getD 2 ""
  | .directJump => trimmedEnd (i.op ++ " " ++ a.getD 0 "")
  | _ => i.plainFormat a

/-- The line that the program table shows for an instruction. -/
def format : Architecture → Instruction → Except Fault String
  | sparse => formatSparse
  | fixed => formatFixed

/-- The sentence about a jump. -/
def explainJump (i : Instruction) : Except Fault String := do
  return "Jump to instruction " ++ (← i.shownAt 0)

/-- The sentence about a conditional jump. -/
def explainBranch (left symbol right target : Except Fault String) : Except Fault String := do
  return "If " ++ (← left) ++ " " ++ (← symbol) ++ " " ++ (← right) ++ ", jump to instruction "
    ++ (← target)

/-- The sentence about a copy: with exactly two operands it names the target. -/
def explainCopy (i : Instruction) : Except Fault String := do
  let source ← i.shownAt 0
  if i.operands.length = 2 then
    return "Copy the instruction at line " ++ source ++ " into line " ++ (← i.shownAt 1)
  else
    return "Copy the instruction at line " ++ source ++ " and insert it after the current line"

/-- The sentence that explains an instruction. -/
def explain (a : Architecture) (i : Instruction) : Except Fault String :=
  match operation a i.op with
  | .add => do
    return (← i.explainedAt 2) ++ " ← " ++ (← i.explainedAt 0) ++ " + " ++ (← i.explainedAt 1)
  | .jump | .directJump => explainJump i
  | .compareJump =>
    explainBranch (i.explainedAt 0) (i.shownAt 1) (i.explainedAt 2) (i.shownAt 3)
  | .branch c => explainBranch (i.explainedAt 0) (.ok c.symbol) (i.explainedAt 1) (i.shownAt 2)
  | .copy => explainCopy i
  | .travel => .ok "Reset registers to their state at time T"
  | .defuse => .ok "Defuse the bomb and win the game!"
  | .explode => .ok "Explode the bomb and lose the game!"
  | .idle => .ok (if i.op = idle.op then "No operation (does nothing)" else "")

end Architecture

end Defusal
