import Defusal.Architecture

/-!
# Operations

What opcodes mean. Each architecture is a table from opcodes to operations; an opcode that is not
in the table does nothing, so what one architecture jumps by is idle on the other.
-/

namespace Defusal

/-- The comparisons of conditional jumps. -/
inductive Comparison where
  | less
  | greater
  | equal
  | unequal
  deriving DecidableEq

namespace Comparison

/-- Whether a comparison holds between two numbers. -/
def holds (c : Comparison) (a b : Int) : Bool :=
  match c with
  | less => a < b
  | greater => b < a
  | equal => a == b
  | unequal => a != b

/-- The sign of a comparison. -/
def symbol : Comparison → String
  | less => "<"
  | greater => ">"
  | equal => "="
  | unequal => "≠"

/-- The comparison of a sign; other texts are no comparison and never hold. -/
def ofSymbol? (s : String) : Option Comparison :=
  [less, greater, equal, unequal].find? (·.symbol == s)

theorem ofSymbol?_symbol (c : Comparison) : ofSymbol? c.symbol = some c := by
  cases c <;> decide

end Comparison

/-- What an instruction does. -/
inductive Operation where
  /-- Nothing. -/
  | idle
  /-- Writes the sum of two operands to a register. -/
  | add
  /-- Continues at a line that is read as an operand. -/
  | jump
  /-- Continues at a line that is read as an operand if a comparison given as an operand holds. -/
  | compareJump
  /-- Inserts a copy of an instruction into the program. -/
  | copy
  /-- Takes the registers back to what they were at the present time. -/
  | travel
  /-- Continues at a line that is a plain number. -/
  | directJump
  /-- Continues at a line that is a plain number if a comparison holds. -/
  | branch (test : Comparison)
  /-- Wins. -/
  | defuse
  /-- Loses. -/
  | explode
  deriving DecidableEq

namespace Operation

/-- Whether an operation ends the game and so stays on its line. -/
def isFinal : Operation → Bool
  | defuse | explode => true
  | _ => false

end Operation

/-- The operation of an opcode. -/
def Architecture.operation : Architecture → String → Operation
  | .sparse, op =>
    match op with
    | "ADD" => .add
    | "JUMP" => .jump
    | "CJUMP" => .compareJump
    | "COPY" => .copy
    | "TTRAVEL" => .travel
    | "DEFUSE" => .defuse
    | "EXPLODE" => .explode
    | _ => .idle
  | .fixed, op =>
    match op with
    | "ADD" => .add
    | "JMP" => .directJump
    | "BEQ" => .branch .equal
    | "BNE" => .branch .unequal
    | "BGT" => .branch .greater
    | "BLT" => .branch .less
    | "DEFUSE" => .defuse
    | "EXPLODE" => .explode
    | _ => .idle

end Defusal
