import Defusal.Instruction.Basic
import Defusal.Level.Basic

/-!
# The bundled levels

The five levels that come with the game, in the order in which they are offered.
-/

namespace Defusal.Level

/-- A numbered line that is already an instruction. -/
def builtLine (number : Int) (op : String) (operands : List Datum) : Datum × Datum :=
  (.int number, .instruction op operands)

/-- A line described by its opcode and its operands. -/
def describedLine (op : String) (operands : List Datum) : Datum :=
  .map [(.text "op", .text op), (.text "args", .list operands)]

/-- The bomb is defused by the one number that its first line names. -/
def tutorial : Level where
  id := "tutorial"
  name := "Level 1"
  description := "Figure out the correct input for register A to defuse the bomb."
  program := .map [
    builtLine 1 "CJUMP" [.text "A", .text "=", .int 5, .int 3],
    builtLine 2 "EXPLODE" [],
    builtLine 3 "DEFUSE" []]
  registers := .ofList [("A", 0), ("T", 0)]
  order := 1

/-- The bomb is defused if doubling one reaches the player's number. -/
def doubling : Level where
  id := "doubling"
  name := "Level 2"
  description := "Can you defuse a more complex bomb?"
  program := .list [
    .text "CJUMP A < 10 8",
    .text "CJUMP A > 50 8",
    .text "CJUMP T > 40 8",
    .text "CJUMP B = A 7",
    .text "ADD B, B, B",
    .text "JUMP 3",
    .text "DEFUSE",
    .text "EXPLODE"]
  registers := .ofList [("A", 0), ("B", 1), ("T", 0)]
  order := 2

/-- The program inserts copies of its own lines after the copying line. -/
def copying : Level where
  id := "copying"
  name := "Level 3"
  description := "What if the program could modify itself?"
  program := .list [
    describedLine "JUMP" [.int 5],
    describedLine "EXPLODE" [],
    describedLine "DEFUSE" [],
    describedLine "EXPLODE" [],
    describedLine "ADD" [.text "A", .text "B", .text "B"],
    describedLine "COPY" [.text "B"],
    describedLine "CJUMP" [.text "T", .text ">", .text "15", .int 4],
    describedLine "JUMP" [.int 5]]
  registers := .ofList [("A", 0), ("B", 1), ("T", 0)]
  order := 3

/-- The program inserts copies of its own lines wherever a register says. -/
def moreCopying : Level where
  id := "more_copying"
  name := "Level 4"
  description := "Add new lines anywhere in the program!"
  program := .list [
    describedLine "JUMP" [.int 5],
    describedLine "EXPLODE" [],
    describedLine "DEFUSE" [],
    describedLine "EXPLODE" [],
    describedLine "ADD" [.text "A", .text "B", .text "B"],
    describedLine "COPY" [.text "A", .text "B"],
    describedLine "CJUMP" [.text "T", .text ">", .text "15", .int 4],
    describedLine "JUMP" [.int 5]]
  registers := .ofList [("A", 0), ("B", 2), ("T", 0)]
  order := 4

/-- The doubling bomb for a fixed machine. -/
def doublingFixed : Level where
  id := "doubling_fixed"
  name := "Level 5"
  description :=
    "The doubling bomb on a fixed-length, zero-indexed machine. Walking off the end is fatal."
  architecture := .fixed
  program := .list [
    .text "BLT A, 10, 7",
    .text "BGT A, 50, 7",
    .text "BGT T, 40, 7",
    .text "BEQ B, A, 6",
    .text "ADD B, B, B",
    .text "JMP 2",
    .text "DEFUSE",
    .text "EXPLODE"]
  registers := .ofList [("A", 0), ("B", 1), ("T", 0)]
  order := 5

/-- All bundled levels. -/
def bundled : List Level := [tutorial, doubling, copying, moreCopying, doublingFixed]

/-- The bundled level of an identifier. -/
def bundled? (id : String) : Option Level := bundled.find? (·.id == id)

end Defusal.Level
