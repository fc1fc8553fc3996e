import Defusal.Level.Reading
import Defusal.Machine.Step
import Defusal.Viewport

/-!
# Sessions

A session is one game of a level: the machine and its history, whether the game waits, runs, is won
or is lost, and what the last step left behind. A won or lost game only moves again after a reset.
All commands are functions from a session to a new one; they fail only where a number is too long
to be read or written.
-/

namespace Defusal

/-- The state of a game. -/
inductive Status where
  | waiting
  | running
  | won
  | lost
  deriving DecidableEq, Inhabited

namespace Status

/-- Whether the game is over. -/
def isTerminal : Status → Bool
  | won | lost => true
  | _ => false

/-- The state of the game after a step that ended in some way, or did not end. -/
def ofOutcome : Option Outcome → Status
  | none => running
  | some .won => won
  | some .lost => lost

/-- The name of a state. -/
def name : Status → String
  | waiting => "waiting"
  | running => "running"
  | won => "won"
  | lost => "lost"

end Status

/-- A game of a level. -/
structure Session where
  level : Level
  machine : Machine
  history : History
  status : Status
  last : Option Snapshot
  deriving Inhabited

namespace Session

/-- The registers that a level starts with on a player's value; null leaves the player's register
as the level has it. -/
def firstRegisters (level : Level) (value : Datum) : Except Fault Registers :=
  match value with
  | .null => .ok (.ofTable level.registers)
  | d => do return .ofTable (level.registers.put level.playerRegister (← d.lenient))

/-- The machine that a level starts on for an architecture and a player's value. -/
def firstMachine (a : Architecture) (level : Level) (value : Datum) : Except Fault Machine := do
  let registers ← firstRegisters level value
  return {
    registers
    pc := a.firstLine
    program := ← Program.read a level.program
    outcome := none }

/-- A new game of a level on a player's value. -/
def fresh (level : Level) (value : Datum) : Except Fault Session := do
  let machine ← firstMachine level.architecture level value
  return {
    level, machine
    history := .start machine.registers
    status := .waiting
    last := none }

/-- A new game of a level. -/
def create (level : Level) : Except Fault Session := fresh level .null

/-- A new game of the level that a value describes. -/
def ofDatum (d : Datum) : Except Fault Session := do create (← Level.read d)

/-- The game from its start, on a player's value. -/
def reset (s : Session) (value : Datum) : Except Fault Session := fresh s.level value

/-- The registers of the machine. -/
def registers (s : Session) : Registers := s.machine.registers

/-- The line that the machine stands on. -/
def pc (s : Session) : Int := s.machine.pc

/-- The program of the machine. -/
def program (s : Session) : Program := s.machine.program

/-- The architecture of the machine. -/
def architecture (s : Session) : Architecture := s.level.architecture

/-- Whether the game is over. -/
def isTerminal (s : Session) : Bool := s.status.isTerminal

/-! ## Playing -/

/-- Lets a waiting game run; any other game stays as it is. -/
def start (s : Session) : Session :=
  if s.status = .waiting then { s with status := .running } else s

/-- Executes one instruction; a game that is over stays as it is. -/
def step (s : Session) : Except Fault Session :=
  if s.isTerminal then .ok s
  else do
    let snapshot ← s.machine.step s.architecture s.history
    return { s with
      machine := snapshot.machine
      history := snapshot.history
      status := .ofOutcome snapshot.machine.outcome
      last := some snapshot }

/-- Executes at most so many instructions, until the game is over. -/
def steps : Nat → Session → Except Fault Session
  | 0, s => .ok s
  | n + 1, s => if s.isTerminal then .ok s else do steps n (← s.step)

/-- Lets the game run for at most so many instructions, until it is over. A budget below zero is
used up from the start. -/
def run (s : Session) (budget : Int) : Except Fault Session := steps budget.toNat s.start

/-- The instructions that a run without a budget of its own may execute. -/
def defaultBudget : Int := 10000

/-- The sessions after each of at most so many steps, until the game is over. -/
def trace : Nat → Session → Except Fault (List Session)
  | 0, _ => .ok []
  | n + 1, s =>
    if s.isTerminal then .ok []
    else do
      let next ← s.step
      return next :: (← trace n next)

/-- The commands of a player. -/
inductive Command where
  | start
  | step
  | run (budget : Int)
  | reset (value : Datum)

/-- Carries out a command. -/
def apply (s : Session) : Command → Except Fault Session
  | .start => .ok s.start
  | .step => s.step
  | .run budget => s.run budget
  | .reset value => s.reset value

/-- Whether a command has nothing to do, so that the session it gives is the one before. -/
def isIdleOn (s : Session) : Command → Bool
  | .start => s.status != .waiting
  | .step => s.isTerminal
  | .run budget => s.status != .waiting && (budget ≤ 0 || s.isTerminal)
  | .reset _ => false

/-! ## Looking -/

/-- The part of the program that is shown. -/
def viewport (s : Session) : List ViewportRow := Viewport.rows s.program s.pc

/-- A register as a panel lays it out: its name, and whether the player sets it. -/
structure RegisterSlot where
  name : String
  isPlayers : Bool

/-- A titled group of registers. -/
structure RegisterGroup where
  title : String
  slots : List RegisterSlot

/-- The registers in groups, the clock in one of its own. The clock is never marked as the
player's. -/
def registerLayout (r : Registers) (playerRegister : String) : List RegisterGroup :=
  [⟨"Registers", (r.names.filter (· != clockName)).map fun n => ⟨n, n == playerRegister⟩⟩,
   ⟨"Time", [⟨clockName, false⟩]⟩]

/-- The registers of the session in groups. -/
def layout (s : Session) : List RegisterGroup :=
  registerLayout s.registers s.level.playerRegister

end Session

end Defusal
