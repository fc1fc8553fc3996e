import Defusal.Session.Basic

/-!
# The automatic runner

A runner plays a session by itself: it sleeps, makes a step, tells an observer, and goes on until
the game is over, a limit on the number of steps is reached, or somebody calls stop. Stop may be
called while the runner sleeps or from the observer. All it does is to lower the runner's flag,
which the runner looks at before every turn and after every sleep; a new run raises it again.

A stop plan says in which sleeps and after which steps of a run stop is called; the runner counts
both from one.
-/

namespace Defusal

/-- When stop is called during a run: in which sleeps and after which steps. -/
structure StopPlan where
  inSleep : Nat → Bool
  afterStep : Nat → Bool

/-- The plan that never calls stop. -/
def StopPlan.never : StopPlan := ⟨fun _ => false, fun _ => false⟩

/-- A runner: its session, its flag, and what it has done in the present run, namely how many steps
it made, how often it slept, and the sessions that the observer was told, in order. -/
structure Runner where
  session : Session
  running : Bool
  steps : Nat
  sleeps : Nat
  seen : List Session

namespace Runner

/-- The time between two steps, in seconds, unless another is asked for. -/
def defaultInterval : Binary64 := .ofDecimal false 5 (-1)

/-- Whether a limit on the number of steps is reached. -/
def isReached (limit : Option Int) (steps : Nat) : Bool := limit.any fun n => n ≤ (steps : Int)

/-- A runner of a session at the start of a run. -/
def start (s : Session) : Runner := ⟨s.start, true, 0, 0, []⟩

/-- Asks the runner to stop. -/
def stop (r : Runner) : Runner := { r with running := false }

/-- Asks the runner to stop if a plan says so. -/
def stopIf (r : Runner) (called : Bool) : Runner := if called then r.stop else r

/-- Sleeps once, during which stop may be called. -/
def sleep (plan : StopPlan) (r : Runner) : Runner :=
  { r with sleeps := r.sleeps + 1 }.stopIf (plan.inSleep (r.sleeps + 1))

/-- Makes one step. -/
def step (r : Runner) : Except Fault Runner := do
  return { r with session := ← r.session.step, steps := r.steps + 1 }

/-- Tells the observer, which may call stop. -/
def tell (plan : StopPlan) (r : Runner) : Runner :=
  { r with seen := r.seen ++ [r.session] }.stopIf (plan.afterStep r.steps)

/-- One turn of a run; the answer also says whether the run goes on. -/
def turn (plan : StopPlan) (limit : Option Int) (r : Runner) : Except Fault (Runner × Bool) :=
  if !r.running || r.session.isTerminal || isReached limit r.steps then .ok (r, false)
  else
    let r := r.sleep plan
    if !r.running then .ok (r, false) else do return ((← r.step).tell plan, true)

/-- Makes turns until the run ends. `none` is the answer where the fuel is used up before. -/
def loop (plan : StopPlan) (limit : Option Int) : (fuel : Nat) → Runner →
    Except Fault (Option Runner)
  | 0, _ => .ok none
  | fuel + 1, r => do
    match ← r.turn plan limit with
    | (r, true) => loop plan limit fuel r
    | (r, false) => return some r

/-- The turns that a run is given: with a limit on the steps as many as that takes, without one as
many as are asked for. -/
def turns (limit : Option Int) (fuel : Nat) : Nat :=
  match limit with
  | some n => n.toNat + 1
  | none => fuel

/-- A run of a session from its start to its end. -/
def run? (plan : StopPlan) (limit : Option Int) (fuel : Nat) (s : Session) :
    Except Fault (Option Runner) := do
  return (← loop plan limit (turns limit fuel) (start s)).map stop

/-- What the runner says at the end of a run; nothing unless the game is over. -/
def verdict (s : Session) : Except Fault String :=
  match s.status with
  | .won => do return "Bomb defused at T=" ++ (← Numeral.write s.registers.time) ++ ".\n"
  | .lost => do
    return "Boom! The bomb exploded at line " ++ (← Numeral.write s.pc) ++ " (T="
      ++ (← Numeral.write s.registers.time) ++ ").\n"
  | _ => .ok ""

/-- What a call of the runner gives back: the session that it returns, the runner after it, and the
text that it printed. -/
structure Answer where
  returned : Session
  runner : Runner
  printed : String

/-- A whole call: a run, and at its end the verdict on the session. -/
def call? (plan : StopPlan) (limit : Option Int) (fuel : Nat) (s : Session) :
    Except Fault (Option Answer) := do
  match ← run? plan limit fuel s with
  | none => return none
  | some r => return some ⟨r.session, r, ← verdict r.session⟩

end Runner

end Defusal
