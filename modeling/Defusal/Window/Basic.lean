import Defusal.Window.ProgramTable
import Defusal.Window.RegisterPanel

/-!
# The window

The window offers a list of levels and shows one game: its registers, its program, an input for the
player's value, buttons to reset, run and step, and a banner at the end. A running game is driven
by a timer. `Window.handle` says what each event does; the window is refreshed after every event
that changed the game.

A value that is too long to be written breaks an event off. What the event had done by then stays
done, and the fault is told with the window.
-/

namespace Defusal

/-- The window: the levels on offer, the chosen row of the list, the game, what the widgets show,
and whether the run timer is active. -/
structure Window where
  levels : List Level
  nameFont : Font
  row : Option Nat
  session : Option Session
  name : String
  description : String
  playerLabel : String
  playerValue : Int
  runEnabled : Bool
  stepEnabled : Bool
  statusText : String
  statusStyle : String
  timerActive : Bool
  panel : RegisterPanel
  table : ProgramTable

namespace Window

/-! ## Fixed parts -/

/-- The title of the window. -/
def title : String := "Bomb Tracer"

/-- The place and the size of the window. -/
def geometry : List Int := [100, 100, 1000, 640]

/-- The least and the greatest value of the player's input. -/
def inputRange : Int × Int := (-1000000, 1000000)

/-- The time between two ticks of the run timer, in milliseconds. -/
def timerInterval : Int := 500

/-- The texts of the buttons. -/
def buttons : List String := ["Reset Level", "Run", "Step"]

/-- The size of the level's name. -/
def nameSize : Int := 16

/-- The style of the banner before a game has ended. -/
def plainStyle : String := "font-size: 20px;"

/-- The text and the style of the banner of a game that is over. -/
def banner? : Status → Option (String × String)
  | .won => some ("Bomb defused! You win!", plainStyle ++ " color: green;")
  | .lost => some ("Boom! The bomb exploded!", plainStyle ++ " color: red;")
  | _ => none

/-- The nearest value within the range of the player's input. -/
def clamp (n : Int) : Int := max inputRange.1 (min inputRange.2 n)

/-! ## Refreshing -/

/-- A window after an event, with the fault that broke the event off. -/
abbrev Result : Type := Window × Option Fault

/-- Shows the state of a game in the buttons and the banner. -/
def refreshControls (w : Window) (s : Session) : Window :=
  let (text, style) := (banner? s.status).getD ("", w.statusStyle)
  { w with
    runEnabled := s.status == .waiting && !w.timerActive
    stepEnabled := !s.isTerminal
    statusText := text
    statusStyle := style }

/-- Shows a game as the window's game. -/
def display (w : Window) (s : Session) : Result :=
  let w := { w with session := some s }
  match w.panel.setSession s with
  | (panel, some f) => ({ w with panel }, some f)
  | (panel, none) =>
    match w.table.update s with
    | (table, some f) => ({ w with panel, table }, some f)
    | (table, none) => ({ w with panel, table }.refreshControls s, none)

/-- Shows a game if it could be made. -/
def displayIfOk (w : Window) (s : Except Fault Session) : Result :=
  match s with
  | .ok s => w.display s
  | .error f => (w, some f)

/-- Stops the run timer. -/
def stopTimer (w : Window) : Window := { w with timerActive := false }

/-! ## Events -/

/-- What can happen to the window. -/
inductive Event where
  /-- A row of the level list is chosen. -/
  | chooseRow (row : Int)
  /-- A level is selected without a change in the list. -/
  | selectLevel (row : Int)
  /-- The player's input is set. -/
  | setValue (n : Int)
  | reset
  | run
  | step
  | tick

/-- The place that a row number gives in the list of levels. -/
def place? (w : Window) (row : Int) : Option Nat :=
  if 0 ≤ row ∧ row < w.levels.length then some row.toNat else none

/-- Starts the level of a row; the input shows the value that the level gives to the player's
register. A row outside the list changes nothing. -/
def selectLevel (w : Window) (row : Option Nat) : Result :=
  match row.bind fun n => w.levels[n]? with
  | none => (w, none)
  | some level =>
    let w := w.stopTimer
    match Session.create level with
    | .error f => (w, some f)
    | .ok s =>
      { w with
        session := some s
        name := level.name
        description := level.description
        playerLabel := "Register " ++ level.playerRegister ++ " initial value:"
        playerValue := clamp ((s.registers.get? level.playerRegister).getD 0)
        panel := w.panel.clear }.display s

/-- Chooses a row of the list; a row outside the list takes the choice away. -/
def chooseRow (w : Window) (row : Int) : Result :=
  let place := w.place? row
  if place = w.row then (w, none) else { w with row := place }.selectLevel place

/-- Starts the game anew on the value of the input. -/
def reset (w : Window) : Result :=
  match w.session with
  | none => (w, none)
  | some s =>
    let w := w.stopTimer
    match s.reset (.int w.playerValue) with
    | .error f => (w, some f)
    | .ok s => { w with panel := w.panel.clear }.display s

/-- Sets the input; a new value starts the game anew. -/
def setValue (w : Window) (n : Int) : Result :=
  if clamp n = w.playerValue then (w, none) else { w with playerValue := clamp n }.reset

/-- Lets a waiting game run. -/
def run (w : Window) : Result :=
  match w.session with
  | none => (w, none)
  | some s =>
    if s.status = .waiting then { w with timerActive := true }.display s.start else (w, none)

/-- Makes one step by hand, which also stops the timer. -/
def step (w : Window) : Result :=
  match w.session with
  | none => (w, none)
  | some s => w.stopTimer.displayIfOk s.start.step

/-- Makes one step of a running game; at the end of the game the timer stops. -/
def tick (w : Window) : Result :=
  match w.session with
  | none => (w.stopTimer, none)
  | some s =>
    if s.isTerminal then (w.stopTimer, none)
    else
      match s.step with
      | .error f => (w, some f)
      | .ok s => (if s.isTerminal then w.stopTimer else w).display s

/-- What an event does. -/
def handle (w : Window) : Event → Result
  | .chooseRow row => w.chooseRow row
  | .selectLevel row => w.selectLevel (w.place? row)
  | .setValue n => w.setValue n
  | .reset => w.reset
  | .run => w.run
  | .step => w.step
  | .tick => w.tick

/-! ## Opening -/

/-- A window before a level is chosen. -/
def new (fonts : FontCatalogue) (levels : List Level) : Window where
  levels := levels
  nameFont := fonts.font nameSize true
  row := none
  session := none
  name := ""
  description := ""
  playerLabel := ""
  playerValue := 0
  runEnabled := true
  stepEnabled := true
  statusText := ""
  statusStyle := plainStyle
  timerActive := false
  panel := .new fonts
  table := .empty

/-- Opens a window on the first of some levels. Choosing it is the window's first event, which a
fault breaks off like any other. -/
def openOn (fonts : FontCatalogue) (levels : List Level) : Result :=
  (new fonts levels).chooseRow 0

end Window

end Defusal
