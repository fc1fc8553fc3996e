import Defusal.CommandLine
import Defusal.Window.Screen
import Defusal.Yaml.Document

/-!
# The program

Opens the window on the levels that the arguments name and shows it on the terminal after every
event that is typed in, until `quit` or the end of the input.
-/

namespace Defusal.Terminal

/-- The bytes of a file, or the fault that it cannot be opened. -/
def contentsOf (path : String) : IO (Except Fault ByteArray) := do
  try
    return .ok (← IO.FS.readBinFile path)
  catch e =>
    match e with
    | .noFileOrDirectory .. => return .error (.missingFile path)
    | .permissionDenied _ number _ =>
      return .error (.cannotBeOpened number.toNat "Permission denied" path)
    | _ => return .error (.fileIsDirectory path)

/-- Prints the window. -/
def printScreen (w : Window) : IO Unit := do
  for line in w.screen do IO.println line

/-- Tells the fault of an event that was broken off. -/
def tellFault (fault? : Option Fault) : IO Unit := do
  if let some f := fault? then IO.eprintln f.message

/-- Carries out the events that are typed in. -/
partial def play (input : IO.FS.Stream) (w : Window) : IO Unit := do
  printScreen w
  let line ← input.getLine
  if line.isEmpty || line.trimAscii == "quit" then return
  match Window.Event.ofLine? line with
  | none => play input w
  | some e =>
    let (w, fault?) := w.handle e
    tellFault fault?
    play input w

/-- Starts the program on some arguments and gives its exit code. The terminal has no options of its
own, and takes every text. -/
def start (arguments : List String) : IO UInt32 := do
  let paths := CommandLine.paths arguments
  let files ← paths.mapM contentsOf
  let contents (path : String) : Except Fault ByteArray :=
    ((paths.zip files).lookup path).getD (.error (.missingFile path))
  let env : CommandLine.Surroundings := {
    fonts := ⟨[], "monospace"⟩
    contents
    document := Yaml.read
    unwritable? := fun _ => none }
  let launched := CommandLine.launch env arguments
  for notice in launched.notices do IO.eprintln notice
  match launched.result with
  | .error f =>
    IO.eprintln f.message
    return 1
  | .ok l =>
    IO.print l.printed
    if let .opened w fault? := l then
      tellFault fault?
      play (← IO.getStdin) w
    return .ofNat l.exitCode

end Defusal.Terminal

/-- Starts the program and gives its exit code. -/
def main (arguments : List String) : IO UInt32 := Defusal.Terminal.start arguments
