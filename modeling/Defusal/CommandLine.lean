import Defusal.Level.Bundled
import Defusal.Level.File
import Defusal.Window.Basic

/-!
# The command line

The program is given the files of the levels to play, and plays the bundled levels if it is given
none. Files that cannot be opened or hold no proper levels are reported in one line; faults of
other kinds are not accounted for and end the program.

A fault that the first level is shown with is one of an event of the window, its first, and does not
keep the window from opening.
-/

namespace Defusal.CommandLine

/-- What the program is started in. -/
structure Surroundings where
  /-- The fonts that there are. -/
  fonts : FontCatalogue
  /-- The bytes of a file, or the fault that it cannot be opened. -/
  contents : String → Except Fault ByteArray
  /-- The data of a document, or the fault that it is refused with. -/
  document : Source → Except Fault Datum
  /-- The fault of a text that cannot be written to the output, as one with characters that the
  output lacks; `none` for a text that can be written. -/
  unwritable? : String → Option Fault

/-- The files that some arguments name: those that do not start with a dash. The arguments are those
that the toolkit leaves, which takes its own options away first, without the program's name. -/
def paths (arguments : List String) : List String :=
  arguments.filter fun a => a.toList.head? != some '-'

/-- The levels of some files; `none` asks for the bundled ones. -/
def levelsOf (document : Source → Except Fault Datum) (contents : String → Except Fault ByteArray)
    (paths : List String) : Report (Option (List Level)) :=
  if paths.isEmpty then .ok none
  else (Level.ofFiles document contents paths).andThen fun levels => .ok (some levels)

/-- Whether a fault is reported in a line of its own. -/
def isReported (f : Fault) : Bool :=
  match f.kind with
  | .value | .undecodable | .missingFile | .directory | .system => true
  | _ => false

/-- What is printed about a fault that is reported. -/
def report (f : Fault) : String := "Error: failed to load levels: " ++ f.message ++ "\n"

/-- How the program starts: with a report of what is wrong, or with a window and perhaps the fault
that showing its first level was broken off with. -/
inductive Launch where
  | refused (report : String)
  | opened (window : Window) (fault? : Option Fault)

namespace Launch

/-- The exit code of a program that does nothing more. -/
def exitCode : Launch → Nat
  | refused _ => 1
  | opened .. => 0

/-- What the program prints. -/
def printed : Launch → String
  | refused report => report
  | opened .. => ""

end Launch

/-- Starts the program on the arguments that the toolkit leaves. -/
def launch (env : Surroundings) (arguments : List String) : Report Launch :=
  let levels := levelsOf env.document env.contents (paths arguments)
  match levels.result with
  | .error f =>
    if isReported f then
      match env.unwritable? (report f) with
      | none => ⟨levels.notices, .ok (.refused (report f))⟩
      | some g => ⟨levels.notices, .error g⟩
    else ⟨levels.notices, .error f⟩
  | .ok levels? =>
    let (window, fault?) := Window.openOn env.fonts (levels?.getD Level.bundled)
    ⟨levels.notices, .ok (.opened window fault?)⟩

end Defusal.CommandLine
