import Defusal.Main
import Defusal.Session.Runner
import Defusal.Proofs.Machine.Effect
import Defusal.Proofs.Session.Run
import Defusal.Proofs.Session.Coherence
import Defusal.Proofs.Program.Embedding
import Defusal.Proofs.Session.Recording
import Defusal.Proofs.Machine.Translation
import Defusal.Proofs.Session.Translation
import Defusal.Proofs.Level.Refusal
import Defusal.Proofs.Level.Fields
import Defusal.Proofs.Level.Kept
import Defusal.Proofs.Level.Normal
import Defusal.Proofs.Level.Writings
import Defusal.Proofs.Session.Calls
import Defusal.Proofs.Window.Driving
import Defusal.Proofs.Session.Clock
import Defusal.Proofs.Session.Timekeeping
import Defusal.Proofs.Machine.Likeness
import Defusal.Proofs.Machine.Gaps
import Defusal.Proofs.Session.Unread
import Defusal.Proofs.Session.Ending
import Defusal.Proofs.Level.Doubling
import Defusal.Proofs.Level.Copying
import Defusal.Proofs.Machine.Limits
import Defusal.Proofs.Machine.Course
import Defusal.Proofs.Session.Playable
import Defusal.Proofs.Program.Viewport
import Defusal.Proofs.Window.Showing
import Defusal.Proofs.Window.Input
import Defusal.Proofs.Window.Layout
import Defusal.Proofs.Window.Marks
import Defusal.Proofs.CommandLine.Launch
import Defusal.Proofs.Machine.Forms
import Defusal.Proofs.Program.Blocks
import Defusal.Proofs.Program.Disclosure
import Defusal.Proofs.Instruction.Rendering
import Defusal.Proofs.Instruction.Displayed
import Defusal.Proofs.Instruction.Assembly
import Defusal.Proofs.Machine.Frame
import Defusal.Proofs.Session.Budget
import Defusal.Proofs.Session.Outside
import Defusal.Proofs.Session.Forward
import Defusal.Proofs.Session.Layout
import Defusal.Proofs.Datum.Operand
