import Defusal.Session.Basic
import Defusal.Window.Font

/-!
# The register panel

The panel shows the registers of a session in titled groups and marks the values that changed since
they were shown last. It lays itself out anew only when the set of register names changes. A value
counts as changed if its register was shown before with another value and the memory of what was
shown has not been cleared since.
-/

namespace Defusal

/-- A register on the panel: its name, its caption, the value shown, and the style of the value,
which is missing as long as no value was shown. -/
structure RegisterLabel where
  name : String
  caption : String
  value : String
  style : Option String

/-- A titled group on the panel. -/
structure RegisterBox where
  title : String
  labels : List RegisterLabel

/-- The panel: the font family of its values, its groups, and the values shown last by name. -/
structure RegisterPanel where
  family : String
  boxes : List RegisterBox
  shown : Table String Int

namespace RegisterPanel

/-- A panel that shows nothing yet. -/
def new (fonts : FontCatalogue) : RegisterPanel := ⟨fonts.monospace, [], .empty⟩

/-- The colour of a value that changed. -/
def changedColour : String := "#FF5555"

/-- The colour of a value that did not change. -/
def settledColour : String := "#FFD700"

/-- The style of a value. -/
def valueStyle (family : String) (changed : Bool) : String :=
  "font-family: '" ++ family ++ "', monospace; color: "
    ++ (if changed then changedColour else settledColour) ++ ";"

/-- The caption of a register. -/
def caption (slot : Session.RegisterSlot) : String :=
  slot.name ++ (if slot.isPlayers then " (input)" else "") ++ ":"

/-- A register before a value is shown. -/
def blankLabel (slot : Session.RegisterSlot) : RegisterLabel :=
  ⟨slot.name, caption slot, "0", none⟩

/-- The names on the panel, from top to bottom. -/
def names (p : RegisterPanel) : List String := p.boxes.flatMap fun b => b.labels.map (·.name)

/-- The label of a register. -/
def label? (p : RegisterPanel) (name : String) : Option RegisterLabel :=
  (p.boxes.flatMap (·.labels)).find? (·.name == name)

/-- The text shown for a register. -/
def displayed? (p : RegisterPanel) (name : String) : Option String := (p.label? name).map (·.value)

/-- Forgets the values shown, so that none counts as changed next time. -/
def clear (p : RegisterPanel) : RegisterPanel := { p with shown := .empty }

/-- Lays the panel out for a session. -/
def layOut (p : RegisterPanel) (s : Session) : RegisterPanel :=
  { p with boxes := s.layout.map fun g => ⟨g.title, g.slots.map blankLabel⟩ }

/-- Whether the panel has exactly the registers of a session. -/
def fits (p : RegisterPanel) (s : Session) : Bool :=
  p.names.all s.registers.names.contains && s.registers.names.all p.names.contains

/-! ## Showing values

A value that is too long to be written stops the panel: what was shown before it stays, the rest
keeps its old values. -/

/-- Shows values on labels from top to bottom. -/
def showLabels (family : String) (value : String → Int) :
    List RegisterLabel → Table String Int → List RegisterLabel × Table String Int × Option Fault
  | [], shown => ([], shown, none)
  | l :: ls, shown =>
    let n := value l.name
    match Numeral.write n with
    | .error f => (l :: ls, shown, some f)
    | .ok text =>
      let changed := (shown.get? l.name).any (· != n)
      let l := { l with value := text, style := some (valueStyle family changed) }
      let (ls, shown, fault) := showLabels family value ls (shown.put l.name n)
      (l :: ls, shown, fault)

/-- Shows values in groups from top to bottom. -/
def showBoxes (family : String) (value : String → Int) :
    List RegisterBox → Table String Int → List RegisterBox × Table String Int × Option Fault
  | [], shown => ([], shown, none)
  | b :: bs, shown =>
    match showLabels family value b.labels shown with
    | (labels, shown, some f) => ({ b with labels } :: bs, shown, some f)
    | (labels, shown, none) =>
      let (bs, shown, fault) := showBoxes family value bs shown
      ({ b with labels } :: bs, shown, fault)

/-- Shows values; a register without one is shown as zero. -/
def update (p : RegisterPanel) (values : Table String Int) : RegisterPanel × Option Fault :=
  let (boxes, shown, fault) :=
    showBoxes p.family (fun name => (values.get? name).getD 0) p.boxes p.shown
  ({ p with boxes, shown }, fault)

/-- Shows the registers of a session. -/
def setSession (p : RegisterPanel) (s : Session) : RegisterPanel × Option Fault :=
  (if p.fits s then p else p.layOut s).update s.registers.table

end RegisterPanel

end Defusal
