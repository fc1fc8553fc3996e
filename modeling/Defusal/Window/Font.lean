/-!
# Fonts

The window writes registers and programs in a fixed-width font: the first of its preferred families
that is installed, or else the fixed-width font of the system.
-/

namespace Defusal

/-- The fonts of a system: the installed families, and the family of its fixed-width font. -/
structure FontCatalogue where
  families : List String
  fixed : String

/-- A font. -/
structure Font where
  family : String
  size : Int
  bold : Bool

namespace FontCatalogue

/-- The families that the window prefers, the best one first. -/
def preferred : List String := ["Consolas", "Menlo", "Monaco", "Courier New"]

/-- The family of the fixed-width font. -/
def monospace (c : FontCatalogue) : String :=
  (preferred.find? c.families.contains).getD c.fixed

/-- The size of a font unless another is asked for. -/
def defaultSize : Int := 10

/-- A fixed-width font. -/
def font (c : FontCatalogue) (size : Int) (bold : Bool) : Font := ⟨c.monospace, size, bold⟩

end FontCatalogue

end Defusal
