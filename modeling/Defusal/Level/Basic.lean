import Defusal.Architecture
import Defusal.Datum.Basic
import Defusal.Table

/-!
# Levels

A level is a bomb to defuse: a program in the form in which it was written, the registers it starts
with, and the register whose first value is the player's to choose.
-/

namespace Defusal

/-- A level. -/
structure Level where
  id : String
  name : String
  description : String := ""
  architecture : Architecture := .sparse
  program : Datum := .list []
  registers : Table String Int := .empty
  playerRegister : String := "A"
  order : Int := 0
  deriving Inhabited

end Defusal
