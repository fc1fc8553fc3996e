import Defusal.Text.Source
import Defusal.Yaml.Cursor

/-!
# Excerpts

The text of a document as far as it can be had. The text of a file is taken block by block, and only
as the reading gets there: a fault in a later block is not seen where the text before it is
malformed already.
-/

namespace Defusal.Yaml

/-- A text and, if it breaks off, the fault that is met where it ends. -/
structure Excerpt where
  text : List Char
  fault? : Option Fault

namespace Excerpt

/-- What can be had of a text that is at hand as a whole. -/
def ofText (text : List Char) : Excerpt :=
  if text.all isAllowed then ⟨text, none⟩ else ⟨[], some .malformedDocument⟩

/-- The number of characters in a block of a file. -/
def blockSize : Nat := 4096

/-- The characters that are taken before a block is found to hold a fault, given the number of those
before the fault. The first two blocks are taken together. -/
def takenBefore (count : Nat) : Nat :=
  if count < 2 * blockSize then 0 else count / blockSize * blockSize

/-- What can be had of a file with a text, after which there may be a fault. Characters that no
document may hold are a fault of their block. -/
def ofFile (text : List Char) (fault? : Option Fault) : Excerpt :=
  let whole := if fault?.isSome then text.take (takenBefore text.length) else text
  let allowed := whole.takeWhile isAllowed
  if allowed.length = whole.length then ⟨whole, fault?⟩
  else ⟨allowed.take (takenBefore allowed.length), some .malformedDocument⟩

/-- What can be had of a source. -/
def ofSource : Source → Excerpt
  | .text chars => ofText chars
  | .file chars fault? => ofFile chars fault?

end Excerpt

end Defusal.Yaml
