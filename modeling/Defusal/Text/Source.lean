import Defusal.Text.Blank
import Defusal.Text.Utf8

/-!
# Sources

The texts that documents are read from. The text of a file is there only up to the bytes that cannot
be decoded; a reader that gets so far meets their fault.
-/

namespace Defusal

/-- A text that a document is read from. -/
inductive Source where
  /-- A text that is at hand as a whole. -/
  | text (chars : List Char)
  /-- The text of a file, and the fault that is met after it if not all of the file is text. -/
  | file (chars : List Char) (fault? : Option Fault)

/-- The source that a file is, from its bytes: UTF-8 text with any of the common line ends. -/
def Source.ofBytes (bytes : ByteArray) : Source :=
  let (chars, fault?) := Text.decode bytes
  .file (Text.unifyLineFeeds chars) fault?

end Defusal
