import Defusal.Level.Reading
import Defusal.Text.Source

/-!
# Levels in files

Levels are written as documents, one document to a text. What data a document stands for is not
decided here: every function takes the reader of documents, which refuses a source that it cannot
read with a fault of its own.
-/

namespace Defusal.Level

/-- The name of a document that comes from no file. -/
def unnamedSource : String := "<string>"

variable (document : Source → Except Fault Datum)

/-- Reads the levels of a document; `name` stands for it in messages. -/
def ofSource (name : String) (source : Source) : Report (List Level) :=
  match document source with
  | .ok d => ofDocument name d
  | .error f => .error f

/-- Reads the levels of a text that comes from no file. -/
def ofString (text : String) : Report (List Level) :=
  ofSource document unnamedSource (.text text.toList)

/-- Reads the levels of a file from its bytes. -/
def ofBytes (path : String) (bytes : ByteArray) : Report (List Level) :=
  ofSource document path (.ofBytes bytes)

/-- Reads the levels of several files in order; `contents` gives the bytes of a file or the fault
that it cannot be opened. -/
def ofFiles (contents : String → Except Fault ByteArray) (paths : List String) :
    Report (List Level) :=
  (Report.all (paths.map fun path =>
    match contents path with
    | .ok bytes => ofBytes document path bytes
    | .error f => .error f)).andThen fun levels => .ok levels.flatten

end Defusal.Level
