import Defusal.Yaml.Tag
import Defusal.Yaml.Token

/-!
# Nodes

The nodes that a row of tokens describes: scalars, sequences and mappings with their tags. Nodes
refer to one another by number, so that a node can stand in several places. An anchor names a node;
an alias stands for the node itself, also inside that node. An anchor is named once, and before its
aliases. A document has at most one root.
-/

namespace Defusal.Yaml

/-- A node of a document; the nodes in it are given by number. -/
inductive Node where
  | scalar (tag text : String)
  | sequence (tag : String) (items : List Nat)
  | mapping (tag : String) (entries : List (Nat × Nat))
  deriving Inhabited

namespace Node

/-- The tag of a node. -/
def tag : Node → String
  | scalar t _ | sequence t _ | mapping t _ => t

/-- The node that a missing value stands for. -/
def empty : Node := scalar nullTag ""

end Node

/-- The nodes of a document by number. -/
abbrev Nodes : Type := Array Node

/-- A document: its nodes, and the number of its root. -/
structure Document where
  nodes : Nodes
  root : Nat

/-! ## From tokens to nodes -/

/-- The state of the reading: the tokens that are left, the tag handles with what they stand for,
the anchors with the numbers of their nodes, the nodes, and the number of collections that are still
being read. -/
structure NodeReader where
  tokens : List Token
  handles : List (String × String)
  anchors : List (String × Nat) := []
  nodes : Nodes := #[]
  depth : Nat := 0

/-- A reading that uses up tokens. -/
abbrev Reading (α : Type) : Type := NodeReader → Except Fault (α × NodeReader)

namespace NodeReader

/-- The next token, `none` at the end; a token for a fault raises it. -/
def peek (r : NodeReader) : Except Fault (Option Token) :=
  match r.tokens with
  | .fault f :: _ => .error f
  | t :: _ => .ok (some t)
  | [] => .ok none

/-- The reading after the next token. -/
def next (r : NodeReader) : NodeReader := { r with tokens := r.tokens.tail }

/-- The number of the node that an alias stands for. -/
def resolve (r : NodeReader) (name : String) : Except Fault Nat :=
  match r.anchors.lookup name with
  | some n => .ok n
  | none => malformed

/-- Adds a node. -/
def add (r : NodeReader) (n : Node) : Nat × NodeReader :=
  (r.nodes.size, { r with nodes := r.nodes.push n })

/-- The greatest number of collections that stand in one another. -/
def depthLimit : Nat := 489

/-- Makes room for a node that is about to be read, which may have an anchor. -/
def enter (r : NodeReader) (anchor? : Option String) : Except Fault (Nat × NodeReader) :=
  let named : NodeReader := match anchor? with
    | none => r
    | some name => { r with anchors := (name, r.nodes.size) :: r.anchors }
  if (anchor?.bind fun name => r.anchors.lookup name).isSome then malformed
  else if depthLimit < r.depth then .error .nestedTooDeep
  else
    let (id, r) := named.add .empty
    .ok (id, { r with depth := r.depth + 1 })

/-- Puts a node that has been read into its room. -/
def leave (r : NodeReader) (id : Nat) (n : Node) : NodeReader :=
  { r with nodes := r.nodes.setIfInBounds id n, depth := r.depth - 1 }

/-- The tag that a written tag stands for. -/
def expand (r : NodeReader) (t : TagText) : Except Fault String :=
  match t.handle? with
  | none => .ok t.suffix
  | some h =>
    match r.handles.lookup h with
    | some expansion => .ok (expansion ++ t.suffix)
    | none => malformed

/-- Reads the anchor and the tag before a node, in either order. -/
def properties : Reading (Option String × Option String) := fun r => do
  match ← r.peek with
  | some (.anchor a) =>
    let r := r.next
    match ← r.peek with
    | some (.tag t) => return ((some a, some (← r.expand t)), r.next)
    | _ => return ((some a, none), r)
  | some (.tag t) =>
    let after := r.next
    match ← after.peek with
    | some (.anchor a) => return ((some a, some (← r.expand t)), after.next)
    | _ => return ((none, some (← r.expand t)), after)
  | _ => return ((none, none), r)

end NodeReader

/-- The tag of a scalar; the tag `!` asks for the rules of plain scalars. -/
def scalarTag (tag? : Option String) (isPlain : Bool) (text : String) : String :=
  match tag? with
  | none => if isPlain then plainTag text else textTag
  | some "!" => plainTag text
  | some t => t

/-- The tag of a collection. -/
def collectionTag (tag? : Option String) (byDefault : String) : String :=
  match tag? with
  | none | some "!" => byDefault
  | some t => t

/-- The tokens after which an entry of a block is empty. -/
def endsBlockEntry : Option Token → Bool
  | some .blockEntry | some .blockEnd => true
  | _ => false

/-- The tokens after which a key or value of a block mapping is empty. -/
def endsBlockPair : Option Token → Bool
  | some .key | some .value | some .blockEnd => true
  | _ => false

/-- The tokens after which a key or value in a flow sequence is empty. -/
def endsSequencePair : Option Token → Bool
  | some .flowEntry | some .flowSequenceEnd => true
  | _ => false

/-- The tokens after which a key or value in a flow mapping is empty. -/
def endsMappingPair : Option Token → Bool
  | some .flowEntry | some .flowMappingEnd => true
  | _ => false

/-- Whether the next token is a value mark. -/
def isValue : Option Token → Bool
  | some .value => true
  | _ => false

mutual

/-- Reads a node and gives its number. In a block, block collections may stand here, and after a key
also a sequence that is not indented. -/
def readNode : Nat → (inBlock unindented : Bool) → Reading Nat
  | 0, _, _, _ => malformed
  | fuel + 1, inBlock, unindented, r => do
    match ← r.peek with
    | some (.alias name) => return (← r.resolve name, r.next)
    | _ =>
      let ((anchor?, tag?), r) ← r.properties
      let next ← r.peek
      let (id, r) ← r.enter anchor?
      let (n, r) ← readContent fuel inBlock unindented (anchor?.isSome || tag?.isSome) tag? next r
      return (id, r.leave id n)

/-- Reads what follows the anchor and the tag of a node, given the next token. -/
def readContent : Nat → (inBlock unindented hasProperties : Bool) → Option String → Option Token →
    Reading Node
  | 0, _, _, _, _, _, _ => malformed
  | fuel + 1, inBlock, unindented, hasProperties, tag?, next, r =>
    match next with
    | some (.scalar isPlain text) => .ok (.scalar (scalarTag tag? isPlain text) text, r.next)
    | some .flowSequenceStart => do
      let (items, r) ← readFlowSequence fuel true r.next
      return (.sequence (collectionTag tag? sequenceTag) items, r)
    | some .flowMappingStart => do
      let (entries, r) ← readFlowMapping fuel true r.next
      return (.mapping (collectionTag tag? mappingTag) entries, r)
    | some .blockEntry =>
      if unindented then do
        let (items, r) ← readUnindented fuel r
        return (.sequence (collectionTag tag? sequenceTag) items, r)
      else if hasProperties then .ok (.scalar (scalarTag tag? true "") "", r)
      else malformed
    | some .blockSequenceStart =>
      if inBlock then do
        let (items, r) ← readBlockSequence fuel r.next
        return (.sequence (collectionTag tag? sequenceTag) items, r)
      else if hasProperties then .ok (.scalar (scalarTag tag? true "") "", r)
      else malformed
    | some .blockMappingStart =>
      if inBlock then do
        let (entries, r) ← readBlockMapping fuel r.next
        return (.mapping (collectionTag tag? mappingTag) entries, r)
      else if hasProperties then .ok (.scalar (scalarTag tag? true "") "", r)
      else malformed
    | _ =>
      if hasProperties then .ok (.scalar (scalarTag tag? true "") "", r) else malformed

/-- Reads a node unless the next token shows that it is empty. -/
def readOptional : Nat → (isEmpty : Option Token → Bool) → (inBlock unindented : Bool) →
    Reading Nat
  | 0, _, _, _, _ => malformed
  | fuel + 1, isEmpty, inBlock, unindented, r => do
    if isEmpty (← r.peek) then return r.add .empty else readNode fuel inBlock unindented r

/-- Reads a value after its mark; without a mark it is empty. -/
def readMarkedValue : Nat → (isEmpty : Option Token → Bool) → (inBlock : Bool) → Reading Nat
  | 0, _, _, _ => malformed
  | fuel + 1, isEmpty, inBlock, r => do
    if isValue (← r.peek) then readOptional fuel isEmpty inBlock inBlock r.next
    else return r.add .empty

/-- Reads the entries of a block sequence. -/
def readBlockSequence : Nat → Reading (List Nat)
  | 0, _ => malformed
  | fuel + 1, r => do
    match ← r.peek with
    | some .blockEntry =>
      let (item, r) ← readOptional fuel endsBlockEntry true false r.next
      let (items, r) ← readBlockSequence fuel r
      return (item :: items, r)
    | some .blockEnd => return ([], r.next)
    | _ => malformed

/-- Reads the entries of a sequence that is not indented. -/
def readUnindented : Nat → Reading (List Nat)
  | 0, _ => malformed
  | fuel + 1, r => do
    match ← r.peek with
    | some .blockEntry =>
      let isEmpty (t : Option Token) : Bool := endsBlockEntry t || endsBlockPair t
      let (item, r) ← readOptional fuel isEmpty true false r.next
      let (items, r) ← readUnindented fuel r
      return (item :: items, r)
    | _ => return ([], r)

/-- Reads the entries of a block mapping. -/
def readBlockMapping : Nat → Reading (List (Nat × Nat))
  | 0, _ => malformed
  | fuel + 1, r => do
    match ← r.peek with
    | some .key =>
      let (key, r) ← readOptional fuel endsBlockPair true true r.next
      let (value, r) ← readMarkedValue fuel endsBlockPair true r
      let (entries, r) ← readBlockMapping fuel r
      return ((key, value) :: entries, r)
    | some .blockEnd => return ([], r.next)
    | _ => malformed

/-- Reads the entries of a flow sequence; a comma stands before each but the first. An entry with a
key is a mapping of its own. -/
def readFlowSequence : Nat → (isFirst : Bool) → Reading (List Nat)
  | 0, _, _ => malformed
  | fuel + 1, isFirst, r => do
    match isFirst, ← r.peek with
    | _, some .flowSequenceEnd => return ([], r.next)
    | false, some .flowEntry => readFlowSequenceEntry fuel r.next
    | false, _ => malformed
    | true, _ => readFlowSequenceEntry fuel r

/-- Reads an entry of a flow sequence and those after it. -/
def readFlowSequenceEntry : Nat → Reading (List Nat)
  | 0, _ => malformed
  | fuel + 1, r => do
    match ← r.peek with
    | some .flowSequenceEnd => return ([], r.next)
    | some .key =>
      let isEmpty (t : Option Token) : Bool := isValue t || endsSequencePair t
      let (id, r) ← r.enter none
      let (key, r) ← readOptional fuel isEmpty false false r.next
      let (value, r) ← readMarkedValue fuel endsSequencePair false r
      let r := r.leave id (.mapping mappingTag [(key, value)])
      let (items, r) ← readFlowSequence fuel false r
      return (id :: items, r)
    | _ =>
      let (item, r) ← readNode fuel false false r
      let (items, r) ← readFlowSequence fuel false r
      return (item :: items, r)

/-- Reads the entries of a flow mapping; a comma stands before each but the first. -/
def readFlowMapping : Nat → (isFirst : Bool) → Reading (List (Nat × Nat))
  | 0, _, _ => malformed
  | fuel + 1, isFirst, r => do
    match isFirst, ← r.peek with
    | _, some .flowMappingEnd => return ([], r.next)
    | false, some .flowEntry => readFlowMappingEntry fuel r.next
    | false, _ => malformed
    | true, _ => readFlowMappingEntry fuel r

/-- Reads an entry of a flow mapping and those after it. -/
def readFlowMappingEntry : Nat → Reading (List (Nat × Nat))
  | 0, _ => malformed
  | fuel + 1, r => do
    match ← r.peek with
    | some .flowMappingEnd => return ([], r.next)
    | some .key =>
      let isEmpty (t : Option Token) : Bool := isValue t || endsMappingPair t
      let (key, r) ← readOptional fuel isEmpty false false r.next
      let (value, r) ← readMarkedValue fuel endsMappingPair false r
      let (entries, r) ← readFlowMapping fuel false r
      return ((key, value) :: entries, r)
    | _ =>
      let (key, r) ← readNode fuel false false r
      let (value, r) := r.add .empty
      let (entries, r) ← readFlowMapping fuel false r
      return ((key, value) :: entries, r)

end

/-! ## Documents -/

namespace NodeReader

/-- The tag handles that need no directive. -/
def defaultHandles : List (String × String) := [("!", "!"), ("!!", coreTag "")]

/-- A bound on the nested calls of a reading: every call but a few per token uses up a token. -/
def fuel (r : NodeReader) : Nat := 8 * r.tokens.length + 16

/-- Reads the directives before a document. -/
def directives : List Token → (version : Bool) → List (String × String) →
    Except Fault (List (String × String) × List Token)
  | .directive (.version major) :: tokens, version, handles =>
    if version || major != 1 then malformed else directives tokens true handles
  | .directive (.tagHandle h expansion) :: tokens, version, handles =>
    if (handles.lookup h).isSome then malformed
    else directives tokens version ((h, expansion) :: handles)
  | .directive .other :: tokens, version, handles => directives tokens version handles
  | tokens, _, handles => .ok (handles, tokens)

/-- Reads what follows a document: markers of its end, and nothing else. -/
def finish (r : NodeReader) (root : Nat) : Except Fault Document := do
  let rest := r.tokens.dropWhile fun
    | .documentEnd => true
    | _ => false
  match (← directives rest false []).2 with
  | .fault f :: _ => .error f
  | [] => if rest.isEmpty then return ⟨r.nodes, root⟩ else malformed
  | _ => malformed

/-- Reads a document after its start marker, which may have no content. -/
def content (r : NodeReader) : Except Fault Document := do
  match ← r.peek with
  | none | some (.directive _) | some .documentStart | some .documentEnd =>
    let (root, r) := r.add .empty
    r.finish root
  | some _ =>
    let (root, r) ← readNode r.fuel true false r
    r.finish root

end NodeReader

/-- The only document of a row of tokens; `none` if there is no document. -/
def Document.ofTokens? (tokens : List Token) : Except Fault (Option Document) := do
  let r : NodeReader := { tokens, handles := NodeReader.defaultHandles }
  match ← r.peek with
  | none => return none
  | some (.directive _) | some .documentStart =>
    let (handles, rest) ← NodeReader.directives tokens false []
    match rest with
    | .documentStart :: rest =>
      let handles := handles ++ NodeReader.defaultHandles
      return some (← NodeReader.content { tokens := rest, handles })
    | .fault f :: _ => .error f
    | _ => malformed
  | some _ =>
    let (root, r) ← readNode r.fuel true false r
    return some (← r.finish root)

end Defusal.Yaml
