import Defusal.Datum.Graph
import Defusal.Datum.Same
import Defusal.Datum.SetOrder
import Defusal.Yaml.Merge
import Defusal.Yaml.Scalar

/-!
# Filling collections

The value of a document is made from its root on, level by level: when a collection is met, an empty
one stands for it, and it is filled after those met before it. So of several faults in a document
the one nearest to the root counts, and of those equally near the first. A node is given a value
once, wherever it stands.

Of equal keys of a map the last gives the value and the first the place. A collection cannot be a
key, whatever it holds.
-/

namespace Defusal.Yaml

/-! ## Scalars -/

/-- The tags of collections. -/
def collectionTags : List String := [sequenceTag, mappingTag, setTag, orderedTag, pairsTag]

/-- The tags of scalars. -/
def scalarTags : List String :=
  [textTag, nullTag, boolTag, intTag, floatTag, timestampTag, binaryTag]

/-- The text of a scalar. A mapping with a mark for a default value stands for the value at it, along
chains of at most so many nodes. -/
def scalarText (ns : Nodes) : Nat → Nat → Except Fault String
  | 0, _ => .error .nestedTooDeep
  | length + 1, n =>
    match ns.node n with
    | .scalar _ text => .ok text
    | .mapping _ entries =>
      match entries.find? fun e => ns.tagOf e.1 == defaultTag with
      | some e => scalarText ns length e.2
      | none => malformed
    | .sequence .. => malformed

/-- The text of a node as a scalar. -/
def Nodes.text (ns : Nodes) (n : Nat) : Except Fault String := scalarText ns chainLimit n

/-- The value of a node with the tag of a scalar. A timestamp must be a scalar itself. -/
def Nodes.scalar (ns : Nodes) (n : Nat) : Except Fault Datum := do
  let t := ns.tagOf n
  if !scalarTags.contains t then malformed
  else
    let text ← ns.text n
    if t = timestampTag && (ns.node n).isMapping then .error .wrongType
    else scalarValue t text

/-! ## Keys -/

/-- A key with the number of its node. -/
structure Key where
  value : Datum
  node : Nat

/-- Whether two keys are the same: equal values, or both not a number and of one origin. All that
are written with the name of what is not a number have one origin, every other node is its own. -/
def Key.same (ns : Nodes) (k l : Key) : Bool :=
  let named (n : Nat) : Bool := match ns.text n with
    | .ok text => (fractionParts text).2 == nanName
    | .error _ => false
  match k.value, l.value with
  | .float .nan, .float .nan => k.node == l.node || (named k.node && named l.node)
  | a, b => Datum.same a b

/-- Writes an entry of a map: an equal key keeps its place. -/
def putKey (ns : Nodes) (k : Key) (v : Datum) : List (Key × Datum) → List (Key × Datum)
  | [] => [(k, v)]
  | (k', v') :: entries =>
    if k.same ns k' then (k', v) :: entries else (k', v') :: putKey ns k v entries

/-! ## Filling -/

/-- The state of the filling: the nodes, the values given to them so far, the collections by number,
and those still to be filled with their nodes, the last met first. A value that is a link stands for
the collection of that number. -/
structure Filling where
  nodes : Nodes
  values : Array (Option Datum)
  collections : Datum.Graph
  pending : List (Nat × Nat)

namespace Filling

/-- The state before anything is filled. -/
def start (ns : Nodes) : Filling where
  nodes := ns
  values := Array.replicate ns.size none
  collections := #[]
  pending := []

/-- Gives a node its value. -/
def give (f : Filling) (n : Nat) (d : Datum) : Filling :=
  { f with values := f.values.setIfInBounds n (some d) }

/-- Adds a collection. -/
def addCollection (f : Filling) (d : Datum) : Datum × Filling :=
  (.link f.collections.size, { f with collections := f.collections.push d })

/-- Fills a collection. -/
def complete (f : Filling) (c : Nat) (d : Datum) : Filling :=
  { f with collections := f.collections.setIfInBounds c d }

/-- The value of a node, which is made if the node has none yet. -/
def meet (f : Filling) (n : Nat) : Except Fault (Datum × Filling) :=
  match f.values.getD n none with
  | some d => .ok (d, f)
  | none =>
    if collectionTags.contains (f.nodes.tagOf n) then
      let c := f.collections.size
      let (d, f) := f.addCollection (.list [])
      .ok (d, { f.give n d with pending := (c, n) :: f.pending })
    else do
      let d ← f.nodes.scalar n
      return (d, f.give n d)

/-- The values of nodes in order. -/
def meetAll (f : Filling) : List Nat → Except Fault (List Datum × Filling)
  | [] => .ok ([], f)
  | n :: ns => do
    let (d, f) ← f.meet n
    let (ds, f) ← f.meetAll ns
    return (d :: ds, f)

/-- The value of a node as a key. -/
def meetKey (f : Filling) (n : Nat) : Except Fault (Key × Filling) := do
  match ← f.meet n with
  | (.link _, _) => malformed
  | (d, f) => return (⟨d, n⟩, f)

/-- The entries of a map, added to those met before. -/
def meetEntries (f : Filling) (before : List (Key × Datum)) :
    List (Nat × Nat) → Except Fault (List (Key × Datum) × Filling)
  | [] => .ok (before, f)
  | (k, v) :: entries => do
    let (key, f) ← f.meetKey k
    let (value, f) ← f.meet v
    f.meetEntries (putKey f.nodes key value before) entries

/-- The pairs of a list of mappings with one entry each. -/
def meetPairs (f : Filling) : List Nat → Except Fault (List Datum × Filling)
  | [] => .ok ([], f)
  | n :: ns =>
    match f.nodes.node n with
    | .mapping _ [(k, v)] => do
      let (key, f) ← f.meet k
      let (value, f) ← f.meet v
      let (pair, f) := f.addCollection (.tuple [key, value])
      let (pairs, f) ← f.meetPairs ns
      return (pair :: pairs, f)
    | _ => malformed

/-- The entries of a mapping with its merge keys carried out. -/
def mergedEntries (f : Filling) (n : Nat) : Except Fault (List (Key × Datum) × Filling) := do
  let nodes ← f.nodes.merge n
  { f with nodes }.meetEntries [] (nodes.entriesOf n)

/-- Fills a collection from its node. -/
def fill (f : Filling) (c n : Nat) : Except Fault Filling := do
  let t := f.nodes.tagOf n
  match f.nodes.node n with
  | .scalar .. => malformed
  | .sequence _ items =>
    if t = sequenceTag then
      let (items, f) ← f.meetAll items
      return f.complete c (.list items)
    else if t = orderedTag || t = pairsTag then
      let (pairs, f) ← f.meetPairs items
      return f.complete c (.list pairs)
    else malformed
  | .mapping .. =>
    if t = mappingTag then
      let (entries, f) ← f.mergedEntries n
      return f.complete c (.map (entries.map fun e => (e.1.value, e.2)))
    else if t = setTag then
      let (entries, f) ← f.mergedEntries n
      return f.complete c (.set (Datum.setOrder (entries.map fun e => e.1.value)))
    else malformed

/-- Fills the collections that are pending, then those met meanwhile, and so on. -/
def fillAll : Nat → Filling → Except Fault Filling
  | 0, f => .ok f
  | fuel + 1, f =>
    if f.pending.isEmpty then .ok f
    else do
      let f ← f.pending.reverse.foldlM (fun f e => f.fill e.1 e.2) { f with pending := [] }
      fillAll fuel f

end Filling

/-- The value of a document. Every level meets a new node, so the nodes bound the levels. -/
def Document.value (d : Document) : Except Fault Datum := do
  let (root, f) ← (Filling.start d.nodes).meet d.root
  let f ← Filling.fillAll (d.nodes.size + 1) f
  return f.collections.value root

end Defusal.Yaml
