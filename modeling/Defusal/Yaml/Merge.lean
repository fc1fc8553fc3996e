import Defusal.Yaml.Node

/-!
# Merging

A mapping under the merge key takes in the entries of other mappings before its own; of several in a
sequence those of a later one come first. The merged mappings are merged themselves before, so
mappings that merge one another may form a chain, which is followed to a limit. A mapping may be
merged into itself: its merge keys are gone by then.
-/

namespace Defusal.Yaml

/-- The entries of a mapping; other nodes have none. -/
def Node.entries : Node → List (Nat × Nat)
  | .mapping _ entries => entries
  | _ => []

/-- Whether a node is a mapping. -/
def Node.isMapping : Node → Bool
  | .mapping .. => true
  | _ => false

namespace Nodes

/-- The node of a number. -/
def node (ns : Nodes) (n : Nat) : Node := ns.getD n .empty

/-- The tag of a node. -/
def tagOf (ns : Nodes) (n : Nat) : String := (ns.node n).tag

/-- The entries of a mapping. -/
def entriesOf (ns : Nodes) (n : Nat) : List (Nat × Nat) := (ns.node n).entries

/-- Replaces the entries of a mapping. -/
def setEntries (ns : Nodes) (n : Nat) (entries : List (Nat × Nat)) : Nodes :=
  ns.modify n fun
    | .mapping t _ => .mapping t entries
    | other => other

/-- Whether an entry has the merge key. -/
def isMerge (ns : Nodes) (e : Nat × Nat) : Bool := ns.tagOf e.1 == mergeTag

/-- Turns the mark for a default value into a plain text. -/
def settleKey (ns : Nodes) (n : Nat) : Nodes :=
  ns.modify n fun
    | .scalar t text => .scalar (if t = defaultTag then textTag else t) text
    | other => other

/-- The entries that several mappings contribute, those of a later one first, each merged before. -/
def contributedBy (mergeOne : Nat → Nodes → Except Fault Nodes) (ns : Nodes) (items : List Nat) :
    Except Fault (List (Nat × Nat) × Nodes) :=
  items.foldlM (fun (before, ns) m => do
    if !(ns.node m).isMapping then malformed
    else
      let ns ← mergeOne m ns
      return (ns.entriesOf m ++ before, ns)) ([], ns)

/-- The entries that the value of a merge key contributes. -/
def contributed (mergeOne : Nat → Nodes → Except Fault Nodes) (ns : Nodes) (v : Nat) :
    Except Fault (List (Nat × Nat) × Nodes) :=
  match ns.node v with
  | .mapping .. => contributedBy mergeOne ns [v]
  | .sequence _ items => contributedBy mergeOne ns items
  | .scalar .. => malformed

/-- Carries out the merge keys of a mapping, given how the mappings in it are merged, and takes the
marks for a default value among its keys as texts. A merge key is taken away before its value is
looked at, so where the mapping turns up in that value no merge key is left in it. -/
def mergeWith (mergeOne : Nat → Nodes → Except Fault Nodes) (n : Nat) (ns : Nodes) :
    Except Fault Nodes := do
  let (taken, ns) ← (ns.entriesOf n).foldlM (fun ((taken, ns) : List (Nat × Nat) × Nodes) e => do
    if !ns.isMerge e then return (taken, ns.settleKey e.1)
    else if !(ns.entriesOf n).any ns.isMerge then return (taken, ns)
    else
      let ns := ns.setEntries n ((ns.entriesOf n).eraseP ns.isMerge)
      let (more, ns) ← contributed mergeOne ns e.2
      return (taken ++ more, ns)) ([], ns)
  return ns.setEntries n (taken ++ ns.entriesOf n)

/-- The greatest number of nodes in a chain that is followed: of mappings that are merged one into
another, or of mappings that stand for a value in them. -/
def chainLimit : Nat := 986

/-- Carries out the merge keys of a mapping and of those merged into it, along chains of at most so
many mappings. -/
def mergeAlong : Nat → Nat → Nodes → Except Fault Nodes
  | 0, _, _ => .error .nestedTooDeep
  | length + 1, n, ns => mergeWith (mergeAlong length) n ns

/-- Carries out the merge keys of a mapping and of those merged into it. -/
def merge (n : Nat) (ns : Nodes) : Except Fault Nodes := mergeAlong chainLimit n ns

end Nodes

end Defusal.Yaml
