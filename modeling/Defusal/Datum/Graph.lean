import Defusal.Datum.Basic

/-!
# Values from graphs

Collections given by number, each with links to the numbers of those in it, are a graph of values.
`Graph.value` is the value of one of them: collections that reach one another become a ring, every
other collection holds the values of those in it.
-/

namespace Defusal.Datum

/-- Collections by number, with links to one another by number. -/
abbrev Graph : Type := Array Datum

namespace Graph

/-- The numbers of the collections in a collection. -/
def linksOf (g : Graph) (n : Nat) : List Nat := (g.getD n null).links

/-- The number of all links. -/
def linkCount (g : Graph) : Nat := g.foldl (fun count d => count + d.links.length) 0

/-- Marks the collections that some lead to; what is marked is not gone through again. -/
def markFrom (g : Graph) : Nat → Array Bool → List Nat → Array Bool
  | 0, marked, _ => marked
  | _, marked, [] => marked
  | fuel + 1, marked, n :: pending =>
    if marked.getD n true then g.markFrom fuel marked pending
    else g.markFrom fuel (marked.setIfInBounds n true) (g.linksOf n ++ pending)

/-- Which collections a collection leads to by at least one link. No link is followed twice, so the
links bound the steps. -/
def reached (g : Graph) (n : Nat) : Array Bool :=
  g.markFrom (2 * g.linkCount + 1) (Array.replicate g.size false) (g.linksOf n)

/-- The collections that reach one another with a given one; none if it does not reach itself. -/
def ringOf (g : Graph) (n : Nat) : List Nat :=
  let fromHere := g.reached n
  if fromHere.getD n false then
    (List.range g.size).filter fun m => fromHere.getD m false && (g.reached m).getD n false
  else []

/-- Settles the value of a collection, and before it those of all that it leads to outside its
ring. -/
def settle (g : Graph) : Nat → Array (Option Datum) → Nat → Array (Option Datum)
  | 0, settled, _ => settled
  | fuel + 1, settled, n =>
    if (settled.getD n none).isSome then settled
    else
      let ring := g.ringOf n
      let together := if ring.isEmpty then [n] else ring
      let outside := (together.flatMap g.linksOf).filter (!ring.contains ·)
      let settled := outside.foldl (g.settle fuel) settled
      let follow (m : Nat) : Datum := match ring.idxOf? m with
        | some position => .link position
        | none => (settled.getD m none).getD .null
      let parts := together.map fun m => (g.getD m null).mapLinks follow
      if ring.isEmpty then settled.setIfInBounds n parts.head?
      else ring.zipIdx.foldl (fun settled e => settled.setIfInBounds e.1 (some (.ring parts e.2)))
        settled

/-- The value of a link into a graph; every other value is itself. -/
def value (g : Graph) : Datum → Datum
  | .link n => ((g.settle (g.size + 1) (Array.replicate g.size none) n).getD n none).getD .null
  | d => d

end Graph

end Defusal.Datum
