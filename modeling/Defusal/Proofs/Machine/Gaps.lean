import Defusal.Proofs.Machine.Likeness

/-!
# Lines that are not stored

A sparse machine reads the idle instruction where nothing is stored, so it cannot know whether a
line that does nothing is there. Two programs that read the same at every line (`SameLines`) read
the same after an insertion anywhere, of whatever both of them hold at a line (`SameLines.copied`):
an insertion moves what is not stored up by one line as it moves everything else. `gaps_unseen` says
that no number of steps brings a difference to light.

To read the same is to have the same opcode and the same operands, written in the same way. Operands
that are only equal in value, such as one and true, are different ones here: a register that a sum
goes into is named by what is written.
-/

namespace Defusal

/-- Sparse programs that read the same at every line. -/
inductive Program.SameLines : Program → Program → Prop
  | intro {p q : SparseProgram} (h : ∀ line, (sparse p).get line = (sparse q).get line) :
      SameLines (sparse p) (sparse q)

namespace Program.SameLines

variable {p q : Program}

theorem get_eq (h : SameLines p q) (line : Int) : p.get line = q.get line := by
  cases h with
  | intro h => exact h line

theorem insertAt (h : SameLines p q) (target : Int) (i : Instruction) :
    SameLines (p.insertAt target i) (q.insertAt target i) := by
  cases h with
  | intro h =>
    refine .intro fun line => ?_
    show ((sparse _).insertAt target i).get line = ((sparse _).insertAt target i).get line
    rw [get_insertAt_sparse, get_insertAt_sparse, h line, h (line - 1)]

/-- What is read at a line is the same in both, so inserting it keeps them the same. -/
theorem copied (h : SameLines p q) (source target : Int) :
    SameLines (p.insertAt target (p.get source)) (q.insertAt target (q.get source)) := by
  rw [h.get_eq source]
  exact h.insertAt target (q.get source)

theorem fetch_eq {m n : Machine} (h : SameLines m.program n.program) (hpc : m.pc = n.pc) :
    m.fetch .sparse = n.fetch .sparse := by
  show m.program.get m.pc = n.program.get n.pc
  rw [h.get_eq, hpc]

end Program.SameLines

namespace Machine

/-- The likeness of machines that differ in nothing but the idle lines that they store. -/
def Likeness.gaps : Likeness .sparse where
  registers := Eq
  history := Eq
  program := Program.SameLines
  time_eq h := congrArg Registers.time h
  put h name v := congrArg (·.put name v) h
  lookup h time := by
    subst h
    generalize History.lookup _ time = o
    cases o with
    | none => exact .none
    | some r => exact .some rfl
  record hh hr time := by rw [hh, hr]
  fetch_eq := Program.SameLines.fetch_eq
  copied := Program.SameLines.copied
  resolve_eq _ hr _ := by rw [hr]

/-- The likeness of machines that differ also in the order in which they hold their registers and
their records. -/
def Likeness.gapsAndOrder : Likeness .sparse :=
  .hiding (fun _ => False) Program.SameLines not_false Program.SameLines.fetch_eq
    Program.SameLines.copied fun _ _ _ => not_false

/-- **A line that is not stored and a stored line that does nothing cannot be told apart.** Take two
sparse programs that read the same at every line, and let a machine run on either, from the same
line, registers and history. Whatever the number of steps, both runs fail with the same fault, or
each step of the one leaves behind the same registers, line, outcome, instruction, text and history
as the same step of the other, and programs that read the same again. If the registers and histories
are equal only as maps, they stay so. -/
theorem gaps_unseen {p q : SparseProgram}
    (hget : ∀ line, (Program.sparse p).get line = (Program.sparse q).get line) (pc : Int)
    (o o' : Option Outcome) (count : Nat) :
    (∀ (r : Registers) (h : History), Alike (List.Forall₂ Likeness.gaps.Snapshots)
      (snapshots .sparse count ⟨r, pc, .sparse p, o⟩ h)
      (snapshots .sparse count ⟨r, pc, .sparse q, o'⟩ h)) ∧
    (∀ (r s : Registers) (h k : History), (∀ name, r.get? name = s.get? name) →
      h.SameBut (fun _ => False) k → Alike (List.Forall₂ Likeness.gapsAndOrder.Snapshots)
      (snapshots .sparse count ⟨r, pc, .sparse p, o⟩ h)
      (snapshots .sparse count ⟨s, pc, .sparse q, o'⟩ k)) := by
  constructor
  · intro r h
    exact Likeness.snapshots (L := .gaps) count rfl rfl (.intro hget) rfl
  · intro r s h k hr hh
    exact Likeness.snapshots (L := .gapsAndOrder) count (fun name _ => hr name) rfl (.intro hget) hh

/-- A program that copies an idle line and then defuses. -/
def copyingIdle (idleLines : List (Int × Instruction)) : SparseProgram :=
  .ofList ([(1, ⟨"COPY", [.int 3, .int 2]⟩), (4, ⟨"DEFUSE", []⟩)] ++ idleLines)

/-- Whether the copied line is stored or not, the program wins in the fifth step, and one of the two
stores a line more than the other to the end. -/
theorem gaps_unseen_copyingIdle :
    let m := fun p => (⟨default, 1, .sparse p, none⟩ : Machine)
    ∃ xs ys, snapshots .sparse 5 (m (copyingIdle [(3, .idle)])) default = .ok xs ∧
      snapshots .sparse 5 (m (copyingIdle [])) default = .ok ys ∧
      List.Forall₂ Likeness.gaps.Snapshots xs ys ∧
      xs.map (·.machine.program.size) = [4, 4, 4, 4, 4] ∧
      ys.map (·.machine.program.size) = [3, 3, 3, 3, 3] ∧
      xs.getLast?.map (·.machine.outcome) = some (some .won) := by
  intro m
  have hget : ∀ line, (Program.sparse (copyingIdle [(3, .idle)])).get line
      = (Program.sparse (copyingIdle [])).get line := by
    intro line
    show ((copyingIdle [(3, .idle)]).get? line).getD .idle = ((copyingIdle []).get? line).getD .idle
    simp only [copyingIdle, SparseProgram.ofList, List.cons_append, List.nil_append,
      List.foldl_cons, List.foldl_nil, SparseProgram.get?_put]
    split
    next h => subst h; rfl
    next => rfl
  let xs := (snapshots .sparse 5 (m (copyingIdle [(3, .idle)])) default).toOption.getD []
  have hxs : snapshots .sparse 5 (m (copyingIdle [(3, .idle)])) default = .ok xs :=
    eq_ok_getD (by decide +kernel) []
  have halike := (gaps_unseen hget 1 none none 5).1 default default
  rw [hxs] at halike
  obtain ⟨ys, hys, hrel⟩ := halike.exists_of_ok
  have hsizes : (snapshots .sparse 5 (m (copyingIdle [])) default).toOption.map
      (·.map (·.machine.program.size)) = some [3, 3, 3, 3, 3] := by decide +kernel
  rw [hys] at hsizes
  exact ⟨xs, ys, hxs, hys, hrel, by decide +kernel, Option.some.inj hsizes, by decide +kernel⟩

end Machine

end Defusal
