import Defusal.Proofs.Program.Embedding

/-!
# A copy keeps the machine on its course

A copy instruction moves lines while the machine stands among them: those from its target on go up by
one, and the machine has to go up with them if its own line does. These are two decisions, of the
insertion and of the machine, and each compares the target with a line of its own.

They agree. Where the insertion moves a line is `Program.displaced`. The copy instruction is found
again where its own line was moved, and the machine goes on where the next line was moved, so it goes
on with what followed before (`Program.get_displaced`). It is different for one target only, the next
line itself: what is inserted there is what the machine goes on with (`copy_keeps_course`).
-/

namespace Defusal

variable {p : SparseProgram} {i : Instruction} {origin : Int}

/-- The line at which a copy instruction on the line `origin` inserts: the one that its second operand
gives, and the one after it if there is no second operand. -/
def Instruction.insertionLine (i : Instruction) (r : Registers) (origin : Int) : Except Fault Int :=
  match i.operands[1]? with
  | some operand => r.resolve operand
  | none => .ok (origin + 1)

/-- An insertion takes along what is read at a line, stored or not. -/
theorem Program.get_displaced (p : SparseProgram) (target line : Int) (i : Instruction) :
    ((sparse p).insertAt target i).get (displaced target line) = (sparse p).get line := by
  have hline := get?_displaced p target line i
  exact congrArg (Option.getD · Instruction.idle) hline

namespace Machine

variable {m after : Machine} {h : History}

/-- A copy is executed if its operands can be read: it inserts what is read at its source, and the
machine moves up by a line more if the insertion is not after it. -/
theorem copy_eq_ok_iff : m.copy origin i = .ok after ↔ ∃ source target,
    m.registers.resolve (i.operand 0) = .ok source ∧
    i.insertionLine m.registers origin = .ok target ∧
    after = { m with
      program := m.program.insertAt target (m.program.get source)
      pc := if target ≤ origin then m.pc + 1 else m.pc } := by
  have hnext : ¬ origin + 1 ≤ origin := by omega
  unfold copy Instruction.insertionLine
  cases i.operands[1]? with
  | some operand =>
    constructor
    · intro hx
      obtain ⟨source, hsource, hx⟩ := bind_eq_ok hx
      obtain ⟨target, htarget, hx⟩ := bind_eq_ok hx
      exact ⟨source, target, hsource, htarget, (Except.ok.inj hx).symm⟩
    · rintro ⟨source, target, hsource, htarget, rfl⟩
      have htarget : m.registers.resolve operand = .ok target := htarget
      rw [hsource, ok_bind]
      dsimp only
      rw [htarget]
      rfl
  | none =>
    constructor
    · intro hx
      obtain ⟨source, hsource, hx⟩ := bind_eq_ok hx
      refine ⟨source, origin + 1, hsource, rfl, ?_⟩
      rw [if_neg hnext]
      exact (Except.ok.inj hx).symm
    · rintro ⟨source, target, hsource, htarget, rfl⟩
      cases htarget
      rw [hsource, if_neg hnext]
      rfl

/-- What a sparse machine makes of a copy instruction. -/
theorem executed_copy (hfetch : m.fetch .sparse = i) (hcopy : i.op = "COPY") :
    m.executed .sparse h = (m.advanced .copy).copy m.pc i := by
  have hop : Architecture.sparse.operation i.op = .copy :=
    Architecture.operation_eq_copy_iff.mpr ⟨rfl, hcopy⟩
  unfold executed
  rw [hfetch, hop]
  rfl

/-- What the machine goes on with after a copy. -/
theorem get_after_insertAt (p : SparseProgram) (origin target : Int) (i : Instruction) :
    ((Program.sparse p).insertAt target i).get
        (if target ≤ origin then origin + 1 + 1 else origin + 1)
      = if target = origin + 1 then i else (Program.sparse p).get (origin + 1) := by
  split
  next hbefore =>
    -- The next line is moved, and the machine with it.
    have hmoved : Program.displaced target (origin + 1) = origin + 1 + 1 := if_neg (by omega)
    rw [if_neg (by omega), ← hmoved, Program.get_displaced]
  next hafter =>
    split
    next hnext => rw [hnext, Program.get_insertAt_sparse, if_neg (by omega), if_pos rfl]
    next hnext =>
      have hkept : Program.displaced target (origin + 1) = origin + 1 := if_pos (by omega)
      rw [← Program.get_displaced p target (origin + 1) i, hkept]

/-- **A copy keeps the machine on its course.** Let a sparse machine stand on a line that stores a
copy instruction, with any operands. A step can be made if and only if the source and the insertion
line can be read, after the clock has advanced, and the line can be written down. The instruction that
the machine executes next is the copied one if it was inserted right after the copy instruction, and
otherwise the one that followed before. The copy instruction is found one line up if the insertion was
not after it, and in its place otherwise. -/
theorem copy_keeps_course (hp : m.program = .sparse p) (hi : p.get? m.pc = some i)
    (hcopy : i.op = "COPY") :
    let r := m.registers.put clockName (m.registers.time + 1)
    ((∃ snap, m.step .sparse h = .ok snap) ↔
      (∃ source, r.resolve (i.operand 0) = .ok source) ∧
      (∃ target, i.insertionLine r m.pc = .ok target) ∧
      ∃ symbol, symbolText .sparse m.pc i = .ok symbol) ∧
    ∀ snap source target, m.step .sparse h = .ok snap → r.resolve (i.operand 0) = .ok source →
      i.insertionLine r m.pc = .ok target →
      snap.machine.fetch .sparse =
        (if target = m.pc + 1 then m.program.get source else m.program.get (m.pc + 1)) ∧
      snap.machine.program.get? (if target ≤ m.pc then m.pc + 1 else m.pc) = some i := by
  intro r
  have hfetch : m.fetch .sparse = i := by
    show m.program.get m.pc = i
    rw [hp]
    exact congrArg (Option.getD · Instruction.idle) hi
  have hexecuted : m.executed .sparse h = (m.advanced .copy).copy m.pc i :=
    executed_copy hfetch hcopy
  constructor
  · rw [exists_step_iff, hexecuted, hfetch, ← and_assoc]
    refine and_congr_left fun _ => ?_
    constructor
    · rintro ⟨after, hafter⟩
      obtain ⟨source, target, hsource, htarget, -⟩ := copy_eq_ok_iff.mp hafter
      exact ⟨⟨source, hsource⟩, target, htarget⟩
    · rintro ⟨⟨source, hsource⟩, target, htarget⟩
      exact ⟨_, copy_eq_ok_iff.mpr ⟨source, target, hsource, htarget, rfl⟩⟩
  · intro snap source target hsnap hsource htarget
    obtain ⟨after, symbol, hafter, -, rfl⟩ := step_eq_ok_iff.mp hsnap
    rw [hexecuted] at hafter
    obtain ⟨source', target', hsource', htarget', rfl⟩ := copy_eq_ok_iff.mp hafter
    cases hsource.symm.trans hsource'
    cases htarget.symm.trans htarget'
    constructor
    · show (m.program.insertAt target (m.program.get source)).get
        (if target ≤ m.pc then m.pc + 1 + 1 else m.pc + 1) = _
      rw [hp]
      exact get_after_insertAt p m.pc target _
    · have hmoved : (if target ≤ m.pc then m.pc + 1 else m.pc) = Program.displaced target m.pc := by
        unfold Program.displaced
        split <;> split <;> omega
      show (m.program.insertAt target (m.program.get source)).get? _ = some i
      rw [hmoved, hp]
      exact ((Program.embeds_insertAt p target _).get?_eq m.pc).trans hi

/-- A machine on a copy instruction that inserts at the line that the clock shows. -/
def copyingToClock (time : Int) : Machine where
  registers := .ofList [("T", time)]
  pc := 1
  program := .sparse (.ofList [(1, ⟨"COPY", [.int 3, .text "T"]⟩), (2, ⟨"DEFUSE", []⟩),
    (3, ⟨"EXPLODE", []⟩)])
  outcome := none

/-- The clock advances before the target is read. From zero the insertion is at the line of the copy
instruction, which moves up, and the machine goes on to defuse as before; from one the insertion is at
the next line, and the machine goes on with the copy of what explodes. -/
theorem copy_keeps_course_toClock :
    (∃ snap, (copyingToClock 0).step .sparse default = .ok snap ∧
      snap.machine.fetch .sparse = ⟨"DEFUSE", []⟩ ∧
      snap.machine.program.get? 2 = some ⟨"COPY", [.int 3, .text "T"]⟩) ∧
    ∃ snap, (copyingToClock 1).step .sparse default = .ok snap ∧
      snap.machine.fetch .sparse = ⟨"EXPLODE", []⟩ ∧
      snap.machine.program.get? 1 = some ⟨"COPY", [.int 3, .text "T"]⟩ := by
  constructor
  · obtain ⟨hexists, hcourse⟩ :=
      copy_keeps_course (m := copyingToClock 0) (h := default) rfl rfl rfl
    obtain ⟨snap, hsnap⟩ := hexists.mpr ⟨⟨3, rfl⟩, ⟨1, rfl⟩, by decide +kernel⟩
    exact ⟨snap, hsnap, hcourse snap 3 1 hsnap rfl rfl⟩
  · obtain ⟨hexists, hcourse⟩ :=
      copy_keeps_course (m := copyingToClock 1) (h := default) rfl rfl rfl
    obtain ⟨snap, hsnap⟩ := hexists.mpr ⟨⟨3, rfl⟩, ⟨2, rfl⟩, by decide +kernel⟩
    exact ⟨snap, hsnap, hcourse snap 3 2 hsnap rfl rfl⟩

end Machine

end Defusal
