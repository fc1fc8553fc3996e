import Defusal.Proofs.Machine.Forms
import Defusal.Proofs.Machine.Legible

/-!
# What a step may change

A step changes a machine in few ways, whatever the operands of its instruction are. `Rewrites` lists
what can become of the registers once the clock has advanced, `Moves` where the machine can stand
afterwards; each has one case for each of the opcodes that are allowed more than all the others.
`Framed` puts them together with what holds of every step: only a copy writes to the program, only
the two opcodes that end the game set an outcome, the history gains the new registers at the new
time and nothing else, and an opcode that the architecture does not know does nothing.

All of it is read off the cases of `Effect`, so the kind of the program does not matter, nor does
the outcome that the machine had before.
-/

namespace Defusal.Machine

variable {a : Architecture} {m after : Machine} {i : Instruction} {origin : Int} {h : History}
  {r : Registers} {snap : Snapshot}

/-- What a step can make of the registers `r` on which an instruction is executed. -/
inductive Rewrites (a : Architecture) (i : Instruction) (h : History) (r : Registers) :
    Registers → Prop
  | kept : Rewrites a i h r r
  | sum {target : Datum} {name : String} {x y : Int} (hop : i.op = "ADD")
      (htarget : i.operands[2]? = some target) (hname : target.shown = .ok name)
      (hx : r.resolve (i.operand 0) = .ok x) (hy : r.resolve (i.operand 1) = .ok y) :
      Rewrites a i h r (r.put name (x + y))
  | travelled {recorded : Registers} (ha : a = .sparse) (hop : i.op = "TTRAVEL")
      (hr : h.lookup r.time = some recorded) : Rewrites a i h r recorded

/-- The line on which a machine can stand after an instruction on the line `origin`. A target is
read as an operand on a sparse machine, and as a plain number on a fixed one. -/
inductive Moves (a : Architecture) (i : Instruction) (r : Registers) (origin : Int) : Int → Prop
  | held (hop : i.op ∈ Architecture.finalOpcodes) : Moves a i r origin origin
  | next (hop : i.op ∉ Architecture.finalOpcodes) : Moves a i r origin (origin + 1)
  | carried (ha : a = .sparse) (hop : i.op = "COPY") : Moves a i r origin (origin + 2)
  | jumped {n : Nat} {line : Int} (ha : a = .sparse) (hop : (i.op, n) ∈ Architecture.sparse.jumps)
      (hline : r.resolve (i.operand n) = .ok line) : Moves a i r origin line
  | branched {n : Nat} {line : Int} (ha : a = .fixed) (hop : (i.op, n) ∈ Architecture.fixed.jumps)
      (hline : (i.operand n).lenient = .ok line) : Moves a i r origin line

/-- What a step leaves as it was. -/
structure Framed (a : Architecture) (m : Machine) (h : History) (snap : Snapshot) : Prop where
  instruction : snap.instruction = m.fetch a
  origin : snap.origin = m.pc
  program : snap.machine.program = m.program ∨ a = .sparse ∧ (m.fetch a).op = "COPY"
  registers : Rewrites a (m.fetch a) h m.ticked snap.machine.registers
  pc : Moves a (m.fetch a) m.ticked m.pc snap.machine.pc
  won_iff : snap.machine.outcome = some .won ↔ (m.fetch a).op = "DEFUSE"
  lost_iff : snap.machine.outcome = some .lost ↔ (m.fetch a).op = "EXPLODE"
  history : ∀ k, snap.history.lookup k =
    if k = snap.machine.registers.time then some snap.machine.registers else h.lookup k
  /-- An opcode that is not known does nothing. -/
  unknown : (m.fetch a).op ∉ a.opcodes.map Prod.fst →
    snap.machine =
      { registers := m.ticked, pc := m.pc + 1, program := m.program, outcome := none }
  /-- Outside its program a fixed machine loses where it stands. -/
  outside : a = .fixed → m.program.contains m.pc = false →
    snap.machine =
      { registers := m.ticked, pc := m.pc, program := m.program, outcome := some .lost }

/-! ## The cases -/

theorem Effect.rewrites (he : Effect m i origin h (a.operation i.op) after) :
    Rewrites a i h m.registers after.registers := by
  generalize hop : a.operation i.op = op at he
  cases he with
  | @sum left right target rest x y name hops hx hy hname =>
    obtain ⟨hleft, hright, -⟩ := Instruction.operand_of_cons hops
    refine .sum (Architecture.operation_eq_add_iff.mp hop) ?_ hname (hleft ▸ hx) (hright ▸ hy)
    rw [hops]
    rfl
  | compareJump => split <;> exact .kept
  | travelled hr =>
    obtain ⟨ha, hop⟩ := Architecture.operation_eq_travel_iff.mp hop
    exact .travelled ha hop hr
  | _ => exact .kept

theorem moves_of_pc_eq (hpc : after.pc = (m.advanced (a.operation i.op)).pc) :
    Moves a i r m.pc after.pc := by
  rw [hpc]
  unfold advanced
  split
  next hfinal => exact .held (Architecture.isFinal_operation_iff.mp hfinal)
  next hgoes => exact .next fun hop => hgoes (Architecture.isFinal_operation_iff.mpr hop)

theorem Effect.moves
    (he : Effect (m.advanced (a.operation i.op)) i m.pc h (a.operation i.op) after) :
    Moves a i m.ticked m.pc after.pc := by
  have hkept {after : Machine} (hpc : after.pc = (m.advanced (a.operation i.op)).pc) :
      Moves a i m.ticked m.pc after.pc := moves_of_pc_eq hpc
  generalize hop : a.operation i.op = op at he hkept
  cases he with
  | jump hline =>
    obtain ⟨ha, hop⟩ := Architecture.operation_eq_jump_iff.mp hop
    exact .jumped ha (by simp [hop, Architecture.jumps]) hline
  | compareJump _ _ _ hline =>
    split
    next =>
      obtain ⟨ha, hop⟩ := Architecture.operation_eq_compareJump_iff.mp hop
      exact .jumped ha (by simp [hop, Architecture.jumps]) hline
    next => exact hkept rfl
  | copyInto =>
    dsimp only
    split
    next =>
      obtain ⟨ha, hop⟩ := Architecture.operation_eq_copy_iff.mp hop
      have hpc : (m.advanced .copy).pc + 1 = m.pc + 2 := Int.add_assoc m.pc 1 1
      rw [hpc]
      exact .carried ha hop
    next => exact hkept rfl
  | directJump hline =>
    obtain ⟨ha, hop⟩ := Architecture.operation_eq_directJump_iff.mp hop
    exact .branched ha (by simp [hop, Architecture.jumps]) hline
  | branchTaken _ _ _ hline =>
    obtain ⟨ha, hop⟩ := Architecture.mem_jumps_of_branch hop
    exact .branched ha hop hline
  | _ => exact hkept rfl

/-! ## Whole steps -/

theorem Stepped.eq_of_unknown (hs : Stepped a m h snap)
    (hop : (m.fetch a).op ∉ a.opcodes.map Prod.fst) : snap.machine =
      { registers := m.ticked, pc := m.pc + 1, program := m.program, outcome := none } := by
  have he := hs.effect
  rw [Architecture.operation_eq_idle_iff.mpr hop] at he
  exact he.idle_eq

theorem fetch_of_outside (hp : m.program.contains m.pc = false) : m.fetch .fixed = .explosion := by
  have hnone : m.program.get? m.pc = none := by simpa [Program.contains] using hp
  unfold fetch
  rw [hnone]
  rfl

theorem Stepped.eq_of_outside (hs : Stepped .fixed m h snap)
    (hp : m.program.contains m.pc = false) : snap.machine =
      { registers := m.ticked, pc := m.pc, program := m.program, outcome := some .lost } := by
  have he := hs.effect
  rw [fetch_of_outside hp] at he
  generalize snap.machine = after at he
  have he : Effect (m.advanced .explode) .explosion m.pc h .explode after := he
  cases he
  rfl

/-- **A step changes nothing but what its opcode is allowed to change.** -/
theorem framed_of_stepped (hs : Stepped a m h snap) : Framed a m h snap where
  instruction := hs.instruction
  origin := hs.origin
  program := by
    by_cases hop : a.operation (m.fetch a).op = .copy
    · exact .inr (Architecture.operation_eq_copy_iff.mp hop)
    · exact .inl (hs.effect.program_eq hop)
  registers := hs.effect.rewrites
  pc := hs.effect.moves
  won_iff := by
    rw [hs.outcome, Operation.ending_eq_won_iff, Architecture.operation_eq_defuse_iff]
  lost_iff := by
    rw [hs.outcome, Operation.ending_eq_lost_iff, Architecture.operation_eq_explode_iff]
  history := by
    intro k
    rw [hs.history, History.lookup_record]
  unknown := hs.eq_of_unknown
  outside := by
    rintro rfl hp
    exact hs.eq_of_outside hp

/-- **What a step may change, and when it can be made.** A step can be made if and only if what it
reads and writes has no number that is too long, and it fails on nothing else. A step that is made
leaves the frame of its opcode, in which an opcode that is not known does what `EMPTY` does; among
those are the opcodes that only the other architecture knows. -/
theorem step_frame (a : Architecture) (m : Machine) (h : History) :
    ((∃ snap, m.step a h = .ok snap) ↔
      (m.fetch a).Legible m.ticked (a.operation (m.fetch a).op) ∧
        m.pc.natAbs < Numeral.writeLimit ∧
        (a = .sparse ∧ (m.fetch a).IsBare ∨
          ∀ d ∈ (m.fetch a).operands, ∃ s, d.shown = .ok s)) ∧
      (∀ f, m.step a h = .error f → f.IsTooLong) ∧
      (∀ snap, m.step a h = .ok snap → Framed a m h snap) ∧
      "EMPTY" ∉ a.opcodes.map Prod.fst ∧
      ∀ b ≠ a, ∀ name ∈ b.opcodes.map Prod.fst, name ∉ ["ADD", "DEFUSE", "EXPLODE"] →
        name ∉ a.opcodes.map Prod.fst := by
  refine ⟨exists_step_iff_legible, failsOnly_isTooLong_step,
    fun snap hs => framed_of_stepped (stepped_of_step hs), ?_, ?_⟩
  · cases a <;> decide
  · intro b hb name hname hnew ha
    exact hnew (Architecture.mem_common_opcodes hb hname ha)

/-- A machine on an addition into its clock, after a step that ended the game. -/
def setting : Machine where
  registers := .ofList [("A", 2), ("T", 7)]
  pc := -3
  program := .sparse (.ofList [(-3, ⟨"ADD", [.text "A", .text "T", .text "T"]⟩)])
  outcome := some .lost

theorem step_frame_setting : ∃ snap, setting.step .sparse default = .ok snap ∧
    Framed .sparse setting default snap ∧ snap.machine.registers.time = 10 ∧
    snap.machine.outcome = none := by
  let snap := (setting.step .sparse default).toOption.getD default
  have hs : setting.step .sparse default = .ok snap := eq_ok_getD (by decide +kernel) default
  obtain ⟨-, -, hframed, -, -⟩ := step_frame .sparse setting default
  exact ⟨snap, hs, hframed snap hs, by decide +kernel, by decide +kernel⟩

/-- An idle instruction is executed whatever its operands are, since none of them is displayed. -/
theorem exists_step_alone_idle (operands : List Datum) :
    ∃ snap, (Instruction.alone ⟨"EMPTY", operands⟩ 0).step .sparse h = .ok snap := by
  have hline : (0 : Int).natAbs < Numeral.writeLimit := by decide +kernel
  rw [exists_step_iff_legible, Instruction.fetch_alone]
  exact ⟨trivial, hline, .inl ⟨rfl, List.mem_cons_self⟩⟩

/-- An instruction that is displayed with a number that is too long cannot be executed. -/
theorem not_exists_step_alone {name : String} {n : Int} (hn : Numeral.writeLimit ≤ n.natAbs)
    (hname : ¬ Instruction.IsBare ⟨name, [.int n]⟩) :
    ¬ ∃ snap, (Instruction.alone ⟨name, [.int n]⟩ 0).step .sparse h = .ok snap := by
  rw [exists_step_iff_legible, Instruction.fetch_alone]
  rintro ⟨-, -, ⟨-, hbare⟩ | hshown⟩
  · exact hname hbare
  · obtain ⟨s, hs⟩ := hshown (.int n) List.mem_cons_self
    exact Nat.not_lt.mpr hn (Numeral.exists_write_iff.mp ⟨s, hs⟩)

/-- An opcode that is not known does what `EMPTY` does only if its operands can be written. -/
theorem step_unlike_idle : "NOP" ∉ Architecture.sparse.opcodes.map Prod.fst ∧
    (∃ snap, (Instruction.alone ⟨"EMPTY", [.int Numeral.writeLimit]⟩ 0).step .sparse default
      = .ok snap) ∧
    ¬ ∃ snap, (Instruction.alone ⟨"NOP", [.int Numeral.writeLimit]⟩ 0).step .sparse default
      = .ok snap := by
  have hlimit : Numeral.writeLimit ≤ (Numeral.writeLimit : Int).natAbs :=
    Nat.le_of_eq (Int.natAbs_natCast _).symm
  exact ⟨by decide, exists_step_alone_idle _, not_exists_step_alone hlimit (by decide)⟩

end Defusal.Machine
