import Defusal.Proofs.Machine.Effect
import Defusal.Proofs.Program.Entries

/-!
# Fixed programs on a sparse machine

What a fixed machine can do, a sparse one can do with other instructions. `Instruction.oneBased`
gives the instruction to use: the branches, whose targets are plain line numbers counted from zero,
become jumps that count lines from one, and what means nothing on a fixed machine becomes idle.
`Program.translated` does so for a whole program.

`Machine.raised` is a machine one line further on, on the translation of its program. Executing the
translated instruction on it is executing the original one (`execute_raised`), so a step of it is a
step of the original (`step_raised`). The one thing that can come
between them is the text that a sparse step leaves behind: the line number and the target in it are
greater by one and can be too long to write (`exists_step_raised_iff`).
-/

namespace Defusal

/-! ## Instructions -/

namespace Instruction

/-- The operand at a position as a plain line number; zero where it is missing or cannot be read. -/
def rawLine (i : Instruction) (n : Nat) : Int := (i.operand n).lenient.toOption.getD 0

/-- The jump for a branch that compares by a sign. -/
def comparing (i : Instruction) (sign : String) : Instruction :=
  ⟨"CJUMP", [i.operand 0, .text sign, i.operand 1, .int (i.rawLine 2 + 1)]⟩

/-- The sparse instruction that does what an instruction does on a fixed machine, in a program that
counts its lines from one. -/
def oneBased (i : Instruction) : Instruction :=
  match i.op with
  | "ADD" | "DEFUSE" | "EXPLODE" => i
  | "JMP" => ⟨"JUMP", [.int (i.rawLine 0 + 1)]⟩
  | "BEQ" => i.comparing "="
  | "BNE" => i.comparing "≠"
  | "BGT" => i.comparing ">"
  | "BLT" => i.comparing "<"
  | _ => idle

/-- The line that an instruction names as a target on a fixed machine. -/
def target? (i : Instruction) : Option Int :=
  match i.op with
  | "JMP" => some (i.rawLine 0)
  | "BEQ" | "BNE" | "BGT" | "BLT" => some (i.rawLine 2)
  | _ => none

/-- How the operations of an instruction and of its translation go together: one case for each
row of the translation. -/
inductive Renders (i : Instruction) : Operation → Operation → Instruction → Option Int → Prop
  | add : Renders i .add .add i none
  | defuse : Renders i .defuse .defuse i none
  | explode : Renders i .explode .explode i none
  | jump : Renders i .directJump .jump ⟨"JUMP", [.int (i.rawLine 0 + 1)]⟩ (some (i.rawLine 0))
  | branch (test : Comparison) :
      Renders i (.branch test) .compareJump (i.comparing test.symbol) (some (i.rawLine 2))
  | idle : Renders i .idle .idle idle none

variable {i j : Instruction} {op op' : Operation} {target : Option Int}

/-- **Every instruction is rendered by its translation.** -/
theorem renders_oneBased (i : Instruction) :
    Renders i (Architecture.fixed.operation i.op) (Architecture.sparse.operation i.oneBased.op)
      i.oneBased i.target? := by
  unfold oneBased target?
  split
  next h => simp only [h]; exact .add
  next h => simp only [h]; exact .defuse
  next h => simp only [h]; exact .explode
  next h => simp only [h]; exact .jump
  next h => simp only [h]; exact .branch .equal
  next h => simp only [h]; exact .branch .unequal
  next h => simp only [h]; exact .branch .greater
  next h => simp only [h]; exact .branch .less
  next =>
    -- No row of the translation, so no opcode of a fixed machine either.
    simp only [Architecture.operation]
    exact .idle

theorem Renders.isFinal_eq (hr : Renders i op op' j target) : op'.isFinal = op.isFinal := by
  cases hr <;> rfl

end Instruction

/-! ## Programs -/

namespace Program

/-- A list of instructions as a sparse program of their translations, from the line one on. -/
def translated (code : List Instruction) : SparseProgram :=
  .ofList (numbered Architecture.sparse.firstLine (code.map Instruction.oneBased))

end Program

/-! ## Texts that can be written -/

namespace Instruction

variable {i j : Instruction} {op op' : Operation} {target : Option Int} {line : Int}

/-- Whether the translation of an instruction on a line can be written down: the line and the target
that it names can be, each greater by one. -/
def Writable (i : Instruction) (line : Int) : Prop :=
  (line + 1).natAbs < Numeral.writeLimit ∧
    ∀ target ∈ i.target?, (target + 1).natAbs < Numeral.writeLimit

instance (i : Instruction) (line : Int) : Decidable (i.Writable line) :=
  inferInstanceAs (Decidable (_ ∧ _))

/-- Where all operands can be shown, so can the one that a position gives. -/
theorem exists_shown_operand (hi : ∃ a, i.allShown = .ok a) (n : Nat) :
    ∃ a, (i.operand n).shown = .ok a := by
  unfold operand
  cases hn : i.operands[n]? with
  | none => exact Numeral.exists_write_iff (n := 0).mpr (by decide +kernel)
  | some d => exact exists_mapM_iff.mp hi d (List.mem_of_getElem? hn)

/-- The display of a translated instruction needs nothing but its target to be written, as long as
the operands of the original can be shown. -/
theorem Renders.exists_format_iff (hr : i.Renders op op' j target)
    (hop : Architecture.sparse.operation j.op = op') (hi : ∃ a, i.allShown = .ok a) :
    (∃ s, Architecture.sparse.format j = .ok s) ↔
      ∀ line ∈ target, (line + 1).natAbs < Numeral.writeLimit := by
  show (∃ s, Architecture.formatSparse j = .ok s) ↔ _
  unfold Architecture.formatSparse
  rw [hop]
  cases hr with
  | add => exact iff_of_true (exists_bind_pure_iff.mpr hi) fun line hline => nomatch hline
  | defuse => exact iff_of_true ⟨_, rfl⟩ fun line hline => nomatch hline
  | explode => exact iff_of_true ⟨_, rfl⟩ fun line hline => nomatch hline
  | idle => exact iff_of_true ⟨_, rfl⟩ fun line hline => nomatch hline
  | jump =>
    refine exists_bind_pure_iff.trans (exists_mapM_iff.trans ?_)
    simp only [List.forall_mem_singleton, Option.mem_some_iff, forall_eq']
    exact Numeral.exists_write_iff
  | branch test =>
    refine exists_bind_pure_iff.trans (exists_mapM_iff.trans ?_)
    -- Both sides are operands of the branch and the sign is a text; only the target is new.
    have hsign : ∃ a, (Datum.text test.symbol).shown = .ok a := ⟨_, rfl⟩
    simp only [comparing, List.forall_mem_cons, List.not_mem_nil, false_implies, implies_true,
      and_true, true_and, exists_shown_operand hi, hsign, Option.mem_some_iff, forall_eq']
    exact Numeral.exists_write_iff

end Instruction

/-! ## Executing a translated instruction -/

namespace Machine

variable {m after : Machine} {code : List Instruction} {i j : Instruction} {op op' : Operation}
  {target : Option Int} {origin : Int} {h : History} {snap snap' : Snapshot}

/-- A machine one line further on, on the translation of a program. -/
def raised (m : Machine) (code : List Instruction) : Machine :=
  { m with pc := m.pc + 1, program := .sparse (Program.translated code) }

theorem advanced_raised (m : Machine) (op : Operation) :
    (m.raised code).advanced op = (m.advanced op).raised code := by
  unfold advanced raised
  split <;> rfl

theorem advanced_congr (hop : op'.isFinal = op.isFinal) : m.advanced op' = m.advanced op := by
  unfold advanced
  rw [hop]

theorem add_raised (hx : m.add i = .ok after) :
    (m.raised code).add i = .ok (after.raised code) := by
  unfold add at hx ⊢
  split at hx
  next left right target rest hops =>
    obtain ⟨a, ha, hx⟩ := bind_eq_ok hx
    obtain ⟨b, hb, hx⟩ := bind_eq_ok hx
    obtain ⟨name, hname, hx⟩ := bind_eq_ok hx
    cases hx
    simp only [raised, ha, hb, hname]
    rfl
  next =>
    cases hx
    rfl

/-- The jump for a branch compares what the branch compares. -/
theorem compareJump_comparing {test : Comparison} {left right : Int}
    (hleft : m.registers.resolve (i.operand 0) = .ok left)
    (hright : m.registers.resolve (i.operand 1) = .ok right) :
    m.compareJump (i.comparing test.symbol) = .ok
      (if test.holds left right then { m with pc := i.rawLine 2 + 1 } else m) := by
  show (m.registers.resolve (i.operand 0) >>= fun left =>
    m.registers.resolve (i.operand 1) >>= fun right => Except.ok
      (if (Comparison.ofSymbol? test.symbol).any (·.holds left right) then
        { m with pc := i.rawLine 2 + 1 } else m)) = _
  rw [hleft, hright, Comparison.ofSymbol?_symbol]
  rfl

/-- **A translated instruction does to the raised machine what the original does to the machine
itself**, whichever line it stands on. -/
theorem execute_raised (hr : i.Renders op op' j target) (hx : m.execute op i origin h = .ok after)
    (origin' : Int) : (m.raised code).execute op' j origin' h = .ok (after.raised code) := by
  have he := effect_of_execute hx
  cases hr with
  | add => exact add_raised hx
  | defuse => cases he; rfl
  | explode => cases he; rfl
  | jump =>
    -- The target can be read, or the original could not be executed; so `rawLine` is that line.
    cases he with
    | directJump hline =>
      show Except.ok _ = _
      unfold raised Instruction.rawLine
      rw [hline]
      rfl
  | branch test =>
    cases he with
    | branchTaken hleft hright hholds hline =>
      refine (compareJump_comparing (m := m.raised code) hleft hright).trans ?_
      rw [if_pos hholds]
      unfold raised Instruction.rawLine
      rw [hline]
      rfl
    | branchPassed hleft hright hholds =>
      -- The target of a branch that is not taken may be anything: nothing has read it.
      refine (compareJump_comparing (m := m.raised code) hleft hright).trans ?_
      rw [if_neg (by rw [hholds]; exact Bool.false_ne_true)]
  | idle => cases he; rfl

/-! ## A step on a translated program -/

/-- Inside a program the raised machine fetches the translation of what the original fetches. -/
theorem fetch_raised (hcode : m.program = .fixed code) (hin : m.program.contains m.pc = true) :
    (m.raised code).fetch .sparse = (m.fetch .fixed).oneBased := by
  obtain ⟨i, hi⟩ := Option.isSome_iff_exists.mp hin
  have hfetch : m.fetch .fixed = i := by
    unfold fetch
    rw [hi]
    rfl
  rw [hcode] at hi
  -- Inside the program the line is a position in the list, and its translation one line up.
  obtain ⟨hpos, hi⟩ := Option.ite_none_right_eq_some.mp hi
  obtain ⟨n, hn⟩ := Int.eq_ofNat_of_zero_le hpos
  rw [hn, Int.toNat_natCast] at hi
  have hget : (Program.translated code).get? (m.pc + 1) = (code.map Instruction.oneBased)[n]? := by
    rw [hn, Int.add_comm]
    exact Program.get?_ofList_numbered 1 _ n
  show ((Program.translated code).get? (m.pc + 1)).getD .idle = _
  rw [hget, List.getElem?_map, hi, hfetch]
  rfl

/-- What the original makes of a machine, the translation makes of the raised one. -/
theorem executed_raised (hcode : m.program = .fixed code) (hin : m.program.contains m.pc = true)
    (hx : m.executed .fixed h = .ok after) :
    (m.raised code).executed .sparse h = .ok (after.raised code) := by
  have hr := Instruction.renders_oneBased (m.fetch .fixed)
  unfold executed at hx ⊢
  rw [fetch_raised hcode hin, advanced_raised, advanced_congr hr.isFinal_eq]
  exact execute_raised hr hx _

/-- **A step on a translated program** leaves what the step on the original leaves, with the machine
raised. -/
theorem step_raised (hcode : m.program = .fixed code) (hin : m.program.contains m.pc = true)
    (hs : m.step .fixed h = .ok snap) (hs' : (m.raised code).step .sparse h = .ok snap') :
    snap'.machine = snap.machine.raised code ∧ snap'.history = snap.history := by
  obtain ⟨after, -, hafter, -, rfl⟩ := step_eq_ok_iff.mp hs
  obtain ⟨after', -, hafter', -, rfl⟩ := step_eq_ok_iff.mp hs'
  have hexec := executed_raised hcode hin hafter
  obtain rfl := Except.ok.inj (hafter'.symm.trans hexec)
  exact ⟨rfl, rfl⟩

/-- Where a step can be made inside a program, the one on the translated program can be made if and
only if its text can be written. -/
theorem exists_step_raised_iff (hcode : m.program = .fixed code)
    (hin : m.program.contains m.pc = true) (hs : ∃ snap, m.step .fixed h = .ok snap) :
    (∃ snap', (m.raised code).step .sparse h = .ok snap') ↔ (m.fetch .fixed).Writable m.pc := by
  obtain ⟨⟨after, hafter⟩, hsymbol⟩ := exists_step_iff.mp hs
  obtain ⟨-, hshown⟩ := exists_symbolText_iff.mp hsymbol
  have hr := Instruction.renders_oneBased (m.fetch .fixed)
  have hformat := hr.exists_format_iff rfl (exists_bind_pure_iff.mp hshown)
  have hexec : ∃ after', (m.raised code).executed .sparse h = .ok after' :=
    ⟨_, executed_raised hcode hin hafter⟩
  rw [exists_step_iff, and_iff_right hexec, exists_symbolText_iff, fetch_raised hcode hin, hformat]
  rfl

end Machine

end Defusal
