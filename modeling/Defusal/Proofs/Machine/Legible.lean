import Defusal.Proofs.Machine.Limits

/-!
# When a step can be made

A step reads some operands of its instruction as numbers, and it writes down its line. Which
operands are read depends on the operation: an addition without a target reads none, and a branch
that is not taken leaves its target unread (`Instruction.Legible`). What is written is every
operand, but for the few opcodes of which a sparse machine displays nothing else
(`Instruction.IsBare`). A step can be made if and only if all of this can be read and written
(`Machine.exists_step_iff_legible`).
-/

namespace Defusal

namespace Instruction

variable {a : Architecture} {i : Instruction}

/-! ## What is read -/

/-- The operands that an operation reads can be read. An addition with fewer than three operands
reads none, and a branch reads its target only if it is taken. -/
def Legible (i : Instruction) (r : Registers) : Operation → Prop
  | .add => 3 ≤ i.operands.length → (∃ n, r.resolve (i.operand 0) = .ok n) ∧
      (∃ n, r.resolve (i.operand 1) = .ok n) ∧ ∃ name, (i.operand 2).shown = .ok name
  | .jump => ∃ n, r.resolve (i.operand 0) = .ok n
  | .compareJump => (∃ n, r.resolve (i.operand 0) = .ok n) ∧
      (∃ symbol, (i.operand 1).shown = .ok symbol) ∧ (∃ n, r.resolve (i.operand 2) = .ok n) ∧
      ∃ n, r.resolve (i.operand 3) = .ok n
  | .copy => (∃ n, r.resolve (i.operand 0) = .ok n) ∧ ∃ n, r.resolve (i.operand 1) = .ok n
  | .directJump => ∃ n, (i.operand 0).lenient = .ok n
  | .branch test => ∃ left right, r.resolve (i.operand 0) = .ok left ∧
      r.resolve (i.operand 1) = .ok right ∧
      (test.holds left right = true → ∃ n, (i.operand 2).lenient = .ok n)
  | .idle | .travel | .defuse | .explode => True

theorem operand_of_getElem? {n : Nat} {d : Datum} (h : i.operands[n]? = some d) :
    i.operand n = d := by
  unfold operand
  rw [h]
  rfl

theorem operand_of_cons {left right target : Datum} {rest : List Datum}
    (h : i.operands = left :: right :: target :: rest) :
    i.operand 0 = left ∧ i.operand 1 = right ∧ i.operand 2 = target := by
  unfold operand
  rw [h]
  exact ⟨rfl, rfl, rfl⟩

/-! ## What is displayed -/

/-- A sparse machine displays nothing of an instruction but its opcode. -/
def IsBare (i : Instruction) : Prop := i.op ∈ ["EMPTY", "TTRAVEL", "DEFUSE", "EXPLODE"]

instance (i : Instruction) : Decidable i.IsBare := inferInstanceAs (Decidable (_ ∈ _))

theorem format_of_isBare (h : i.IsBare) : Architecture.sparse.format i = .ok i.op := by
  simp only [IsBare, List.mem_cons, List.not_mem_nil, or_false] at h
  show Architecture.formatSparse i = _
  unfold Architecture.formatSparse
  rcases h with hop | hop | hop | hop <;> rw [hop] <;> rfl

/-- Any other instruction is displayed with all of its operands. -/
theorem exists_layout_of_not_isBare (h : ¬ i.IsBare) : ∃ layout : List String → String,
    Architecture.sparse.format i = do return layout (← i.allShown) := by
  have hne : ∀ op, Architecture.sparse.operation i.op = op → op ∉ [.travel, .defuse, .explode] := by
    rintro op rfl hop
    refine h (List.mem_cons_of_mem _ ?_)
    simpa [Architecture.operation_eq_travel_iff, Architecture.operation_eq_defuse_iff,
      Architecture.operation_eq_explode_iff] using hop
  show ∃ layout : List String → String, Architecture.formatSparse i = _
  unfold Architecture.formatSparse
  split
  next => exact ⟨_, rfl⟩
  next => exact ⟨_, rfl⟩
  next => exact ⟨_, rfl⟩
  next => exact ⟨_, rfl⟩
  next hop => exact absurd (by simp) (hne _ hop)
  next hop => exact absurd (by simp) (hne _ hop)
  next hop => exact absurd (by simp) (hne _ hop)
  next =>
    have hidle : i.op ≠ idle.op := by
      intro hop
      refine h ?_
      unfold IsBare
      rw [hop]
      exact List.mem_cons_self ..
    rw [if_neg hidle]
    exact ⟨_, rfl⟩

/-- The line of an instruction can be displayed if and only if none of its operands is displayed or
all of them can be shown. -/
theorem exists_format_iff : (∃ s, a.format i = .ok s) ↔
    a = .sparse ∧ i.IsBare ∨ ∀ d ∈ i.operands, ∃ s, d.shown = .ok s := by
  have hall : (∃ texts, i.allShown = .ok texts) ↔ ∀ d ∈ i.operands, ∃ s, d.shown = .ok s :=
    exists_mapM_iff
  rw [← hall]
  cases a with
  | fixed => exact exists_bind_pure_iff.trans (or_iff_right fun h => nomatch h.1).symm
  | sparse =>
    by_cases hbare : i.IsBare
    · exact iff_of_true ⟨_, format_of_isBare hbare⟩ (.inl ⟨rfl, hbare⟩)
    · obtain ⟨layout, hlayout⟩ := exists_layout_of_not_isBare hbare
      rw [hlayout]
      exact exists_bind_pure_iff.trans (or_iff_right fun h => hbare h.2).symm

end Instruction

/-! ## Steps -/

namespace Machine

variable {a : Architecture} {m after : Machine} {i : Instruction} {op : Operation} {origin : Int}
  {h : History}

/-- The registers after the clock has advanced, on which an instruction is executed. -/
def ticked (m : Machine) : Registers := m.registers.put clockName (m.registers.time + 1)

/-- What was executed could be read. -/
theorem Effect.legible (he : Effect m i origin h op after) : i.Legible m.registers op := by
  cases he with
  | unwritten hshort => exact fun hlong => absurd hlong (Nat.not_le.mpr hshort)
  | @sum left right target rest a b name hops ha hb hname =>
    obtain ⟨hleft, hright, htarget⟩ := Instruction.operand_of_cons hops
    intro _
    rw [hleft, hright, htarget]
    exact ⟨⟨a, ha⟩, ⟨b, hb⟩, name, hname⟩
  | jump hline => exact ⟨_, hline⟩
  | compareJump hleft hsymbol hright hline =>
    exact ⟨⟨_, hleft⟩, ⟨_, hsymbol⟩, ⟨_, hright⟩, _, hline⟩
  | copyInto hop hsource htarget =>
    rw [← Instruction.operand_of_getElem? hop] at htarget
    exact ⟨⟨_, hsource⟩, _, htarget⟩
  | copyAfter hop hsource =>
    -- A missing operand stands for zero.
    refine ⟨⟨_, hsource⟩, 0, ?_⟩
    unfold Instruction.operand
    rw [hop]
    rfl
  | directJump hline => exact ⟨_, hline⟩
  | branchTaken hleft hright _ hline => exact ⟨_, _, hleft, hright, fun _ => ⟨_, hline⟩⟩
  | branchPassed hleft hright hholds =>
    exact ⟨_, _, hleft, hright, fun hx => absurd (hx.symm.trans hholds) Bool.noConfusion⟩
  | _ => trivial

theorem exists_add (hi : i.Legible m.registers .add) : ∃ after, m.add i = .ok after := by
  unfold add
  split
  next left right target rest hops =>
    have hlength : 3 ≤ i.operands.length := by
      rw [hops]
      exact Nat.le_add_left 3 rest.length
    obtain ⟨hleft, hright, htarget⟩ := Instruction.operand_of_cons hops
    obtain ⟨⟨a, ha⟩, ⟨b, hb⟩, name, hname⟩ := hi hlength
    rw [hleft] at ha
    rw [hright] at hb
    rw [htarget] at hname
    rw [ha, hb, hname]
    exact ⟨_, rfl⟩
  next => exact ⟨m, rfl⟩

theorem exists_compareJump (hi : i.Legible m.registers .compareJump) :
    ∃ after, m.compareJump i = .ok after := by
  obtain ⟨⟨left, hleft⟩, ⟨symbol, hsymbol⟩, ⟨right, hright⟩, line, hline⟩ := hi
  unfold compareJump
  rw [hleft, hsymbol, hright, hline]
  exact ⟨_, rfl⟩

theorem exists_copy (hi : i.Legible m.registers .copy) : ∃ after, m.copy origin i = .ok after := by
  obtain ⟨⟨source, hsource⟩, target, htarget⟩ := hi
  unfold copy
  rw [hsource, ok_bind]
  split
  next operand hop =>
    rw [Instruction.operand_of_getElem? hop] at htarget
    rw [htarget]
    exact ⟨_, rfl⟩
  next => exact ⟨_, rfl⟩

theorem exists_branch {test : Comparison} (hi : i.Legible m.registers (.branch test)) :
    ∃ after, m.branch test i = .ok after := by
  obtain ⟨left, right, hleft, hright, htarget⟩ := hi
  unfold branch
  rw [hleft, hright, ok_bind, ok_bind]
  split
  next hholds =>
    obtain ⟨line, hline⟩ := htarget hholds
    rw [hline]
    exact ⟨_, rfl⟩
  next => exact ⟨m, rfl⟩

/-- An instruction can be executed if and only if the operands that its operation reads can be
read. -/
theorem exists_execute_iff :
    (∃ after, m.execute op i origin h = .ok after) ↔ i.Legible m.registers op := by
  constructor
  · rintro ⟨after, hafter⟩
    exact (effect_of_execute hafter).legible
  intro hi
  cases op with
  | add => exact exists_add hi
  | jump => exact exists_bind_pure_iff.mpr hi
  | compareJump => exact exists_compareJump hi
  | copy => exact exists_copy hi
  | directJump => exact exists_bind_pure_iff.mpr hi
  | branch test => exact exists_branch hi
  | idle | travel | defuse | explode => exact ⟨_, rfl⟩

/-- **A step can be made if and only if the operands that are read can be read**, after the clock
has advanced, **and the line can be written**, its number as well as the operands that are
displayed. -/
theorem exists_step_iff_legible : (∃ snap, m.step a h = .ok snap) ↔
    (m.fetch a).Legible m.ticked (a.operation (m.fetch a).op) ∧
      m.pc.natAbs < Numeral.writeLimit ∧
      (a = .sparse ∧ (m.fetch a).IsBare ∨ ∀ d ∈ (m.fetch a).operands, ∃ s, d.shown = .ok s) := by
  rw [exists_step_iff, exists_symbolText_iff, Instruction.exists_format_iff]
  exact and_congr_left fun _ => exists_execute_iff

end Machine

end Defusal
