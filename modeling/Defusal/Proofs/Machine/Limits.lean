import Defusal.Proofs.Datum.Conversion
import Defusal.Proofs.Machine.Effect

/-!
# Where steps fail

A step reads operands as numbers and writes down the line that it executes. Nothing else in it can
fail, so what a step fails with is what its operands fail with: `failsOnly_step` says so of any
property of faults. Of its two uses one tells the faults that there can be, which are those of a
number that is too long (`failsOnly_isTooLong_step`), and the other when there are none: if every
operand can be read and shown, then a step only fails on a line whose own number is too long to be
written (`exists_step_iff_of_fits`).
-/

namespace Defusal

/-- The faults of numbers that have too many digits to be read or to be written. -/
def Fault.IsTooLong (f : Fault) : Prop :=
  f = .tooLongToWrite ∨ ∃ n, Numeral.digitLimit < n ∧ f = .tooManyDigits n

variable {P : Fault → Prop}

/-! ## Reading a number -/

namespace Numeral

/-- The number of digits with which a text starts, after blanks and a sign. -/
def leadingDigits (s : String) : Nat :=
  ((splitSign (Text.trimStart s.toList)).2.takeWhile Text.isDigit).length

theorem readLeading_of_le {s : String} (h : leadingDigits s ≤ digitLimit) :
    ∃ n, readLeading s = .ok n := by
  rw [readLeading_eq]
  exact ⟨_, if_neg (Nat.not_lt.mpr h)⟩

theorem readLeading_of_lt {s : String} (h : digitLimit < leadingDigits s) :
    readLeading s = .error (.tooManyDigits (leadingDigits s)) := by
  rw [readLeading_eq]
  exact if_pos h

end Numeral

namespace Datum

/-- A value can be read as an operand unless it is a text that starts with too long a number. -/
theorem exists_lenient_iff {d : Datum} : (∃ n, d.lenient = .ok n) ↔
    ∀ s, d = .text s → Numeral.leadingDigits s ≤ Numeral.digitLimit := by
  constructor
  · rintro ⟨n, hn⟩ s rfl
    refine Nat.le_of_not_lt fun hlt => ?_
    have hn : Numeral.readLeading s = .ok n := hn
    rw [Numeral.readLeading_of_lt hlt] at hn
    cases hn
  · intro h
    cases d with
    | text s => exact Numeral.readLeading_of_le (h s rfl)
    | _ => exact ⟨_, rfl⟩

theorem failsOnly_lenient (d : Datum) : FailsOnly Fault.IsTooLong d.lenient := by
  cases d with
  | text s =>
    show FailsOnly _ (Numeral.readLeading s)
    rcases Nat.lt_or_ge Numeral.digitLimit (Numeral.leadingDigits s) with hlt | hle
    · rw [Numeral.readLeading_of_lt hlt]
      exact failsOnly_error (.inr ⟨_, hlt, rfl⟩)
    · obtain ⟨n, hn⟩ := Numeral.readLeading_of_le hle
      rw [hn]
      exact failsOnly_ok n
  | _ => exact failsOnly_ok _

end Datum

theorem Registers.failsOnly_resolve (r : Registers) {d : Datum} (h : FailsOnly P d.lenient) :
    FailsOnly P (r.resolve d) := by
  unfold resolve
  split
  next s =>
    split
    · exact failsOnly_ok _
    · exact h
  next => exact h

/-! ## Instructions -/

namespace Instruction

/-- The operands of an instruction fail only in some ways, whether they are read or shown. -/
def FailsBy (P : Fault → Prop) (i : Instruction) : Prop :=
  ∀ d ∈ i.operands, FailsOnly P d.lenient ∧ FailsOnly P d.shown

/-- Every operand of an instruction can be read and shown. -/
def Fits (i : Instruction) : Prop :=
  ∀ d ∈ i.operands, (∃ n, d.lenient = .ok n) ∧ ∃ s, d.shown = .ok s

instance (i : Instruction) : Decidable i.Fits :=
  inferInstanceAs
    (Decidable (∀ d ∈ i.operands, (∃ n, d.lenient = .ok n) ∧ ∃ s, d.shown = .ok s))

variable {i : Instruction}

theorem failsBy_isTooLong (i : Instruction) : i.FailsBy Fault.IsTooLong :=
  fun d _ => ⟨d.failsOnly_lenient, Datum.failsOnly_shown (.inl rfl) d⟩

theorem failsBy_false_iff : i.FailsBy (fun _ => False) ↔ i.Fits := by
  unfold FailsBy Fits
  simp only [failsOnly_false_iff]

/-- An operand that is missing reads as zero and shows as such. -/
theorem FailsBy.operand (h : i.FailsBy P) (n : Nat) :
    FailsOnly P (i.operand n).lenient ∧ FailsOnly P (i.operand n).shown := by
  unfold Instruction.operand
  cases hd : i.operands[n]? with
  | none => exact ⟨failsOnly_ok _, fun f hf => nomatch hf⟩
  | some d => exact h d (List.mem_of_getElem? hd)

theorem FailsBy.allShown (h : i.FailsBy P) : FailsOnly P i.allShown :=
  failsOnly_mapM fun d hd => (h d hd).2

end Instruction

/-- The display of an instruction fails only as its operands do. -/
theorem Architecture.failsOnly_format {i : Instruction} (a : Architecture) (h : i.FailsBy P) :
    FailsOnly P (a.format i) := by
  have hall := h.allShown
  cases a with
  | fixed => exact hall.bind fun _ _ => failsOnly_ok _
  | sparse =>
    show FailsOnly P (formatSparse i)
    unfold formatSparse
    split
    · exact hall.bind fun _ _ => failsOnly_ok _
    · exact hall.bind fun _ _ => failsOnly_ok _
    · exact hall.bind fun _ _ => failsOnly_ok _
    · exact hall.bind fun _ _ => failsOnly_ok _
    · exact failsOnly_ok _
    · exact failsOnly_ok _
    · exact failsOnly_ok _
    · split
      · exact failsOnly_ok _
      · exact hall.bind fun _ _ => failsOnly_ok _

/-! ## Steps -/

namespace Machine

variable {a : Architecture} {m : Machine} {i : Instruction} {h : History}

theorem failsOnly_add (hi : i.FailsBy P) : FailsOnly P (m.add i) := by
  unfold add
  split
  next left right target rest hops =>
    have hread : ∀ d ∈ [left, right, target], FailsOnly P d.lenient ∧ FailsOnly P d.shown := by
      intro d hd
      refine hi d ?_
      rw [hops]
      exact List.mem_append_left rest hd
    simp only [List.forall_mem_cons] at hread
    obtain ⟨⟨hleft, -⟩, ⟨hright, -⟩, ⟨-, htarget⟩, -⟩ := hread
    refine (m.registers.failsOnly_resolve hleft).bind fun _ _ => ?_
    refine (m.registers.failsOnly_resolve hright).bind fun _ _ => ?_
    exact htarget.bind fun _ _ => failsOnly_ok _
  next => exact failsOnly_ok _

theorem failsOnly_compareJump (hi : i.FailsBy P) : FailsOnly P (m.compareJump i) := by
  unfold compareJump
  refine (m.registers.failsOnly_resolve (hi.operand 0).1).bind fun _ _ => ?_
  refine (hi.operand 1).2.bind fun _ _ => ?_
  refine (m.registers.failsOnly_resolve (hi.operand 2).1).bind fun _ _ => ?_
  exact (m.registers.failsOnly_resolve (hi.operand 3).1).bind fun _ _ => failsOnly_ok _

theorem failsOnly_branch {test : Comparison} (hi : i.FailsBy P) :
    FailsOnly P (m.branch test i) := by
  unfold branch
  refine (m.registers.failsOnly_resolve (hi.operand 0).1).bind fun _ _ => ?_
  refine (m.registers.failsOnly_resolve (hi.operand 1).1).bind fun _ _ => ?_
  split
  · exact (hi.operand 2).1.bind fun _ _ => failsOnly_ok _
  · exact failsOnly_ok _

theorem failsOnly_copy {origin : Int} (hi : i.FailsBy P) : FailsOnly P (m.copy origin i) := by
  unfold copy
  refine (m.registers.failsOnly_resolve (hi.operand 0).1).bind fun _ _ => ?_
  split
  next operand hoperand =>
    have hread := (hi operand (List.mem_of_getElem? hoperand)).1
    exact (m.registers.failsOnly_resolve hread).bind fun _ _ => failsOnly_ok _
  next => exact failsOnly_ok _

/-- Executing an instruction fails only as its operands do. -/
theorem failsOnly_execute {op : Operation} {origin : Int} (hi : i.FailsBy P) :
    FailsOnly P (m.execute op i origin h) := by
  cases op with
  | add => exact failsOnly_add hi
  | jump => exact (m.registers.failsOnly_resolve (hi.operand 0).1).bind fun _ _ => failsOnly_ok _
  | compareJump => exact failsOnly_compareJump hi
  | copy => exact failsOnly_copy hi
  | directJump => exact (hi.operand 0).1.bind fun _ _ => failsOnly_ok _
  | branch test => exact failsOnly_branch hi
  | idle | travel | defuse | explode => exact failsOnly_ok _

/-- **A step fails only as the operands of its instruction do, or as the number of its line.** -/
theorem failsOnly_step (hi : (m.fetch a).FailsBy P) (hline : FailsOnly P (Numeral.write m.pc)) :
    FailsOnly P (m.step a h) := by
  unfold step
  refine (failsOnly_execute hi).bind fun _ _ => ?_
  refine FailsOnly.bind ?_ fun _ _ => failsOnly_ok _
  unfold symbolText
  exact hline.bind fun _ _ => (a.failsOnly_format hi).bind fun _ _ => failsOnly_ok _

theorem failsOnly_isTooLong_step : FailsOnly Fault.IsTooLong (m.step a h) :=
  failsOnly_step (m.fetch a).failsBy_isTooLong (Numeral.failsOnly_write (.inl rfl) m.pc)

/-- **If every operand can be read and shown, a step can be made if and only if the number of its
line can be written.** -/
theorem exists_step_iff_of_fits (hi : (m.fetch a).Fits) :
    (∃ snap, m.step a h = .ok snap) ↔ m.pc.natAbs < Numeral.writeLimit := by
  constructor
  · rintro ⟨snap, hs⟩
    obtain ⟨after, symbol, -, hsymbol, -⟩ := step_eq_ok_iff.mp hs
    exact (exists_symbolText_iff.mp ⟨symbol, hsymbol⟩).1
  · intro hline
    refine failsOnly_false_iff.mp (failsOnly_step (Instruction.failsBy_false_iff.mpr hi) ?_)
    exact failsOnly_false_iff.mpr (Numeral.exists_write_iff.mpr hline)

end Machine

end Defusal
