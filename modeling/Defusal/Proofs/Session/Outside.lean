import Defusal.Proofs.Machine.Frame
import Defusal.Proofs.Program.Entries
import Defusal.Proofs.Session.Ending
import Defusal.Proofs.Session.Playable

/-!
# Outside the program

No game comes back that has left its program, but the two machines go on differently. A sparse
machine beyond all of its lines is idle: `Beyond` is kept by every step (`Beyond.step`), so the
clock and the line go on together for ever (`Beyond.advance`), as far as the number of the line can
be written. A fixed machine outside its program, on a negative line as well as on one that is too
great, loses with the next step where it stands (`HasCode.step_outside`), and that is the end of the
game.
-/

namespace Defusal.Session

variable {s s' t : Session} {code : List Instruction}

/-! ## Beyond a sparse program -/

/-- A game of a sparse machine that is not over and stands beyond all lines of its program. -/
structure Beyond (s : Session) : Prop where
  sparse : s.architecture = .sparse
  live : s.isTerminal = false
  line_lt : ∀ line ∈ s.program.lines, line < s.pc

theorem Beyond.fetch (hs : s.Beyond) : s.machine.fetch s.architecture = .idle := by
  have hnone : s.machine.program.get? s.machine.pc = none := by
    refine Option.not_isSome_iff_eq_none.mp fun hthere => ?_
    exact Int.lt_irrefl s.pc (hs.line_lt s.pc ((Program.mem_lines_iff _ _).mpr hthere))
  rw [hs.sparse]
  show (s.machine.program.get? s.machine.pc).getD .idle = .idle
  rw [hnone]
  rfl

/-- The machine after so many idle steps. -/
def drifted (s : Session) (k : Nat) : Machine where
  registers := s.registers.put clockName (s.registers.time + k)
  pc := s.pc + k
  program := s.program
  outcome := none

theorem drifted_succ {k : Nat} (h : t.machine = s.drifted k) : t.drifted 1 = s.drifted (k + 1) := by
  have htime : s.registers.time + k + (1 : Nat) = s.registers.time + (k + 1 : Nat) := by omega
  have hpc : s.pc + k + (1 : Nat) = s.pc + (k + 1 : Nat) := by omega
  unfold drifted registers pc program
  rw [h]
  unfold drifted
  rw [Registers.time_put_clock, Registers.put_put, htime, hpc]
  rfl

/-- A step beyond the program is idle and leads further beyond it. -/
theorem Beyond.step (hs : s.Beyond) (h : s.step = .ok s') :
    s'.machine = s.drifted 1 ∧ s'.status = .running ∧ s'.Beyond := by
  obtain ⟨snap, hsnap, rfl⟩ := exists_stepped hs.live h
  have hunknown : (s.machine.fetch s.architecture).op ∉ s.architecture.opcodes.map Prod.fst := by
    rw [hs.fetch, hs.sparse]
    decide
  have hmachine : (s.after snap).machine = s.drifted 1 :=
    (Machine.framed_of_stepped hsnap).unknown hunknown
  have hstatus : (s.after snap).status = .running := by
    show Status.ofOutcome (s.after snap).machine.outcome = _
    rw [hmachine]
    rfl
  refine ⟨hmachine, hstatus, hs.sparse, ?_, ?_⟩
  · unfold isTerminal
    rw [hstatus]
    rfl
  · unfold program pc
    rw [hmachine]
    intro line hline
    have hlt : line < s.pc := hs.line_lt line hline
    show line < s.pc + 1
    omega

/-- **Beyond its program a sparse game goes on for ever**, and nothing changes but the clock and the
line. -/
theorem Beyond.advance (hs : s.Beyond) (k : Nat) (h : s.advance (k + 1) = .ok t) :
    t.machine = s.drifted (k + 1) ∧ t.status = .running ∧ t.Beyond := by
  induction k generalizing t with
  | zero =>
    rw [advance_one] at h
    exact hs.step h
  | succ k ih =>
    rw [advance_succ] at h
    obtain ⟨u, hu, h⟩ := bind_eq_ok h
    obtain ⟨hmachine, -, hbeyond⟩ := ih hu
    obtain ⟨hnext, hstatus, hbeyond'⟩ := hbeyond.step h
    exact ⟨hnext.trans (drifted_succ hmachine), hstatus, hbeyond'⟩

theorem Beyond.exists_step_iff (hs : s.Beyond) :
    (∃ s', s.step = .ok s') ↔ s.pc.natAbs < Numeral.writeLimit := by
  have hfits : (s.machine.fetch s.architecture).Fits := by
    rw [hs.fetch]
    decide
  rw [exists_step_iff_of_fits hfits, hs.live]
  exact or_iff_right Bool.false_ne_true

/-- Beyond the program so many steps can be made if and only if all lines on the way can be
written. -/
theorem Beyond.exists_advance_iff (hs : s.Beyond) (k : Nat) :
    (∃ t, s.advance k = .ok t) ↔ ∀ j < k, (s.pc + j).natAbs < Numeral.writeLimit := by
  induction k generalizing s with
  | zero => exact iff_of_true ⟨s, rfl⟩ fun j hj => nomatch hj
  | succ k ih =>
    have hpc : ∀ {u}, s.step = .ok u → ∀ j : Nat, u.pc + j = s.pc + (j + 1 : Nat) := by
      intro u hu j
      have hline : u.pc = s.pc + 1 := congrArg Machine.pc (hs.step hu).1
      omega
    have hfirst : s.pc + (0 : Nat) = s.pc := Int.add_zero s.pc
    rw [Nat.forall_lt_succ_left, hfirst, ← hs.exists_step_iff]
    constructor
    · rintro ⟨t, ht⟩
      obtain ⟨u, hu, ht⟩ := bind_eq_ok ht
      refine ⟨⟨u, hu⟩, fun j hj => ?_⟩
      rw [← hpc hu]
      exact (ih (hs.step hu).2.2).mp ⟨t, ht⟩ j hj
    · rintro ⟨⟨u, hu⟩, hrest⟩
      obtain ⟨t, ht⟩ := (ih (hs.step hu).2.2).mpr fun j hj => by
        rw [hpc hu]
        exact hrest j hj
      refine ⟨t, ?_⟩
      unfold Session.advance
      rw [hu]
      exact ht

/-! ## Outside a fixed program -/

/-- A game of a fixed machine with some code. -/
structure HasCode (s : Session) (code : List Instruction) : Prop where
  fixed : s.architecture = .fixed
  program : s.program = .fixed code

theorem HasCode.contains_eq_false (hs : s.HasCode code) (hout : ¬ (0 ≤ s.pc ∧ s.pc < code.length)) :
    s.machine.program.contains s.machine.pc = false := by
  have hp : s.machine.program = .fixed code := hs.program
  rw [hp, ← Bool.not_eq_true, Program.contains_fixed_iff]
  exact hout

/-- A fixed machine outside its program loses where it stands. -/
theorem HasCode.step_outside (hs : s.HasCode code) (hlive : s.isTerminal = false)
    (hout : ¬ (0 ≤ s.pc ∧ s.pc < code.length)) (h : s.step = .ok s') :
    s'.machine = { registers := s.machine.ticked, pc := s.pc, program := s.program,
                   outcome := some .lost } ∧
      s'.status = .lost ∧
      s'.history = s.history.record (s.registers.time + 1) s.machine.ticked := by
  obtain ⟨snap, hsnap, rfl⟩ := exists_stepped hlive h
  have hmachine := (Machine.framed_of_stepped hsnap).outside hs.fixed (hs.contains_eq_false hout)
  refine ⟨hmachine, ?_, ?_⟩
  · show Status.ofOutcome snap.machine.outcome = _
    rw [hmachine]
    rfl
  · show snap.history = _
    rw [hsnap.history, hmachine]
    show s.history.record s.machine.ticked.time s.machine.ticked = _
    unfold Machine.ticked
    rw [Registers.time_put_clock]
    rfl

theorem HasCode.exists_step_outside_iff (hs : s.HasCode code) (hlive : s.isTerminal = false)
    (hout : ¬ (0 ≤ s.pc ∧ s.pc < code.length)) :
    (∃ s', s.step = .ok s') ↔ s.pc.natAbs < Numeral.writeLimit := by
  have hfits : (s.machine.fetch s.architecture).Fits := by
    rw [hs.fixed, Machine.fetch_of_outside (hs.contains_eq_false hout)]
    decide
  rw [exists_step_iff_of_fits hfits, hlive]
  exact or_iff_right Bool.false_ne_true

/-! ## Both machines -/

/-- **Outside its program no game comes back.** A sparse game beyond all of its lines runs on, one
line and one tick of the clock for each step, and never ends. A fixed game outside its program is
lost with the next step, on the same line and one tick later, and stays as it is from there on. The
steps can be made as long as the numbers of the lines can be written. -/
theorem dead_end_outside (s : Session) (hlive : s.isTerminal = false) :
    (s.architecture = .sparse → (∀ line ∈ s.program.lines, line < s.pc) →
      (∀ n t, ¬ s.EndsAfter n t) ∧ ∀ k ≥ 1,
        ((∃ t, s.advance k = .ok t) ↔ ∀ j < k, (s.pc + j).natAbs < Numeral.writeLimit) ∧
        ∀ t, s.advance k = .ok t →
          t.status = .running ∧ t.pc = s.pc + k ∧ t.program = s.program ∧
          t.registers = s.registers.put clockName (s.registers.time + k)) ∧
    ∀ code, s.architecture = .fixed → s.program = .fixed code →
      ¬ (0 ≤ s.pc ∧ s.pc < code.length) →
        ((∃ t, s.step = .ok t) ↔ s.pc.natAbs < Numeral.writeLimit) ∧
        ∀ t, s.step = .ok t →
          t.status = .lost ∧ t.pc = s.pc ∧ t.program = s.program ∧
          t.registers = s.registers.put clockName (s.registers.time + 1) ∧
          t.history = s.history.record (s.registers.time + 1) t.registers ∧
          ∀ k, t.advance k = .ok t := by
  constructor
  · intro hsparse hline
    have hs : s.Beyond := ⟨hsparse, hlive, hline⟩
    refine ⟨fun n t hends => ?_, fun k hk => ⟨hs.exists_advance_iff k, fun t ht => ?_⟩⟩
    · have hover : t.isTerminal = false := by
        cases n with
        | zero =>
          cases hends.leads
          exact hlive
        | succ n => exact (hs.advance n hends.leads).2.2.live
      rw [hends.terminal] at hover
      cases hover
    · obtain ⟨n, rfl⟩ := Nat.exists_eq_add_of_le' hk
      obtain ⟨hmachine, hstatus, -⟩ := hs.advance n ht
      unfold pc program registers
      rw [hmachine]
      exact ⟨hstatus, rfl, rfl, rfl⟩
  · intro code hfixed hprogram hout
    have hs : s.HasCode code := ⟨hfixed, hprogram⟩
    refine ⟨hs.exists_step_outside_iff hlive hout, fun t ht => ?_⟩
    obtain ⟨hmachine, hstatus, hhistory⟩ := hs.step_outside hlive hout ht
    have hregisters : t.registers = s.machine.ticked := congrArg Machine.registers hmachine
    have hover : t.isTerminal = true := isTerminal_of_status (o := .lost) hstatus
    refine ⟨hstatus, ?_, ?_, hregisters, hregisters.symm ▸ hhistory, advance_of_isTerminal hover⟩
    · unfold pc
      rw [hmachine]
      rfl
    · unfold program
      rw [hmachine]
      rfl

/-- A sparse program of one line, which adds. -/
def oneLine : Level where
  id := "one_line"
  name := "One line"
  program := .list [.text "ADD A, 1, A"]

/-- A fixed program that jumps to a line before its first. -/
def retreat : Level where
  id := "retreat"
  name := "Retreat"
  architecture := .fixed
  program := .list [.text "JMP -2"]

theorem dead_end_outside_leaving :
    (∃ s t, Reachable oneLine s ∧ s.advance 3 = .ok t ∧ t.status = .running ∧ t.pc = 5 ∧
      ∀ n u, ¬ s.EndsAfter n u) ∧
    ∃ s t, Reachable retreat s ∧ s.step = .ok t ∧ t.status = .lost ∧ t.pc = -2 ∧
      ∀ k, t.advance k = .ok t := by
  constructor
  · let s := reached oneLine [.step]
    have hs : Reachable oneLine s := reachable_reached (by decide +kernel)
    obtain ⟨hbeyond, -⟩ := dead_end_outside s (by decide +kernel)
    obtain ⟨hgoes, hsteps⟩ := hbeyond (by decide +kernel) (by decide +kernel)
    obtain ⟨hexists, hafter⟩ := hsteps 3 (by decide)
    obtain ⟨t, ht⟩ := hexists.mpr (by decide +kernel)
    obtain ⟨hstatus, hpc, -, -⟩ := hafter t ht
    have hline : s.pc = 2 := by decide +kernel
    rw [hline] at hpc
    exact ⟨s, t, hs, ht, hstatus, hpc, hgoes⟩
  · let s := reached retreat [.step]
    have hs : Reachable retreat s := reachable_reached (by decide +kernel)
    have hline : s.pc = -2 := by decide +kernel
    obtain ⟨-, hout⟩ := dead_end_outside s (by decide +kernel)
    obtain ⟨hexists, hlost⟩ := hout [⟨"JMP", [.int (-2)]⟩] rfl rfl (by decide +kernel)
    obtain ⟨t, ht⟩ := hexists.mpr (by decide +kernel)
    obtain ⟨hstatus, hpc, -, -, -, hstays⟩ := hlost t ht
    exact ⟨s, t, hs, ht, hstatus, hpc.trans hline, hstays⟩

/-- A sparse program that jumps to a line that is too great to be written. -/
def farAway : Level where
  id := "far_away"
  name := "Far away"
  program := .list [.text "JUMP A"]
  registers := .ofList [("A", Numeral.writeLimit), ("T", 0)]

/-- Not every game goes on that has left its program: here is one that is not over and on which no
step can be made. -/
theorem stranded_outside : ∃ s, Reachable farAway s ∧ s.architecture = .sparse ∧
    s.isTerminal = false ∧ (∀ line ∈ s.program.lines, line < s.pc) ∧ ¬ ∃ t, s.step = .ok t := by
  let s := reached farAway [.step]
  have hs : Reachable farAway s := reachable_reached (by decide +kernel)
  have hbeyond : s.Beyond :=
    ⟨by decide +kernel, by decide +kernel, by decide +kernel⟩
  refine ⟨s, hs, hbeyond.sparse, hbeyond.live, hbeyond.line_lt, ?_⟩
  rw [hbeyond.exists_step_iff]
  decide +kernel

end Defusal.Session
