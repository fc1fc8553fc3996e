import Defusal.Level.Bundled
import Defusal.Proofs.Session.Run

/-!
# What a session says about itself

A session keeps its status, the outcome of its machine and the last snapshot in separate places, and
four commands write to them. `Coherent` is the bundle of facts that tie them together; a new game
has it (`coherent_fresh`), and starting and a step keep it (`Coherent.start`, `Coherent.step`), so
every reachable session has it (`reachable_coherent`).

The clauses about the instruction on the present line hold because an operation that ends the game
neither moves the machine nor writes to the program: what was fetched is still there. The one
exception is a fixed machine outside its program, where the explosion that was fetched is stored
nowhere.
-/

namespace Defusal

namespace Machine

/-- What a machine fetches is the instruction on its line, unless a fixed machine stands outside its
program and explodes. -/
theorem fetch_eq (a : Architecture) (m : Machine) :
    m.fetch a = m.program.get m.pc ∨
      a = .fixed ∧ m.program.contains m.pc = false ∧ m.fetch a = .explosion := by
  cases a with
  | sparse => exact .inl rfl
  | fixed =>
    unfold fetch Program.get Program.contains
    cases h : m.program.get? m.pc with
    | none => exact .inr ⟨rfl, rfl, rfl⟩
    | some i => exact .inl rfl

variable {a : Architecture} {m : Machine} {h : History} {snap : Snapshot}

theorem Stepped.operation_of_won (hs : Stepped a m h snap)
    (hwon : snap.machine.outcome = some .won) : a.operation (m.fetch a).op = .defuse :=
  Operation.ending_eq_won_iff.mp (hs.outcome.symm.trans hwon)

theorem Stepped.operation_of_lost (hs : Stepped a m h snap)
    (hlost : snap.machine.outcome = some .lost) : a.operation (m.fetch a).op = .explode :=
  Operation.ending_eq_lost_iff.mp (hs.outcome.symm.trans hlost)

/-- A machine that won stands on a line that defuses. -/
theorem Stepped.won_at (hs : Stepped a m h snap) (hwon : snap.machine.outcome = some .won) :
    (snap.machine.program.get snap.machine.pc).op = "DEFUSE" := by
  have hop := hs.operation_of_won hwon
  have hname := Architecture.operation_eq_defuse_iff.mp hop
  obtain ⟨hpc, hprogram⟩ := hs.effect.of_isFinal (by rw [hop]; rfl)
  rw [hpc, hprogram, hop]
  -- The machine has not moved, so what it fetched is still on its line.
  show (m.program.get m.pc).op = "DEFUSE"
  rcases fetch_eq a m with hget | ⟨-, -, hget⟩
  · rw [← hget]; exact hname
  · rw [hget] at hname; exact absurd hname (by decide)

/-- A machine that lost stands on a line that explodes, or is a fixed one outside its program. -/
theorem Stepped.lost_at (hs : Stepped a m h snap) (hlost : snap.machine.outcome = some .lost) :
    (snap.machine.program.get snap.machine.pc).op = "EXPLODE" ∨
      a = .fixed ∧ snap.machine.program.contains snap.machine.pc = false := by
  have hop := hs.operation_of_lost hlost
  have hname := Architecture.operation_eq_explode_iff.mp hop
  obtain ⟨hpc, hprogram⟩ := hs.effect.of_isFinal (by rw [hop]; rfl)
  rw [hpc, hprogram, hop]
  rcases fetch_eq a m with hget | ⟨ha, hout, -⟩
  · left
    show (m.program.get m.pc).op = "EXPLODE"
    rw [← hget]
    exact hname
  · exact .inr ⟨ha, hout⟩

end Machine

namespace Session

variable {s s' : Session} {level : Level}

/-- The facts that tie the parts of a session of a level together. -/
structure Coherent (level : Level) (s : Session) : Prop where
  level_eq : s.level = level
  /-- A game that waits has no step behind it. -/
  waiting : s.status = .waiting → s.last = none
  /-- Without a step behind it, everything is as in a new game. -/
  unplayed : s.last = none → ∃ v t, fresh level v = .ok t ∧ s.registers = t.registers ∧
    s.pc = t.pc ∧ s.program = t.program ∧ s.history = t.history ∧
    s.history = .start s.registers ∧ s.pc = level.architecture.firstLine
  won_iff : s.status = .won ↔ s.machine.outcome = some .won
  lost_iff : s.status = .lost ↔ s.machine.outcome = some .lost
  unended : s.status ≠ .won → s.status ≠ .lost → s.machine.outcome = none
  /-- The last snapshot is of the present machine and history. -/
  last : ∀ snap, s.last = some snap → snap.machine = s.machine ∧ snap.history = s.history
  won_at : s.status = .won → (s.program.get s.pc).op = "DEFUSE"
  lost_at : s.status = .lost → (s.program.get s.pc).op = "EXPLODE" ∨
    level.architecture = .fixed ∧ s.program.contains s.pc = false

/-- A new game is coherent. -/
theorem coherent_fresh {value : Datum} (h : fresh level value = .ok s) : Coherent level s := by
  obtain ⟨r, p, -, -, rfl⟩ := fresh_eq_ok h
  refine ⟨rfl, fun _ => rfl, fun _ => ⟨value, _, h, rfl, rfl, rfl, rfl, rfl, rfl⟩, ?_, ?_,
    fun _ _ => rfl, ?_, ?_, ?_⟩
  · exact ⟨(nomatch ·), (nomatch ·)⟩
  · exact ⟨(nomatch ·), (nomatch ·)⟩
  · intro snap hsnap; exact nomatch hsnap
  · intro hw; exact nomatch hw
  · intro hl; exact nomatch hl

/-- Starting only turns a waiting game into a running one, and neither has ended. -/
theorem Coherent.start (hs : Coherent level s) : Coherent level s.start := by
  unfold Session.start
  split
  next hw =>
    have hlast := hs.waiting hw
    have hnone : s.machine.outcome = none :=
      hs.unended (by rw [hw]; decide) (by rw [hw]; decide)
    refine ⟨hs.level_eq, (nomatch ·), hs.unplayed, ?_, ?_, fun _ _ => hnone, hs.last,
      (nomatch ·), (nomatch ·)⟩
    · exact ⟨(nomatch ·), fun ho => nomatch hnone.symm.trans ho⟩
    · exact ⟨(nomatch ·), fun ho => nomatch hnone.symm.trans ho⟩
  next => exact hs

theorem ofOutcome_eq_won_iff {o : Option Outcome} : Status.ofOutcome o = .won ↔ o = some .won := by
  rcases o with _ | _ | _ <;> decide

theorem ofOutcome_eq_lost_iff {o : Option Outcome} :
    Status.ofOutcome o = .lost ↔ o = some .lost := by
  rcases o with _ | _ | _ <;> decide

/-- A step writes the machine, the history, the status and the snapshot together. -/
theorem Coherent.step (hs : Coherent level s) (h : s.step = .ok s') : Coherent level s' := by
  rcases step_cases h with ⟨-, rfl⟩ | ⟨-, snap, hsnap, rfl⟩
  · exact hs
  refine ⟨hs.level_eq, ?_, (nomatch ·), ofOutcome_eq_won_iff, ofOutcome_eq_lost_iff,
    ?_, ?_, ?_, ?_⟩
  · -- No outcome gives a game that waits.
    intro hw
    have hw : Status.ofOutcome snap.machine.outcome = .waiting := hw
    rcases ho : snap.machine.outcome with _ | _ | _ <;> rw [ho] at hw <;> cases hw
  · intro hw hl
    show snap.machine.outcome = none
    rcases ho : snap.machine.outcome with _ | _ | _
    · rfl
    · exact absurd (ofOutcome_eq_won_iff.mpr ho) hw
    · exact absurd (ofOutcome_eq_lost_iff.mpr ho) hl
  · intro snap' hlast
    cases hlast
    exact ⟨rfl, rfl⟩
  · exact fun hw => hsnap.won_at (ofOutcome_eq_won_iff.mp hw)
  · intro hl
    rw [← hs.level_eq]
    exact hsnap.lost_at (ofOutcome_eq_lost_iff.mp hl)

/-! ## A game that is over stays over -/

theorem start_of_isTerminal (h : s.isTerminal = true) : s.start = s := by
  unfold Session.start
  split
  next hw =>
    unfold isTerminal at h
    rw [hw] at h
    exact absurd h Bool.false_ne_true
  next => rfl

theorem steps_of_isTerminal (h : s.isTerminal = true) (n : Nat) : steps n s = .ok s := by
  cases n with
  | zero => rfl
  | succ n => unfold steps; rw [if_pos h]

/-- Only a reset does anything to a game that is over. -/
theorem apply_of_isTerminal (h : s.isTerminal = true) {c : Command} (hc : ∀ v, c ≠ .reset v) :
    s.apply c = .ok s := by
  cases c with
  | start => exact congrArg Except.ok (start_of_isTerminal h)
  | step => exact step_of_isTerminal h
  | run budget =>
    show steps budget.toNat s.start = .ok s
    rw [start_of_isTerminal h]
    exact steps_of_isTerminal h budget.toNat
  | reset v => exact absurd rfl (hc v)

/-- **Every reachable session is coherent**, and once the game is over only a reset changes it. -/
theorem reachable_coherent (h : Reachable level s) :
    Coherent level s ∧
      (s.isTerminal = true → ∀ c : Command, (∀ v, c ≠ .reset v) → s.apply c = .ok s) :=
  ⟨(h.induct coherent_fresh Coherent.start Coherent.step).2,
    fun hover _ hc => apply_of_isTerminal hover hc⟩

/-- The tutorial on its solution: won after a start, a step and a run, and a further run changes
nothing. -/
theorem reachable_coherent_tutorial :
    let s := reached .tutorial [.reset (.int 5), .start, .step, .run 5]
    Reachable .tutorial s ∧ s.status = .won ∧ Coherent .tutorial s ∧ s.apply (.run 5) = .ok s := by
  intro s
  have hr : Reachable .tutorial s := reachable_reached (by decide +kernel)
  have hwon : s.status = .won := by decide +kernel
  obtain ⟨hcoherent, hstay⟩ := reachable_coherent hr
  refine ⟨hr, hwon, hcoherent, hstay ?_ _ fun v h => nomatch h⟩
  unfold isTerminal
  rw [hwon]
  rfl

end Session

end Defusal
