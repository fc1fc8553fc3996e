import Defusal.Level.Bundled
import Defusal.Proofs.Session.Run

/-!
# The history is the record of the run

The clock may run backwards, a later step may end at a time that an earlier one ended at, and time
travel records once more what it restored. `LastRecord s n k o` says what all this comes to without
mentioning the history: `o` is what the run `s` left behind for the time `k` in its first `n` steps,
that is, the registers after the last step that ended at `k`; where there is none it is the first
registers for the time zero and nothing for any other time.

`lastRecord_lookup` says that the history of a run holds exactly this. So time travel, which looks a
time up in the history, takes the registers back to the last step that ended at that time
(`history_lastRecord`).
-/

namespace Defusal

namespace Session

variable {s : Nat → Session} {n : Nat} {k : Int} {o o' : Option Registers}

/-- What the first `n` steps of a run left behind for a time. -/
inductive LastRecord (s : Nat → Session) (n : Nat) (k : Int) : Option Registers → Prop
  | written {j : Nat} (hj : 1 ≤ j) (hjn : j ≤ n) (htime : (s j).registers.time = k)
      (hlast : ∀ i, j < i → i ≤ n → (s i).registers.time ≠ k) :
      LastRecord s n k (some (s j).registers)
  | initial (hk : k = 0) (hnone : ∀ i, 1 ≤ i → i ≤ n → (s i).registers.time ≠ k) :
      LastRecord s n k (some (s 0).registers)
  | never (hk : k ≠ 0) (hnone : ∀ i, 1 ≤ i → i ≤ n → (s i).registers.time ≠ k) :
      LastRecord s n k none

/-- A run leaves one thing behind for each time. -/
theorem LastRecord.unique (h : LastRecord s n k o) (h' : LastRecord s n k o') : o = o' := by
  cases h with
  | @written j hj hjn htime hlast =>
    cases h' with
    | @written j' hj' hjn' htime' hlast' =>
      -- Neither of two last steps can come before the other.
      rcases Nat.lt_trichotomy j j' with hlt | rfl | hgt
      · exact absurd htime' (hlast j' hlt hjn')
      · rfl
      · exact absurd htime (hlast' j hgt hjn)
    | initial _ hnone => exact absurd htime (hnone j hj hjn)
    | never _ hnone => exact absurd htime (hnone j hj hjn)
  | initial hk hnone =>
    cases h' with
    | @written j hj hjn htime _ => exact absurd htime (hnone j hj hjn)
    | initial => rfl
    | never hk' _ => exact absurd hk hk'
  | never hk hnone =>
    cases h' with
    | @written j hj hjn htime _ => exact absurd htime (hnone j hj hjn)
    | initial hk' _ => exact absurd hk' hk
    | never => rfl

/-- A step that ends at a time is the last one to do so. -/
theorem lastRecord_self (hn : 1 ≤ n) (htime : (s n).registers.time = k) :
    LastRecord s n k (some (s n).registers) :=
  .written hn (Nat.le_refl n) htime fun _ hlt hle => absurd hle (Nat.not_le.mpr hlt)

/-- A step that ends at another time leaves everything as it was. -/
theorem LastRecord.succ (h : LastRecord s n k o) (htime : (s (n + 1)).registers.time ≠ k) :
    LastRecord s (n + 1) k o := by
  have hnew : ∀ i, i ≤ n + 1 → (i ≤ n → (s i).registers.time ≠ k) → (s i).registers.time ≠ k := by
    intro i hi hold
    rcases Nat.lt_or_ge n i with hlt | hge
    · rw [show i = n + 1 by omega]; exact htime
    · exact hold hge
  cases h with
  | written hj hjn hj' hlast =>
    exact .written hj (Nat.le_succ_of_le hjn) hj' fun i hlt hi => hnew i hi (hlast i hlt)
  | initial hk hnone => exact .initial hk fun i hi hle => hnew i hle (hnone i hi)
  | never hk hnone => exact .never hk fun i hi hle => hnew i hle (hnone i hi)

/-- **The history holds what the run left behind**, for every time. -/
theorem lastRecord_lookup {level : Level} {value : Datum} (h₀ : fresh level value = .ok (s 0)) :
    ∀ {n : Nat}, IsRun s n → ∀ k, LastRecord s n k ((s n).history.lookup k) := by
  obtain ⟨r, p, -, -, hs₀⟩ := fresh_eq_ok h₀
  have hhistory : (s 0).history = .start (s 0).registers := by rw [hs₀]; rfl
  have hlive : (s 0).isTerminal = false := by rw [hs₀]; rfl
  intro n
  induction n with
  | zero =>
    intro _ k
    rw [hhistory, History.lookup_start]
    split
    next hk => exact .initial hk fun i hi hle => absurd hle (by omega)
    next hk => exact .never hk fun i hi hle => absurd hle (by omega)
  | succ n ih =>
    intro hrun k
    have ih := ih hrun.of_succ
    rcases step_cases hrun.last with ⟨hover, hsame⟩ | ⟨-, snap, hsnap, hnext⟩
    · -- The game is over: the last step wrote what the history has for its time.
      have hn : 1 ≤ n := by
        rcases n with _ | n
        · rw [hlive] at hover; exact absurd hover Bool.false_ne_true
        · omega
      by_cases htime : (s (n + 1)).registers.time = k
      · have hself := lastRecord_self (s := s) (k := k) hn (by rw [← hsame]; exact htime)
        rw [hsame, (ih k).unique hself, ← hsame]
        exact lastRecord_self (Nat.le_add_left 1 n) htime
      · rw [hsame]
        exact (ih k).succ htime
    · have hrecord : (s (n + 1)).history
          = (s n).history.record (s (n + 1)).registers.time (s (n + 1)).registers := by
        rw [hnext]; exact hsnap.history
      rw [hrecord, History.lookup_record]
      split
      next hk => exact lastRecord_self (Nat.le_add_left 1 n) hk.symm
      next hk => exact (ih k).succ fun htime => hk htime.symm

/-! ## Time travel -/

/-- A step that travels in time takes the registers that the history has for the next time, moves
on by one line and keeps the program. -/
theorem step_travel {t t' : Session} (h : t.step = .ok t') (ha : t.architecture = .sparse)
    (hx : t.executes "TTRAVEL" = true) :
    t'.registers = (t.history.lookup (t.registers.time + 1)).getD
        (t.registers.put clockName (t.registers.time + 1)) ∧
      t'.pc = t.pc + 1 ∧ t'.program = t.program := by
  obtain ⟨hlive, hname⟩ := executes_iff.mp hx
  obtain ⟨snap, hsnap, rfl⟩ := exists_stepped hlive h
  have hop : t.architecture.operation (t.machine.fetch t.architecture).op = .travel := by
    rw [hname, ha]
    rfl
  -- The look-up comes after the clock has advanced, so it is at the time after the present one.
  have hsnap := (hop ▸ hsnap.effect).travel_eq
  show snap.machine.registers = _ ∧ snap.machine.pc = _ ∧ snap.machine.program = _
  rw [hsnap]
  refine ⟨?_, rfl, rfl⟩
  show (t.history.lookup (t.registers.put clockName (t.registers.time + 1)).time).getD _ = _
  rw [Registers.time_put_clock]
  rfl

/-- A step that travels in time can be made wherever the number of the line can be written. -/
theorem exists_step_travel_iff {t : Session} (ha : t.architecture = .sparse)
    (hx : t.executes "TTRAVEL" = true) :
    (∃ t', t.step = .ok t') ↔ t.pc.natAbs < Numeral.writeLimit := by
  obtain ⟨hlive, hname⟩ := executes_iff.mp hx
  rw [ha] at hname
  have hop : Architecture.sparse.operation (t.machine.fetch .sparse).op = .travel := by
    rw [hname]
    rfl
  have hexec : ∃ after, t.machine.executed .sparse t.history = .ok after := by
    unfold Machine.executed
    rw [hop]
    exact ⟨_, rfl⟩
  have hformat : ∃ text, Architecture.sparse.format (t.machine.fetch .sparse) = .ok text := by
    refine ⟨(t.machine.fetch .sparse).op, ?_⟩
    show Architecture.formatSparse _ = _
    unfold Architecture.formatSparse
    rw [hop]
  rw [exists_step_iff hlive, ha, Machine.exists_step_iff, and_iff_right hexec,
    Machine.exists_symbolText_iff, and_iff_left hformat]
  rfl

/-- **The history is the record of the run, and time travel restores it.** A step that travels in
time gives the registers that the run last had after a step to the time to which the clock advances;
where it had none, only the clock has advanced. The program stays, the machine moves on by one line,
and the step can be made if and only if the number of the line can be written. -/
theorem history_lastRecord {level : Level} {value : Datum} (h₀ : fresh level value = .ok (s 0))
    (hrun : IsRun s n) :
    (∀ k, LastRecord s n k ((s n).history.lookup k)) ∧
    (level.architecture = .sparse → (s n).executes "TTRAVEL" = true →
      ((∃ s', (s n).step = .ok s') ↔ (s n).pc.natAbs < Numeral.writeLimit) ∧
      ∀ s', (s n).step = .ok s' →
        (∀ o, LastRecord s n ((s n).registers.time + 1) o →
          s'.registers = o.getD ((s n).registers.put clockName ((s n).registers.time + 1))) ∧
        s'.pc = (s n).pc + 1 ∧ s'.program = (s n).program) := by
  have hlookup := lastRecord_lookup h₀ hrun
  refine ⟨hlookup, fun ha hx => ?_⟩
  have ha : (s n).architecture = .sparse :=
    hrun.architecture_eq.trans ((congrArg Level.architecture (fresh_level h₀)).trans ha)
  refine ⟨exists_step_travel_iff ha hx, fun s' hs' => ?_⟩
  obtain ⟨hregisters, hpc, hprogram⟩ := step_travel hs' ha hx
  refine ⟨fun o ho => ?_, hpc, hprogram⟩
  rw [hregisters, (hlookup _).unique ho]

/-- Counts twice, turns the clock back to the start, and travels. -/
def rewinding : Level where
  id := "rewinding"
  name := "Rewinding"
  program := .map [
    Level.builtLine 1 "ADD" [.text "A", .int 1, .text "A"],
    Level.builtLine 2 "ADD" [.text "A", .int 1, .text "A"],
    Level.builtLine 3 "ADD" [.text "T", .int (-3), .text "T"],
    Level.builtLine 4 "TTRAVEL" []]
  registers := .ofList [("A", 0), ("T", 0)]

/-- The fourth step of `rewinding` is made at the time zero again and gives the registers that the
first step left, in which the count is one. -/
theorem history_lastRecord_rewinding : ∃ s : Nat → Session,
    fresh rewinding .null = .ok (s 0) ∧ IsRun s 3 ∧ (s 3).executes "TTRAVEL" = true ∧
      LastRecord s 3 1 (some (s 1).registers) ∧
      ∃ s', (s 3).step = .ok s' ∧ s'.registers = (s 1).registers ∧
        s'.registers.get? "A" = some 1 := by
  let s := (reached rewinding []).along
  have h₀ : fresh rewinding .null = .ok (s 0) :=
    eq_ok_getD (x := fresh rewinding .null) (by decide +kernel) default
  have hrun : IsRun s 3 := isRun_along (by decide +kernel)
  have hx : (s 3).executes "TTRAVEL" = true := by decide +kernel
  have hlast : ∀ i < 4, 1 < i → (s i).registers.time ≠ 1 := by decide +kernel
  have hrecord : LastRecord s 3 1 (some (s 1).registers) :=
    .written (Nat.le_refl 1) (by decide) (by decide +kernel)
      fun i hi hle => hlast i (Nat.lt_succ_of_le hle) hi
  have htime : (s 3).registers.time + 1 = 1 := by decide +kernel
  obtain ⟨-, htravel⟩ := history_lastRecord h₀ hrun
  obtain ⟨hexists, hstep⟩ := htravel rfl hx
  obtain ⟨s', hs'⟩ := hexists.mpr (by decide +kernel)
  refine ⟨s, h₀, hrun, hx, hrecord, s', hs', ?_, ?_⟩
  · exact (hstep s' hs').1 _ (htime ▸ hrecord)
  · rw [(hstep s' hs').1 _ (htime ▸ hrecord)]
    decide +kernel

end Session

end Defusal
