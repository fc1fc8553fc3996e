import Defusal.Level.Bundled
import Defusal.Proofs.Machine.Translation
import Defusal.Proofs.Session.Run

/-!
# A sparse session plays a fixed one

A session on a fixed program and one on its translation stay together, step by step, for as long as
the first stays inside its program: `Matches` is what they have in common, a step keeps it
(`Matches.step`), and so does a run (`IsRun.matches`).

The translation has every step that the original has but those whose text is too long to write:
`translated_run` says of any run that the run on the translated program exists if and only if all
its texts can be written, and that it then ends with the same registers, history and status, one
line further on.
-/

namespace Defusal.Session

variable {s s' t t' : Session} {code : List Instruction} {lf ls : Level} {r : Registers}

/-! ## Steps -/

/-- What a session on a fixed program and one on its translation have in common. -/
structure Matches (code : List Instruction) (s t : Session) : Prop where
  fixed : s.architecture = .fixed
  sparse : t.architecture = .sparse
  code_eq : s.program = .fixed code
  machine : t.machine = s.machine.raised code
  history : t.history = s.history
  status : t.status = s.status

theorem matches_opening (hf : lf.architecture = .fixed) (hs : ls.architecture = .sparse) :
    Matches code (opening lf r (.fixed code))
      (opening ls r (.sparse (Program.translated code))) where
  fixed := hf
  sparse := hs
  code_eq := rfl
  machine := by
    unfold opening Machine.raised
    rw [hf, hs]
    rfl
  history := rfl
  status := rfl

theorem Matches.isTerminal_eq (h : Matches code s t) : t.isTerminal = s.isTerminal := by
  unfold isTerminal
  rw [h.status]

/-- Whether a session, unless it is over, stands on a line of its program. -/
def Inside (s : Session) : Prop := s.isTerminal = false → s.program.contains s.pc = true

instance (s : Session) : Decidable s.Inside := inferInstanceAs (Decidable (_ → _))

/-- Whether the translation of the next instruction can be written, unless the game is over. -/
def Writable (s : Session) : Prop :=
  s.isTerminal = false → (s.machine.fetch .fixed).Writable s.pc

instance (s : Session) : Decidable s.Writable := inferInstanceAs (Decidable (_ → _))

/-- **Sessions that match make matching steps.** -/
theorem Matches.step (h : Matches code s t) (hin : s.Inside) (hs : s.step = .ok s')
    (ht : t.step = .ok t') : Matches code s' t' := by
  cases hover : s.isTerminal with
  | true =>
    rw [step_of_isTerminal hover] at hs
    rw [step_of_isTerminal (h.isTerminal_eq.trans hover)] at ht
    cases hs
    cases ht
    exact h
  | false =>
    obtain ⟨snap, hsnap, rfl⟩ := (step_eq_ok_iff hover).mp hs
    obtain ⟨snap', hsnap', rfl⟩ := (step_eq_ok_iff (h.isTerminal_eq.trans hover)).mp ht
    rw [h.fixed] at hsnap
    rw [h.sparse, h.machine, h.history] at hsnap'
    obtain ⟨hmachine, hhistory⟩ := Machine.step_raised h.code_eq (hin hover) hsnap hsnap'
    have hkept : snap.machine.program = .fixed code := by
      refine ((Machine.stepped_of_step hsnap).effect.program_eq ?_).trans h.code_eq
      exact Architecture.operation_fixed_ne_copy _
    refine ⟨h.fixed, h.sparse, hkept, hmachine, hhistory, ?_⟩
    show Status.ofOutcome snap'.machine.outcome = Status.ofOutcome snap.machine.outcome
    rw [hmachine]
    rfl

/-- Where one of two matching sessions can make a step, the other can if and only if the text can be
written. -/
theorem Matches.exists_step_iff (h : Matches code s t) (hin : s.Inside) (hs : s.step = .ok s') :
    (∃ t', t.step = .ok t') ↔ s.Writable := by
  unfold Writable
  cases hover : s.isTerminal with
  | true =>
    have ht := step_of_isTerminal (h.isTerminal_eq.trans hover)
    exact iff_of_true ⟨t, ht⟩ fun hlive => nomatch hlive
  | false =>
    have hsnap := (Session.exists_step_iff hover).mp ⟨s', hs⟩
    rw [h.fixed] at hsnap
    have hiff := Machine.exists_step_raised_iff h.code_eq (hin hover) hsnap
    rw [← h.machine, ← h.history, ← h.sparse] at hiff
    rw [Session.exists_step_iff (h.isTerminal_eq.trans hover), hiff]
    exact ⟨fun hw _ => hw, fun hw => hw rfl⟩

/-! ## Runs -/

variable {u v : Nat → Session} {n : Nat}

/-- Runs that begin with a match keep it. -/
theorem IsRun.matches (h₀ : Matches code (u 0) (v 0)) : ∀ {n : Nat}, IsRun u n → IsRun v n →
    (∀ i < n, (u i).Inside) → Matches code (u n) (v n) := by
  intro n
  induction n with
  | zero => intro _ _ _; exact h₀
  | succ n ih =>
    intro hu hv hin
    have hn := ih hu.of_succ hv.of_succ fun i hi => hin i (Nat.lt_succ_of_lt hi)
    exact hn.step (hin n (Nat.lt_succ_self n)) hu.last hv.last

/-- A run on the translated program that begins with a match can be as long as its texts can be
written. -/
theorem isRun_along_of_writable (h₀ : Matches code (u 0) t) : ∀ {n : Nat}, IsRun u n →
    (∀ i < n, (u i).Inside) → (∀ i < n, (u i).Writable) → IsRun t.along n := by
  intro n
  induction n with
  | zero => intro _ _ _ i hi; exact nomatch hi
  | succ n ih =>
    intro hu hin hw
    have ht := ih hu.of_succ (fun i hi => hin i (Nat.lt_succ_of_lt hi)) fun i hi =>
      hw i (Nat.lt_succ_of_lt hi)
    -- Only in a matching session is the next step known to exist.
    have hn := IsRun.matches (v := t.along) h₀ hu.of_succ ht fun i hi =>
      hin i (Nat.lt_succ_of_lt hi)
    have hlt := Nat.lt_succ_self n
    obtain ⟨t', ht'⟩ := (hn.exists_step_iff (hin n hlt) hu.last).mpr (hw n hlt)
    exact ht.succ (ht'.trans (congrArg Except.ok (step_along ht').symm))

/-- The run on the translated program exists if and only if its texts can be written. -/
theorem exists_isRun_iff (h₀ : Matches code (u 0) t) (hu : IsRun u n)
    (hin : ∀ i < n, (u i).Inside) :
    (∃ v : Nat → Session, v 0 = t ∧ IsRun v n) ↔ ∀ i < n, (u i).Writable := by
  constructor
  · rintro ⟨v, rfl, hv⟩ i hi
    have hle := Nat.le_of_lt hi
    have hmatch := IsRun.matches h₀ (hu.of_le hle) (hv.of_le hle) fun j hj =>
      hin j (Nat.lt_trans hj hi)
    exact (hmatch.exists_step_iff (hin i hi) (hu i hi)).mp ⟨_, hv i hi⟩
  · intro hw
    exact ⟨t.along, rfl, isRun_along_of_writable h₀ hu hin hw⟩

/-- **A sparse machine does what a fixed one does.** Take any run on a fixed program that stays
inside it. A run as long on the translated program has the same registers, history and status, one
line further on, and there is one if and only if every text in it can be written. -/
theorem translated_run (hf : lf.architecture = .fixed) (hs : ls.architecture = .sparse)
    (hu₀ : u 0 = opening lf r (.fixed code)) (hu : IsRun u n) (hin : ∀ i < n, (u i).Inside) :
    (∀ v : Nat → Session, v 0 = opening ls r (.sparse (Program.translated code)) → IsRun v n →
      (v n).registers = (u n).registers ∧ (v n).history = (u n).history ∧
        (v n).status = (u n).status ∧ (v n).pc = (u n).pc + 1) ∧
    ((∃ v : Nat → Session, v 0 = opening ls r (.sparse (Program.translated code)) ∧ IsRun v n) ↔
      ∀ i < n, (u i).Writable) := by
  have h₀ : Matches code (u 0) (opening ls r (.sparse (Program.translated code))) :=
    hu₀ ▸ matches_opening hf hs
  refine ⟨fun v hv₀ hv => ?_, exists_isRun_iff h₀ hu hin⟩
  have hn := IsRun.matches (hv₀ ▸ h₀) hu hv hin
  refine ⟨?_, hn.history, hn.status, ?_⟩
  · show (v n).machine.registers = _
    rw [hn.machine]
    rfl
  · show (v n).machine.pc = _
    rw [hn.machine]
    rfl

/-- Counts down to zero and wins. -/
def countdown : List Instruction := [
  ⟨"ADD", [.text "A", .int (-1), .text "A"]⟩,
  ⟨"BGT", [.text "A", .int 0, .int 0]⟩,
  ⟨"DEFUSE", []⟩]

/-- A countdown from two wins on both machines after five steps, and nothing changes after that. -/
theorem translated_run_countdown : ∃ u v : Nat → Session,
    u 0 = opening .doublingFixed (.ofList [("A", 2)]) (.fixed countdown) ∧ IsRun u 6 ∧
    v 0 = opening .doubling (.ofList [("A", 2)]) (.sparse (Program.translated countdown)) ∧
    IsRun v 6 ∧ (u 6).status = .won ∧ (v 6).registers = (u 6).registers ∧
    (v 6).history = (u 6).history ∧ (v 6).status = (u 6).status ∧ (v 6).pc = (u 6).pc + 1 := by
  let u := (opening .doublingFixed (.ofList [("A", 2)]) (.fixed countdown)).along
  have hu : IsRun u 6 := isRun_along (by decide +kernel)
  have hin : ∀ i < 6, (u i).Inside := by decide +kernel
  have hsparse : Level.doubling.architecture = .sparse := rfl
  obtain ⟨hequal, hexists⟩ := translated_run rfl hsparse rfl hu hin
  obtain ⟨v, hv₀, hv⟩ := hexists.mpr (by decide +kernel)
  exact ⟨u, v, rfl, hu, hv₀, hv, by decide +kernel, hequal v hv₀ hv⟩

/-- A branch that is never taken. -/
def untaken (target : Int) : List Instruction := [⟨"BEQ", [.int 0, .int 1, .int target]⟩]

/-- A branch that is never taken can be executed if its target can be written. -/
theorem exists_step_untaken {target : Int} (h : target.natAbs < Numeral.writeLimit) :
    ∃ s', (opening .doublingFixed default (.fixed (untaken target))).step = .ok s' := by
  have hshown : ∀ d ∈ [Datum.int 0, .int 1, .int target], ∃ a, d.shown = .ok a := by
    simp only [List.forall_mem_cons, List.not_mem_nil, false_implies, implies_true, and_true]
    exact ⟨⟨_, rfl⟩, ⟨_, rfl⟩, Numeral.exists_write_iff.mpr h⟩
  have htext : ∃ symbol, Machine.symbolText .fixed 0 ⟨"BEQ", [.int 0, .int 1, .int target]⟩
      = .ok symbol := by
    refine Machine.exists_symbolText_iff.mpr ⟨by decide +kernel, ?_⟩
    exact exists_bind_pure_iff.mpr (exists_mapM_iff.mpr hshown)
  exact (exists_step_iff rfl).mpr (Machine.exists_step_iff.mpr ⟨⟨_, rfl⟩, htext⟩)

/-- Not every run on a fixed program has its counterpart: the target of this branch has as many
digits as can be written, and one more when lines are counted from one. -/
theorem translated_run_unwritable :
    let code := untaken (Numeral.writeLimit - 1)
    ∃ u : Nat → Session, u 0 = opening .doublingFixed default (.fixed code) ∧ IsRun u 1 ∧
      (∀ i < 1, (u i).Inside) ∧
      ¬ ∃ v : Nat → Session, v 0 = opening .doubling default (.sparse (Program.translated code)) ∧
        IsRun v 1 := by
  intro code
  let s := opening .doublingFixed default (.fixed code)
  have hstep : ∃ s', s.step = .ok s' := exists_step_untaken (by decide +kernel)
  obtain ⟨s', hs'⟩ := hstep
  let u := s.along
  have hnext : u 1 = s' := step_along (s := s) (n := 0) hs'
  have hu₀ : IsRun u 0 := fun i hi => nomatch hi
  have hu : IsRun u 1 := hu₀.succ (hnext ▸ hs')
  have hin : ∀ i < 1, (u i).Inside := by decide +kernel
  -- One more than the target is the least number that cannot be written.
  refine ⟨u, rfl, hu, hin, fun hexists => ?_⟩
  have h₀ : Matches code (u 0) (opening .doubling default (.sparse (Program.translated code))) :=
    matches_opening rfl rfl
  have hw : (u 0).Writable := (exists_isRun_iff h₀ hu hin).mp hexists 0 Nat.one_pos
  exact absurd hw (by decide +kernel)

end Defusal.Session
