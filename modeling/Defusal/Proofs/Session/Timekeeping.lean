import Defusal.Proofs.Session.Clock
import Defusal.Proofs.Session.Playable

/-!
# Records that show their own time

A journey in time takes all registers from a record, the clock among them, so it could set the clock
to anything. It does not: `History.Punctual` says that what is recorded for a time shows that time on
its clock, and a journey looks up the time that its own clock shows. A record is made under the time
that it shows, so a step keeps a history punctual (`Session.step_punctual`), and on a punctual
history every step advances the clock by one unless it is an addition into the clock
(`Session.time_of_step`).

Only the first record is made under a time that it need not show: it is always at zero. So all of
this holds of games that begin at the time zero (`Session.clock_advances`), and the value that the
player chooses must not be that of the clock.
-/

namespace Defusal

/-! ## Punctual histories -/

/-- What is recorded for a time shows that time. -/
def History.Punctual (h : History) : Prop := ∀ k r, h.lookup k = some r → r.time = k

theorem History.punctual_start {r : Registers} (hr : r.time = 0) : (start r).Punctual := by
  intro k r' hk
  rw [lookup_start] at hk
  split at hk
  next hzero => cases hk; exact hr.trans hzero.symm
  next => cases hk

/-- A record under the time that it shows keeps a history punctual. -/
theorem History.Punctual.record {h : History} (hh : h.Punctual) (r : Registers) :
    (h.record r.time r).Punctual := by
  intro k r' hk
  rw [lookup_record] at hk
  split at hk
  next htime => cases hk; exact htime.symm
  next => exact hh k r' hk

namespace Session

variable {level : Level} {value : Datum} {s s' : Session}

/-! ## Steps -/

theorem step_punctual (hs : s.history.Punctual) (h : s.step = .ok s') : s'.history.Punctual := by
  rcases step_cases h with ⟨-, rfl⟩ | ⟨-, snap, hsnap, rfl⟩
  · exact hs
  · show snap.history.Punctual
    rw [hsnap.history]
    exact hs.record _

/-- **On a punctual history a step advances the clock by one**, unless it is an addition into the
clock. -/
theorem time_of_step (hs : s.history.Punctual) (hlive : s.isTerminal = false)
    (hquiet : (s.machine.fetch s.architecture).setsClock = false) (h : s.step = .ok s') :
    s'.registers.time = s.registers.time + 1 := by
  obtain ⟨snap, hsnap, rfl⟩ := exists_stepped hlive h
  show snap.machine.registers.time = _
  rw [hsnap.effect.time_eq hquiet (hs _), Machine.time_advanced]
  rfl

/-- A journey in time is no addition into the clock. -/
theorem setsClock_of_executes_travel (hx : s.executes "TTRAVEL" = true) :
    (s.machine.fetch s.architecture).setsClock = false := by
  unfold Instruction.setsClock
  rw [(executes_iff.mp hx).2]
  rfl

/-! ## Games that begin at the time zero -/

/-- The clock is the level's at the start of every game whose player's value is none or that of
another register. -/
theorem time_of_fresh (hvalue : value = .null ∨ level.playerRegister ≠ clockName)
    (h : fresh level value = .ok s) :
    s.registers.time = (Registers.ofTable level.registers).time := by
  obtain ⟨r, p, hr, -, rfl⟩ := fresh_eq_ok h
  show r.time = _
  unfold firstRegisters at hr
  split at hr
  · cases hr; rfl
  next hnull =>
    obtain ⟨n, -, hr⟩ := bind_eq_ok hr
    cases hr
    have hother := hvalue.resolve_left hnull
    rw [Registers.time_ofTable, Registers.time_ofTable, Table.get?_put, if_neg hother.symm]

/-- **The clock advances by one with every step.** Take a level whose games begin at the time zero,
and any commands that write no value of the player's into the clock. In the session that they lead
to, what is recorded for a time shows that time. If the game is not over, a step fails at most
because of a number that is too long, and otherwise it advances the clock by one unless it executes
an addition into the clock; a journey in time always advances it by one. -/
theorem clock_advances {cs : List Command} {s₀ : Session} (h₀ : create level = .ok s₀)
    (hzero : s₀.registers.time = 0)
    (hcs : ∀ v, Command.reset v ∈ cs → v = .null ∨ level.playerRegister ≠ clockName)
    (hs : played level cs = .ok s) (hlive : s.isTerminal = false) :
    (∀ k r, s.history.lookup k = some r → r.time = k) ∧
    (∀ f, s.step = .error f → f.IsTooLong) ∧
    ∀ s', s.step = .ok s' →
      ((s.machine.fetch s.architecture).setsClock = false →
        s'.registers.time = s.registers.time + 1) ∧
      (s.executes "TTRAVEL" = true → s'.registers.time = s.registers.time + 1) := by
  have hpunctual : s.history.Punctual := by
    refine (played_induct (P := fun t => t.history.Punctual) ?_ ?_ step_punctual hs).2
    · intro v t hv ht
      have hother : v = .null ∨ level.playerRegister ≠ clockName := hv.elim .inl (hcs v)
      have htime : t.registers.time = 0 := by
        rw [time_of_fresh hother ht, ← time_of_fresh (.inl rfl) h₀, hzero]
      obtain ⟨r, p, -, -, rfl⟩ := fresh_eq_ok ht
      exact History.punctual_start htime
    · intro t ht
      unfold start
      split <;> exact ht
  refine ⟨hpunctual, s.failsOnly_step, fun s' hs' => ⟨fun hquiet => ?_, fun hx => ?_⟩⟩
  · exact time_of_step hpunctual hlive hquiet hs'
  · exact time_of_step hpunctual hlive (setsClock_of_executes_travel hx) hs'

/-- `rewinding` on the player's value five turns its clock back to zero with the third step and
travels with the fourth, which takes the registers of the first: the clock is at one again. -/
theorem clock_advances_rewinding : ∃ s s' : Session,
    played rewinding [.reset (.int 5), .run 3] = .ok s ∧ s.registers.time = 0 ∧
      s.executes "TTRAVEL" = true ∧ s.step = .ok s' ∧ s'.registers.get? "A" = some 6 ∧
      s'.registers.time = 1 := by
  let cs : List Command := [.reset (.int 5), .run 3]
  let s := reached rewinding cs
  let s' := s.along 1
  have h₀ : create rewinding = .ok (reached rewinding []) :=
    eq_ok_getD (x := create rewinding) (by decide +kernel) default
  have hs : played rewinding cs = .ok s := eq_ok_getD (by decide +kernel) default
  have hs' : s.step = .ok s' := isRun_along (n := 1) (by decide +kernel) 0 Nat.zero_lt_one
  have htime : s.registers.time = 0 := by decide +kernel
  have hx : s.executes "TTRAVEL" = true := by decide +kernel
  have hother : ∀ v, Command.reset v ∈ cs → v = .null ∨ rewinding.playerRegister ≠ clockName :=
    fun v _ => .inr (by decide)
  obtain ⟨-, -, hstep⟩ := clock_advances h₀ (by decide +kernel) hother hs (by decide +kernel)
  refine ⟨s, s', hs, htime, hx, hs', by decide +kernel, ?_⟩
  rw [(hstep s' hs').2 hx, htime]
  rfl

end Session

end Defusal
