import Defusal.Proofs.Session.Coherence

/-!
# Plain steps

`Session.advance n s` is the session that `n` steps lead to from `s`, where all of them can be made.
It is what other ways of playing are measured by. A run with a budget comes to the same
(`run_eq_advance`): it leaves out only steps that do nothing, and starting does not matter to a step
(`step_start`).
-/

namespace Defusal.Session

variable {s s' t : Session} {m n : Nat}

/-- The session after so many steps. -/
def advance : Nat → Session → Except Fault Session
  | 0, s => .ok s
  | n + 1, s => do advance n (← s.step)

theorem advance_add (m n : Nat) (s : Session) : advance (m + n) s = advance m s >>= advance n := by
  induction m generalizing s with
  | zero => rw [Nat.zero_add]; rfl
  | succ m ih =>
    rw [Nat.succ_add]
    unfold advance
    cases s.step with
    | error f => rfl
    | ok t => exact ih t

theorem advance_one (s : Session) : advance 1 s = s.step := by
  unfold advance
  cases s.step <;> rfl

/-- The last step of several comes after the others. -/
theorem advance_succ (n : Nat) (s : Session) : advance (n + 1) s = advance n s >>= step := by
  rw [advance_add]
  exact congrArg (advance n s >>= ·) (funext advance_one)

theorem advance_of_isTerminal (h : s.isTerminal = true) (n : Nat) : s.advance n = .ok s := by
  induction n with
  | zero => rfl
  | succ n ih =>
    unfold advance
    rw [step_of_isTerminal h]
    exact ih

/-- A step that cannot be made cannot be passed over. -/
theorem advance_eq_error_of_le {f : Fault} (h : s.advance m = .error f) (hle : m ≤ n) :
    s.advance n = .error f := by
  obtain ⟨k, rfl⟩ := Nat.exists_eq_add_of_le hle
  rw [advance_add, h]
  rfl

/-- Steps that cannot all be made lead to a session from which the next one cannot. -/
theorem exists_of_advance_eq_error {f : Fault} (h : s.advance n = .error f) :
    ∃ k < n, ∃ t, s.advance k = .ok t ∧ t.step = .error f := by
  induction n with
  | zero => cases h
  | succ n ih =>
    rw [advance_succ] at h
    rcases bind_eq_error h with h | ⟨t, ht, h⟩
    · obtain ⟨k, hk, ht⟩ := ih h
      exact ⟨k, Nat.lt_succ_of_lt hk, ht⟩
    · exact ⟨n, Nat.lt_succ_self n, t, ht, h⟩

/-- Where the game is over, any further steps lead to the same session. -/
theorem advance_eq_of_isTerminal (h : s.advance m = .ok s') (hover : s'.isTerminal = true)
    (hle : m ≤ n) : s.advance n = .ok s' := by
  obtain ⟨k, rfl⟩ := Nat.exists_eq_add_of_le hle
  rw [advance_add, h]
  exact advance_of_isTerminal hover k

/-- Steps lead to the session that the run from a session has at that place. -/
theorem along_of_advance (h : s.advance n = .ok s') : s.along n = s' := by
  induction n generalizing s' with
  | zero => cases h; rfl
  | succ n ih =>
    rw [advance_succ] at h
    obtain ⟨t, ht, h⟩ := bind_eq_ok h
    exact step_along ((ih ht).symm ▸ h)

/-- The run from a session stays where the next step cannot be made. -/
theorem along_of_step_eq_error {f : Fault} (ht : s.advance m = .ok t) (h : t.step = .error f)
    (hle : m ≤ n) : s.along n = t := by
  induction hle with
  | refl => exact along_of_advance ht
  | step _ ih =>
    unfold along
    rw [ih, h]
    rfl

/-! ## Starting -/

theorem start_status_ne_waiting (s : Session) : s.start.status ≠ .waiting := by
  unfold start
  split
  next => exact nofun
  next hw => exact hw

theorem start_of_ne_waiting (h : s.status ≠ .waiting) : s.start = s := by
  unfold start
  rw [if_neg h]

/-- A step does the same to a game that waits and to one that was started. -/
theorem step_start (s : Session) : s.start.step = s.step := by
  by_cases hw : s.status = .waiting
  · unfold start step isTerminal
    rw [if_pos hw, hw]
    rfl
  · rw [start_of_ne_waiting hw]

/-- Once a game does not wait, steps do not make it wait. -/
theorem step_ne_waiting (hs : s.status ≠ .waiting) (h : s.step = .ok s') :
    s'.status ≠ .waiting := by
  rcases step_cases h with ⟨-, rfl⟩ | ⟨-, snap, -, rfl⟩
  · exact hs
  · show Status.ofOutcome snap.machine.outcome ≠ .waiting
    rcases snap.machine.outcome with _ | _ | _ <;> exact nofun

theorem advance_ne_waiting (hs : s.status ≠ .waiting) (h : s.advance n = .ok s') :
    s'.status ≠ .waiting := by
  induction n generalizing s with
  | zero => cases h; exact hs
  | succ n ih =>
    obtain ⟨t, ht, h⟩ := bind_eq_ok h
    exact ih (step_ne_waiting hs ht) h

/-- What a started game is led to needs no start. -/
theorem start_of_advance_start (h : s.start.advance n = .ok s') : s'.start = s' :=
  start_of_ne_waiting (advance_ne_waiting (start_status_ne_waiting s) h)

theorem advance_start (hn : 1 ≤ n) (s : Session) : s.start.advance n = s.advance n := by
  obtain ⟨k, rfl⟩ := Nat.exists_eq_add_of_le' hn
  unfold advance
  rw [step_start]

/-- From a started game steps lead to what they lead to without the start, started. -/
theorem start_advance_of_ok (h : s.advance n = .ok t) : s.start.advance n = .ok t.start := by
  cases n with
  | zero => cases h; rfl
  | succ n =>
    rw [← advance_start (Nat.succ_pos n)] at h
    rw [start_of_advance_start h]
    exact h

/-! ## Runs with a budget -/

theorem steps_eq_advance (n : Nat) (s : Session) : steps n s = s.advance n := by
  induction n generalizing s with
  | zero => rfl
  | succ n ih =>
    unfold steps
    split
    next hover => exact (advance_of_isTerminal hover _).symm
    next =>
      unfold advance
      cases s.step with
      | error f => rfl
      | ok t => exact ih t

/-- A run makes as many steps as its budget has, after a start. -/
theorem run_eq_start_advance (budget : Int) (s : Session) :
    s.run budget = s.start.advance budget.toNat :=
  steps_eq_advance budget.toNat s.start

/-- **A run with a budget is as many steps.** -/
theorem run_eq_advance (hn : 1 ≤ n) (s : Session) : s.run n = s.advance n :=
  (run_eq_start_advance n s).trans (advance_start hn s)

end Defusal.Session
