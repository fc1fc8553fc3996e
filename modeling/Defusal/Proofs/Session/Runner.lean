import Defusal.Proofs.Session.Advance
import Defusal.Session.Runner

/-!
# The turns of a run

A run of the runner consists of turns: a sleep and then a step, of which the observer is told. Stop
may be called in any sleep and after any step, the game may end, and a limit may be reached.
`turn_cases` says what a turn can be, and `Faithful` what is true before and after every turn: the
session is as many steps on as were made, the observer was told all of them in order, and stop was
not called before the last turn. Every turn keeps it (`Turn.faithful`), so it holds at the end of a
run (`faithful_of_run`).

A run fails only at a step that cannot be made (`advance_of_run_eq_error`), and with a limit it
always comes to its end (`run_ne_none`).
-/

namespace Defusal.Runner

variable {plan : StopPlan} {limit : Option Int} {r r' : Runner} {s s' : Session} {fuel : Nat}

/-! ## One turn -/

/-- The run goes on: stop was not called, the game is not over, and the limit is not reached. -/
def Goes (limit : Option Int) (r : Runner) : Prop :=
  r.running = true ∧ r.session.isTerminal = false ∧ isReached limit r.steps = false

/-- The runner after a sleep in which stop was called. -/
def woken (r : Runner) : Runner := { r with sleeps := r.sleeps + 1, running := false }

/-- The runner after a sleep in which stop was not called and a step to a session. -/
def stepped (plan : StopPlan) (r : Runner) (s : Session) : Runner where
  session := s
  running := !plan.afterStep (r.steps + 1)
  steps := r.steps + 1
  sleeps := r.sleeps + 1
  seen := r.seen ++ [s]

/-- What a turn of a runner can be; the flag says whether another turn follows. -/
inductive Turn (plan : StopPlan) (limit : Option Int) (r : Runner) : Runner → Bool → Prop
  | ended (h : ¬ r.Goes limit) : Turn plan limit r r false
  | woken (hgoes : r.Goes limit) (hstop : plan.inSleep (r.sleeps + 1) = true) :
      Turn plan limit r r.woken false
  | stepped {s : Session} (hgoes : r.Goes limit) (hawake : plan.inSleep (r.sleeps + 1) = false)
      (hs : r.session.step = .ok s) : Turn plan limit r (r.stepped plan s) true

theorem goes_iff : r.Goes limit ↔
    (!r.running || r.session.isTerminal || isReached limit r.steps) = false := by
  simp only [Goes, Bool.or_eq_false_iff, Bool.not_eq_false', and_assoc]

theorem turn_of_not_goes (h : ¬ r.Goes limit) : r.turn plan limit = .ok (r, false) :=
  if_pos (Bool.of_not_eq_false (mt goes_iff.mpr h))

theorem turn_of_goes (h : r.Goes limit) : r.turn plan limit =
    if plan.inSleep (r.sleeps + 1) then .ok (r.woken, false)
    else do return (r.stepped plan (← r.session.step), true) := by
  obtain ⟨hrunning, hlive, hbelow⟩ := h
  unfold turn sleep stopIf
  simp only [hrunning, hlive, hbelow, Bool.not_true, Bool.or_self, Bool.false_eq_true, if_false]
  -- The flag is looked at again after the sleep; only a stop in the sleep can have lowered it.
  cases plan.inSleep (r.sleeps + 1) with
  | true => rfl
  | false =>
    unfold step
    simp only [Bool.false_eq_true, if_false, Bool.not_true]
    cases r.session.step with
    | error f => rfl
    | ok s =>
      show Except.ok _ = Except.ok _
      unfold tell stopIf stepped
      cases plan.afterStep (r.steps + 1) <;> rfl

/-- **A turn** finds that the run is over, or is woken by a stop, or makes one step. -/
theorem turn_cases {goesOn : Bool} (h : r.turn plan limit = .ok (r', goesOn)) :
    Turn plan limit r r' goesOn := by
  by_cases hgoes : r.Goes limit
  · rw [turn_of_goes hgoes] at h
    split at h
    next hstop => cases h; exact .woken hgoes hstop
    next hawake =>
      obtain ⟨s, hs, h⟩ := bind_eq_ok h
      cases h
      exact .stepped hgoes (Bool.eq_false_iff.mpr hawake) hs
  · rw [turn_of_not_goes hgoes] at h
    cases h
    exact .ended hgoes

/-- A turn fails only where a step does. -/
theorem step_of_turn_eq_error {f : Fault} (h : r.turn plan limit = .error f) :
    r.Goes limit ∧ r.session.step = .error f := by
  by_cases hgoes : r.Goes limit
  · rw [turn_of_goes hgoes] at h
    split at h
    next => cases h
    next =>
      rcases bind_eq_error h with h | ⟨s, -, h⟩
      · exact ⟨hgoes, h⟩
      · cases h
  · rw [turn_of_not_goes hgoes] at h
    cases h

/-- A runner that has a limit and goes on is below it. -/
theorem Goes.steps_lt {n : Int} (h : r.Goes (some n)) : (r.steps : Int) < n := by
  have hbelow : ¬ n ≤ (r.steps : Int) := of_decide_eq_false h.2.2
  omega

/-! ## The turns of a run -/

/-- How the last turn of a runner went: there was none yet, or stop was called in its sleep, or it
made a step, after which stop was called or not. -/
inductive LastTurn (plan : StopPlan) (r : Runner) : Prop
  | none (hsteps : r.steps = 0) (hsleeps : r.sleeps = 0) (hrunning : r.running = true)
  | woken (hsleeps : r.sleeps = r.steps + 1) (hstop : plan.inSleep r.sleeps = true)
      (hrunning : r.running = false)
  | stepped (hsteps : 0 < r.steps) (hsleeps : r.sleeps = r.steps)
      (hawake : plan.inSleep r.steps = false) (hrunning : r.running = !plan.afterStep r.steps)

/-- What is true before and after every turn of a run from a session. -/
structure Faithful (plan : StopPlan) (limit : Option Int) (s : Session) (r : Runner) : Prop where
  /-- The session is as many steps on as were made. -/
  advanced : s.advance r.steps = .ok r.session
  seen_length : r.seen.length = r.steps
  /-- The observer was told the session after each step. -/
  seen : ∀ (j : Nat) (t : Session), r.seen[j]? = some t → s.advance (j + 1) = .ok t
  within : ∀ n, limit = some n → (r.steps : Int) ≤ max 0 n
  /-- Stop was not called in a turn that was followed by another. -/
  quiet : ∀ n, 1 ≤ n → n < r.sleeps → plan.inSleep n = false ∧ plan.afterStep n = false
  last : LastTurn plan r

theorem faithful_start (plan : StopPlan) (limit : Option Int) (s : Session) :
    Faithful plan limit s.start (start s) where
  advanced := rfl
  seen_length := rfl
  seen _ _ h := nomatch h
  within n _ := Int.le_max_left 0 n
  quiet n _ hn := absurd hn (Nat.not_lt_zero n)
  last := .none rfl rfl rfl

/-- A runner that still runs has not been stopped in any turn. -/
theorem Faithful.undisturbed (h : Faithful plan limit s r) (hrunning : r.running = true) :
    r.sleeps = r.steps ∧
      ∀ n, 1 ≤ n → n ≤ r.steps → plan.inSleep n = false ∧ plan.afterStep n = false := by
  cases h.last with
  | none hsteps hsleeps =>
    exact ⟨hsleeps.trans hsteps.symm, fun n hn hle => absurd hle (by omega)⟩
  | woken _ _ hstopped => exact absurd (hrunning.symm.trans hstopped) (nomatch ·)
  | stepped _ hsleeps hawake hafter =>
    refine ⟨hsleeps, fun n hn hle => ?_⟩
    rcases Nat.lt_or_eq_of_le hle with hlt | rfl
    · exact h.quiet n hn (hsleeps ▸ hlt)
    · exact ⟨hawake, by simpa using hrunning.symm.trans hafter⟩

/-- **Every turn keeps a run faithful.** -/
theorem Turn.faithful {goesOn : Bool} (ht : Turn plan limit r r' goesOn)
    (h : Faithful plan limit s r) : Faithful plan limit s r' := by
  cases ht with
  | ended => exact h
  | woken hgoes hstop =>
    obtain ⟨hsleeps, hquiet⟩ := h.undisturbed hgoes.1
    refine ⟨h.advanced, h.seen_length, h.seen, h.within, fun n hn hlt => ?_,
      .woken (congrArg (· + 1) hsleeps) hstop rfl⟩
    exact hquiet n hn (hsleeps ▸ Nat.le_of_lt_succ hlt)
  | @stepped s' hgoes hawake hs =>
    obtain ⟨hsleeps, hquiet⟩ := h.undisturbed hgoes.1
    have hadvanced : s.advance (r.steps + 1) = .ok s' := by
      rw [Session.advance_succ, h.advanced]
      exact hs
    refine ⟨hadvanced, ?_, fun j t hj => ?_, fun n hn => ?_, fun n hn hlt => ?_, ?_⟩
    · show (r.seen ++ [s']).length = r.steps + 1
      rw [List.length_append, h.seen_length, List.length_singleton]
    · -- Only the last of the sessions is new.
      have hj : (r.seen ++ [s'])[j]? = some t := hj
      rw [List.getElem?_append] at hj
      split at hj
      next => exact h.seen j t hj
      next hge =>
        rw [List.getElem?_singleton] at hj
        split at hj
        next hlast =>
          cases hj
          rw [h.seen_length] at hge hlast
          have hj : j = r.steps := by omega
          rw [hj]
          exact hadvanced
        next => cases hj
    · have hbelow := (hn ▸ hgoes).steps_lt
      show ((r.steps + 1 : Nat) : Int) ≤ max 0 n
      omega
    · exact hquiet n hn (hsleeps ▸ Nat.le_of_lt_succ hlt)
    · refine .stepped (Nat.succ_pos _) (congrArg (· + 1) hsleeps) ?_ rfl
      rw [hsleeps] at hawake
      exact hawake

/-- The turns of a run keep it faithful, and they end where it does not go on. -/
theorem Faithful.of_loop (h : Faithful plan limit s r)
    (hloop : loop plan limit fuel r = .ok (some r')) :
    Faithful plan limit s r' ∧ ¬ r'.Goes limit := by
  induction fuel generalizing r with
  | zero => cases hloop
  | succ fuel ih =>
    unfold loop at hloop
    obtain ⟨⟨r₁, goesOn⟩, hturn, hloop⟩ := bind_eq_ok hloop
    have hturn := turn_cases hturn
    have h₁ := hturn.faithful h
    cases goesOn with
    | true => exact ih h₁ hloop
    | false =>
      cases hloop
      -- The last turn changed nothing, or it was woken and left the flag down.
      refine ⟨h₁, fun hgoes => ?_⟩
      cases hturn with
      | ended hnot => exact hnot hgoes
      | woken => exact nomatch hgoes.1

/-- What a run ends with was faithful before its flag was lowered. -/
theorem faithful_of_run (h : run? plan limit fuel s = .ok (some r)) :
    ∃ r', Faithful plan limit s.start r' ∧ ¬ r'.Goes limit ∧ r = r'.stop := by
  obtain ⟨found, hloop, h⟩ := bind_eq_ok h
  cases found with
  | none => cases h
  | some r' =>
    cases h
    obtain ⟨hfaithful, hover⟩ := (faithful_start plan limit s).of_loop hloop
    exact ⟨r', hfaithful, hover, rfl⟩

/-- A run that fails does so at one of the steps that it may make. -/
theorem Faithful.advance_of_loop_eq_error {f : Fault} (h : Faithful plan limit s r)
    (hloop : loop plan limit fuel r = .error f) :
    ∃ k, s.advance k = .error f ∧ ∀ n, limit = some n → (k : Int) ≤ n := by
  induction fuel generalizing r with
  | zero => cases hloop
  | succ fuel ih =>
    unfold loop at hloop
    rcases bind_eq_error hloop with hturn | ⟨⟨r₁, goesOn⟩, hturn, hloop⟩
    · obtain ⟨hgoes, hstep⟩ := step_of_turn_eq_error hturn
      refine ⟨r.steps + 1, ?_, fun n hn => ?_⟩
      · rw [Session.advance_succ, h.advanced]
        exact hstep
      · exact Int.add_one_le_of_lt (hn ▸ hgoes).steps_lt
    · cases goesOn with
      | true => exact ih ((turn_cases hturn).faithful h) hloop
      | false => cases hloop

/-- More fuel does not change a run that ended. -/
theorem loop_of_le {fuel' : Nat} (hle : fuel ≤ fuel')
    (hloop : loop plan limit fuel r = .ok (some r')) :
    loop plan limit fuel' r = .ok (some r') := by
  induction fuel generalizing fuel' r with
  | zero => cases hloop
  | succ fuel ih =>
    obtain ⟨more, rfl⟩ := Nat.exists_eq_add_of_le' (Nat.le_trans (Nat.succ_pos fuel) hle)
    unfold loop at hloop ⊢
    obtain ⟨⟨r₁, goesOn⟩, hturn, hloop⟩ := bind_eq_ok hloop
    rw [hturn]
    cases goesOn with
    | true => exact ih (Nat.le_of_succ_le_succ hle) hloop
    | false => exact hloop

/-- With a limit the fuel is never used up. -/
theorem loop_ne_none {n : Int} (hfuel : n.toNat - r.steps < fuel) :
    loop plan (some n) fuel r ≠ .ok none := by
  induction fuel generalizing r with
  | zero => exact absurd hfuel (Nat.not_lt_zero _)
  | succ fuel ih =>
    intro hloop
    unfold loop at hloop
    obtain ⟨⟨r₁, goesOn⟩, hturn, hloop⟩ := bind_eq_ok hloop
    have hturn := turn_cases hturn
    cases goesOn with
    | false => cases hloop
    | true =>
      cases hturn with
      | @stepped s hgoes =>
        -- A turn that another follows makes a step, so the way to the limit gets shorter.
        have hlt := hgoes.steps_lt
        refine ih ?_ hloop
        show n.toNat - (r.steps + 1) < fuel
        omega

theorem run_ne_none {n : Int} : run? plan (some n) fuel s ≠ .ok none := by
  intro h
  obtain ⟨found, hloop, h⟩ := bind_eq_ok h
  cases found with
  | none => exact loop_ne_none (Nat.lt_succ_self _) hloop
  | some r => cases h

theorem advance_of_run_eq_error {f : Fault} (h : run? plan limit fuel s = .error f) :
    ∃ k, s.start.advance k = .error f ∧ ∀ n, limit = some n → (k : Int) ≤ n := by
  rcases bind_eq_error h with hloop | ⟨found, -, h⟩
  · exact (faithful_start plan limit s).advance_of_loop_eq_error hloop
  · cases h

end Defusal.Runner
