import Defusal.Proofs.Session.Runner
import Defusal.Window.Basic

/-!
# Ways of playing

A game can be played by plain steps, by a run with a budget, by the runner, by hand in a window, or
by the timer of a window. All of these come to the same session (`drivers_agree`), whatever the
program does and wherever the game ends.

The runner has one condition more. At the end of a game it says the time, and for a lost game the
line, and where such a number is too long to be written the call fails, although the session is
there (`drivers_disagree`).
-/

namespace Defusal

variable {s s' : Session} {n fuel : Nat}

/-! ## The runner -/

namespace Runner

variable {r : Runner}

/-- The numbers in what the runner says at the end of a run can be written. -/
def Announceable (s : Session) : Prop :=
  match s.status with
  | .won => s.registers.time.natAbs < Numeral.writeLimit
  | .lost => s.pc.natAbs < Numeral.writeLimit ∧ s.registers.time.natAbs < Numeral.writeLimit
  | _ => True

theorem exists_verdict_iff (s : Session) : (∃ text, verdict s = .ok text) ↔ Announceable s := by
  unfold verdict Announceable
  cases s.status with
  | won => exact exists_bind_pure_iff.trans Numeral.exists_write_iff
  | lost =>
    dsimp only
    rw [← Numeral.exists_write_iff, ← Numeral.exists_write_iff]
    constructor
    · rintro ⟨text, h⟩
      obtain ⟨line, hline, h⟩ := bind_eq_ok h
      obtain ⟨time, htime, -⟩ := bind_eq_ok h
      exact ⟨⟨line, hline⟩, time, htime⟩
    · rintro ⟨⟨line, hline⟩, time, htime⟩
      rw [hline, htime]
      exact ⟨_, rfl⟩
  | _ => exact iff_of_true ⟨"", rfl⟩ trivial

/-- A runner that nobody stops has slept once before each of its steps. -/
theorem Faithful.of_never {limit : Option Int} (h : Faithful .never limit s r) :
    r.running = true ∧ r.sleeps = r.steps := by
  cases h.last with
  | none hsteps hsleeps hrunning => exact ⟨hrunning, hsleeps.trans hsteps.symm⟩
  | woken _ hstop => exact nomatch hstop
  | stepped _ hsleeps _ hrunning => exact ⟨hrunning, hsleeps⟩

/-- A run that nobody stops makes its steps unless the game is over before. -/
theorem advance_of_run_never (h : run? .never (some n) fuel s = .ok (some r)) :
    s.start.advance n = .ok r.session ∧ r.sleeps = r.steps ∧ r.seen.length = r.steps ∧
      r.steps ≤ n ∧ (r.steps < n → r.session.isTerminal = true) := by
  obtain ⟨r, hr, hover, rfl⟩ := faithful_of_run h
  obtain ⟨hrunning, hsleeps⟩ := hr.of_never
  have hwithin : r.steps ≤ n := by
    have h := hr.within n rfl
    omega
  have hterminal : r.steps < n → r.session.isTerminal = true := by
    intro hlt
    refine Bool.of_not_eq_false fun hlive => hover ⟨hrunning, hlive, ?_⟩
    exact decide_eq_false (Int.not_le.mpr (Int.ofNat_lt.mpr hlt))
  refine ⟨?_, hsleeps, hr.seen_length, hwithin, hterminal⟩
  -- The steps that were not made would have changed nothing.
  rcases Nat.lt_or_eq_of_le hwithin with hlt | heq
  · exact Session.advance_eq_of_isTerminal hr.advanced (hterminal hlt) hwithin
  · rw [← heq]
    exact hr.advanced

/-- A run that nobody stops fails where the steps fail, and ends where they lead. -/
theorem run_never (hn : 1 ≤ n) (fuel : Nat) (s : Session) :
    (∃ f, s.advance n = .error f ∧ run? .never (some n) fuel s = .error f) ∨
      ∃ r, s.advance n = .ok r.session ∧ run? .never (some n) fuel s = .ok (some r) := by
  rw [← Session.advance_start hn s]
  cases hrun : run? .never (some (n : Int)) fuel s with
  | error f =>
    obtain ⟨k, hk, hle⟩ := advance_of_run_eq_error hrun
    exact .inl ⟨f, Session.advance_eq_error_of_le hk (Int.ofNat_le.mp (hle n rfl)), rfl⟩
  | ok found =>
    cases found with
    | none => exact absurd hrun run_ne_none
    | some r => exact .inr ⟨r, (advance_of_run_never hrun).1, rfl⟩

theorem call_never_of_error (hn : 1 ≤ n) {f : Fault} (h : s.advance n = .error f) :
    call? .never (some n) fuel s = .error f := by
  unfold call?
  rcases run_never hn fuel s with ⟨g, hg, hrun⟩ | ⟨r, hr, -⟩
  · rw [h] at hg
    cases hg
    rw [hrun]
    rfl
  · rw [h] at hr
    cases hr

theorem run_never_of_ok (hn : 1 ≤ n) (fuel : Nat) (h : s.advance n = .ok s') :
    ∃ r, run? .never (some n) fuel s = .ok (some r) ∧ r.session = s' := by
  rcases run_never hn fuel s with ⟨f, hf, -⟩ | ⟨r, hr, hrun⟩
  · rw [h] at hf
    cases hf
  · rw [h] at hr
    cases hr
    exact ⟨r, hrun, rfl⟩

/-- After its run a call only has to say how the game ended. -/
theorem call_of_run {plan : StopPlan} {limit : Option Int}
    (h : run? plan limit fuel s = .ok (some r)) : call? plan limit fuel s =
      (verdict r.session).map fun text => some ⟨r.session, r, text⟩ := by
  unfold call?
  rw [h]
  show (verdict r.session >>= fun text => pure (some (Answer.mk r.session r text))) = _
  cases verdict r.session <;> rfl

/-- A call that nobody stops gives the session back that the steps lead to, if the numbers that it
has to say can be written. -/
theorem exists_call_never_iff (hn : 1 ≤ n) (h : s.advance n = .ok s') :
    (∃ a, call? .never (some n) fuel s = .ok (some a) ∧ a.returned = s') ↔ Announceable s' := by
  obtain ⟨r, hrun, rfl⟩ := run_never_of_ok hn fuel h
  rw [← exists_verdict_iff, call_of_run hrun]
  cases verdict r.session with
  | error f => exact iff_of_false (fun ⟨a, ha, _⟩ => nomatch ha) fun ⟨text, htext⟩ => nomatch htext
  | ok text => exact iff_of_true ⟨_, rfl, rfl⟩ ⟨text, rfl⟩

end Runner

/-! ## The window -/

namespace Window

variable {w : Window} {e : Event}

theorem session_display (w : Window) (s : Session) : (w.display s).1.session = some s := by
  unfold display
  dsimp only
  split
  · rfl
  · split <;> rfl

/-- An event that makes one step of the game, or is broken off where none can be made. -/
structure IsStep (e : Event) : Prop where
  session : ∀ (w : Window) (s : Session), w.session = some s →
    (w.handle e).1.session = some (s.step.toOption.getD s)
  fault : ∀ (w : Window) (s : Session) (f : Fault), w.session = some s → s.step = .error f →
    (w.handle e).2 = some f

theorem isStep_step : IsStep .step where
  session w s hw := by
    show w.step.1.session = _
    unfold step displayIfOk
    rw [hw, ← Session.step_start s]
    dsimp only
    cases s.start.step with
    | error f => exact hw
    | ok s' => exact session_display _ s'
  fault w s f hw hf := by
    show w.step.2 = _
    unfold step displayIfOk
    rw [hw]
    dsimp only
    rw [Session.step_start, hf]

theorem isStep_tick : IsStep .tick where
  session w s hw := by
    show w.tick.1.session = _
    unfold tick
    rw [hw]
    dsimp only
    split
    next hover =>
      rw [Session.step_of_isTerminal hover]
      exact hw
    next =>
      cases s.step with
      | error f => exact hw
      | ok s' => exact session_display _ s'
  fault w s f hw hf := by
    show w.tick.2 = _
    unfold tick
    rw [hw]
    dsimp only
    split
    next hover => cases (Session.step_of_isTerminal hover).symm.trans hf
    next => rw [hf]

theorem session_run (hw : w.session = some s) (hwaiting : s.status = .waiting) :
    (w.handle .run).1.session = some s.start := by
  show w.run.1.session = _
  unfold run
  rw [hw]
  dsimp only
  rw [if_pos hwaiting]
  exact session_display _ s.start

/-- The window after some events; one that breaks off does not keep the next from happening. -/
def follow (w : Window) (events : List Event) : Window := events.foldl (fun w e => (w.handle e).1) w

/-- Events that make steps lead a window's game along its run. -/
theorem session_follow_replicate (he : IsStep e) (hw : w.session = some s) (n : Nat) :
    (w.follow (List.replicate n e)).session = some (s.along n) := by
  induction n with
  | zero => exact hw
  | succ n ih =>
    -- The run from a session grows at its end, and so do the events.
    unfold follow at ih ⊢
    rw [List.replicate_succ', List.foldl_append]
    exact he.session _ _ ih

theorem session_follow (he : IsStep e) (hw : w.session = some s) (h : s.advance n = .ok s') :
    (w.follow (List.replicate n e)).session = some s' := by
  rw [session_follow_replicate he hw, Session.along_of_advance h]

/-- After so many events of a sort the window has come to a game that any further ones leave as it
is, broken off with a fault. -/
def BreaksOff (w : Window) (e : Event) (k : Nat) (t : Session) (f : Fault) : Prop :=
  ∀ n ≥ k, (w.follow (List.replicate n e)).session = some t ∧
    ((w.follow (List.replicate n e)).handle e).2 = some f

/-- Events that make steps are broken off at the first step that cannot be made. -/
theorem breaksOff_of_step (he : IsStep e) (hw : w.session = some s) {k : Nat} {t : Session}
    {f : Fault} (ht : s.advance k = .ok t) (hf : t.step = .error f) : w.BreaksOff e k t f := by
  intro n hle
  have hsession : (w.follow (List.replicate n e)).session = some t := by
    rw [session_follow_replicate he hw, Session.along_of_step_eq_error ht hf hle]
  exact ⟨hsession, he.fault _ t f hsession hf⟩

/-- **All ways of playing agree.** A run with a budget is as many plain steps. So is a run of the
runner that nobody stops, which sleeps, steps and tells its observer equally often and less often
than it may only if the game is over; a call of the runner gives the session back exactly if the
numbers that it has to say can be written. And so are steps by hand in a window, and, after a start,
ticks of its timer.

Where a step cannot be made, all of them fail there and with its fault: the runs as a whole, and in
a window that step and any further ones. -/
theorem drivers_agree (hn : 1 ≤ n) (fuel : Nat) (s : Session) :
    s.run n = s.advance n ∧
      (∀ f, s.advance n = .error f → Runner.call? .never (some n) fuel s = .error f ∧
        ∃ k < n, ∃ t, s.advance k = .ok t ∧ t.step = .error f ∧
          ∀ w : Window, w.session = some s → w.BreaksOff .step k t f ∧
            (s.status = .waiting → (w.handle .run).1.BreaksOff .tick k t.start f)) ∧
      ∀ s', s.advance n = .ok s' →
        (∃ r, Runner.run? .never (some n) fuel s = .ok (some r) ∧ r.session = s' ∧
          r.sleeps = r.steps ∧ r.seen.length = r.steps ∧ r.steps ≤ n ∧
          (r.steps < n → s'.isTerminal = true)) ∧
        ((∃ a, Runner.call? .never (some n) fuel s = .ok (some a) ∧ a.returned = s') ↔
          Runner.Announceable s') ∧
        ∀ w : Window, w.session = some s →
          (w.follow (List.replicate n .step)).session = some s' ∧
            (s.status = .waiting →
              (w.follow (.run :: List.replicate n .tick)).session = some s') := by
  refine ⟨Session.run_eq_advance hn s, fun f hf => ⟨Runner.call_never_of_error hn hf, ?_⟩,
    fun s' h => ?_⟩
  · obtain ⟨k, hk, t, ht, hstep⟩ := Session.exists_of_advance_eq_error hf
    refine ⟨k, hk, t, ht, hstep, fun w hw => ⟨breaksOff_of_step isStep_step hw ht hstep, ?_⟩⟩
    exact fun hwaiting => breaksOff_of_step isStep_tick (session_run hw hwaiting)
      (Session.start_advance_of_ok ht) ((Session.step_start t).trans hstep)
  refine ⟨?_, Runner.exists_call_never_iff hn h, fun w hw => ⟨session_follow isStep_step hw h, ?_⟩⟩
  · obtain ⟨r, hrun, rfl⟩ := Runner.run_never_of_ok hn fuel h
    exact ⟨r, hrun, rfl, (Runner.advance_of_run_never hrun).2⟩
  · intro hwaiting
    rw [← Session.advance_start hn s] at h
    exact session_follow isStep_tick (session_run hw hwaiting) h

/-- A window without levels that shows a game. -/
def showing (s : Session) : Window := { new ⟨[], "monospace"⟩ [] with session := some s }

/-- The tutorial on its solution is won in two of three steps, however it is played. -/
theorem drivers_agree_tutorial :
    let s := Session.reached .tutorial [.reset (.int 5)]
    ∃ s' a r, s'.status = .won ∧ s.run 3 = .ok s' ∧
      Runner.call? .never (some 3) 0 s = .ok (some a) ∧ a.returned = s' ∧
      Runner.run? .never (some 3) 0 s = .ok (some r) ∧ r.sleeps = r.steps ∧ r.steps ≤ 3 ∧
      ((showing s).follow [.step, .step, .step]).session = some s' ∧
      ((showing s).follow [.run, .tick, .tick, .tick]).session = some s' := by
  intro s
  let s' := (s.advance 3).toOption.getD default
  have hs' : s.advance 3 = .ok s' := eq_ok_getD (by decide +kernel) default
  have hwon : s'.status = .won := by decide +kernel
  have hsaid : Runner.Announceable s' := by
    unfold Runner.Announceable
    rw [hwon]
    decide +kernel
  obtain ⟨hrun, -, hall⟩ := drivers_agree (n := 3) (by decide) 0 s
  obtain ⟨⟨r, hr, -, hsleeps, -, hsteps, -⟩, hcall, hwindow⟩ := hall s' hs'
  obtain ⟨a, ha, hreturned⟩ := hcall.mpr hsaid
  obtain ⟨hhand, htimer⟩ := hwindow (showing s) rfl
  exact ⟨s', a, r, hwon, hrun.trans hs', ha, hreturned, hr, hsleeps, hsteps, hhand,
    htimer (by decide +kernel)⟩

/-- A level that is won at once, at the last time that can be written. -/
def lastMoment : Level where
  id := "last_moment"
  name := "Last moment"
  program := .list [.text "DEFUSE"]
  registers := .ofList [("A", 0), ("T", Numeral.writeLimit - 1)]

/-- Not all ways of playing agree: a run with a budget wins this game, and the runner fails because
it cannot say when. -/
theorem drivers_disagree :
    ∃ s s', Session.create lastMoment = .ok s ∧ s.run 1 = .ok s' ∧ s'.status = .won ∧
      Runner.call? .never (some 1) 0 s = .error .tooLongToWrite := by
  let s := (Session.create lastMoment).toOption.getD default
  let s' := (s.advance 1).toOption.getD default
  have hs : Session.create lastMoment = .ok s := eq_ok_getD (by decide +kernel) default
  have hs' : s.advance 1 = .ok s' := eq_ok_getD (by decide +kernel) default
  have hwon : s'.status = .won := by decide +kernel
  have htime : Numeral.writeLimit ≤ s'.registers.time.natAbs := by decide +kernel
  refine ⟨s, s', hs, (Session.run_eq_advance (by decide) s).trans hs', hwon, ?_⟩
  obtain ⟨r, hrun, hr⟩ := Runner.run_never_of_ok (by decide) 0 hs'
  have hverdict : Runner.verdict s' = .error .tooLongToWrite := by
    unfold Runner.verdict
    rw [hwon]
    dsimp only
    rw [Numeral.write_of_le htime]
    rfl
  refine (Runner.call_of_run hrun).trans ?_
  rw [hr, hverdict]
  rfl

end Window

end Defusal
