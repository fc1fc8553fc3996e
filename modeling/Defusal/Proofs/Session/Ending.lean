import Defusal.Proofs.Session.Advance

/-!
# How games end

`EndsAfter` says after how many steps a game is over, `Winnable` that some number of steps wins it.
Both are proved from the far end of the game: a step before the end adds one to the number of steps
(`EndsAfter.of_step`), and a game that cannot be won after its next step, whatever that is, cannot
be won now (`not_winnable_of_step`). A game that goes on for ever is not won if what keeps it going
is an invariant (`not_winnable_of_invariant`).

Starting a game and running it with a budget bring nothing that steps do not bring, so it does not
matter to `Winnable` which commands are given, as long as none of them is a reset
(`winnable_iff_commands`).
-/

namespace Defusal.Session

variable {s s' t : Session} {n : Nat}

/-! ## The number of steps -/

/-- A game is over after exactly so many steps. -/
structure EndsAfter (s : Session) (n : Nat) (s' : Session) : Prop where
  leads : s.advance n = .ok s'
  terminal : s'.isTerminal = true
  before : ∀ m < n, ∀ t, s.advance m = .ok t → t.isTerminal = false

theorem endsAfter_zero (h : s.isTerminal = true) : s.EndsAfter 0 s where
  leads := rfl
  terminal := h
  before := fun _ hm => nomatch hm

theorem EndsAfter.of_step (h : t.EndsAfter n s') (hlive : s.isTerminal = false)
    (hs : s.step = .ok t) : s.EndsAfter (n + 1) s' where
  leads := by
    unfold advance
    rw [hs]
    exact h.leads
  terminal := h.terminal
  before := by
    intro m hm u hu
    cases m with
    | zero => cases hu; exact hlive
    | succ m =>
      unfold advance at hu
      rw [hs] at hu
      exact h.before m (Nat.lt_of_succ_lt_succ hm) u hu

/-! ## Winning -/

/-- Some number of steps wins a game. -/
def Winnable (s : Session) : Prop := ∃ n s', s.advance n = .ok s' ∧ s'.status = .won

theorem not_winnable_of_step (hs : s.status ≠ .won)
    (hnext : ∀ s', s.step = .ok s' → ¬ Winnable s') : ¬ Winnable s := by
  rintro ⟨n, s', h, hwon⟩
  cases n with
  | zero => cases h; exact hs hwon
  | succ n =>
    obtain ⟨t, ht, h⟩ := bind_eq_ok h
    exact hnext t ht ⟨n, s', h, hwon⟩

/-- A game that so many steps lose is never won. -/
theorem not_winnable_of_advance (h : s.advance n = .ok s') (hs' : s'.status = .lost) :
    ¬ Winnable s := by
  rintro ⟨m, t, ht, hwon⟩
  have hover : ∀ {u : Session}, u.status = .lost ∨ u.status = .won → u.isTerminal = true := by
    unfold isTerminal
    rintro u (hu | hu) <;> rw [hu] <;> rfl
  -- Once it is over the game stays as it is, so the two ends are one.
  have hsame : s' = t := by
    rcases Nat.le_total n m with hle | hle
    · have h := advance_eq_of_isTerminal h (hover (.inl hs')) hle
      exact Except.ok.inj (h.symm.trans ht)
    · have ht := advance_eq_of_isTerminal ht (hover (.inr hwon)) hle
      exact Except.ok.inj (h.symm.trans ht)
  rw [← hsame, hs'] at hwon
  cases hwon

theorem not_winnable_of_lost (hs : s.status = .lost) : ¬ Winnable s :=
  not_winnable_of_advance (n := 0) rfl hs

/-- What every step keeps and no game has that is won rules out that the game can be won. -/
theorem not_winnable_of_invariant {P : Session → Prop}
    (hstep : ∀ {t t' : Session}, P t → t.step = .ok t' → P t')
    (hwon : ∀ {t : Session}, P t → t.status ≠ .won) (hs : P s) : ¬ Winnable s := by
  rintro ⟨n, s', h, hs'⟩
  induction n generalizing s with
  | zero => cases h; exact hwon hs hs'
  | succ n ih =>
    obtain ⟨t, ht, h⟩ := bind_eq_ok h
    exact ih (hstep hs ht) h

/-! ## Other commands than steps -/

theorem start_start (s : Session) : s.start.start = s.start :=
  start_of_ne_waiting (start_status_ne_waiting s)

theorem start_status_eq_won_iff : s.start.status = .won ↔ s.status = .won := by
  unfold start
  split
  next hw => rw [hw]; exact iff_of_false nofun nofun
  next => exact Iff.rfl

/-- What a command other than a reset leads to is led to by steps, but for a start at the end. -/
theorem exists_advance_of_apply {c : Command} (hc : ∀ v, c ≠ .reset v) (h : s.apply c = .ok s') :
    ∃ n t, s.advance n = .ok t ∧ s'.start = t.start := by
  cases c with
  | start =>
    cases h
    exact ⟨0, s, rfl, start_start s⟩
  | step => exact ⟨1, s', (advance_one s).trans h, rfl⟩
  | run budget =>
    have h : s.start.advance budget.toNat = .ok s' := (run_eq_start_advance budget s).symm.trans h
    generalize budget.toNat = n at h
    cases n with
    | zero =>
      cases h
      exact ⟨0, s, rfl, start_start s⟩
    | succ n => exact ⟨n + 1, s', (advance_start (Nat.succ_pos n) s).symm.trans h, rfl⟩
  | reset v => exact absurd rfl (hc v)

/-- Steps lead to the same from games that differ in nothing but that one was started. -/
theorem exists_advance_of_start_eq (hst : s.start = t.start) (h : t.advance n = .ok s') :
    ∃ u, s.advance n = .ok u ∧ u.start = s'.start := by
  cases n with
  | zero => cases h; exact ⟨s, rfl, hst⟩
  | succ n =>
    refine ⟨s', ?_, rfl⟩
    rw [← advance_start (Nat.succ_pos n), hst, advance_start (Nat.succ_pos n), h]

theorem exists_advance_of_commands (cs : List Command) (hcs : ∀ c ∈ cs, ∀ v, c ≠ .reset v)
    (h : cs.foldlM apply s = .ok s') : ∃ n t, s.advance n = .ok t ∧ s'.start = t.start := by
  induction cs generalizing s with
  | nil => cases h; exact ⟨0, _, rfl, rfl⟩
  | cons c cs ih =>
    obtain ⟨hc, hcs⟩ := List.forall_mem_cons.mp hcs
    rw [List.foldlM_cons] at h
    obtain ⟨u, hu, h⟩ := bind_eq_ok h
    obtain ⟨m, v, hv, huv⟩ := exists_advance_of_apply hc hu
    obtain ⟨k, w, hw, hs'⟩ := ih hcs h
    -- The steps that the other commands come to are made from where the first one led.
    obtain ⟨x, hx, hxw⟩ := exists_advance_of_start_eq huv.symm hw
    exact ⟨m + k, x, by rw [advance_add, hv]; exact hx, hs'.trans hxw.symm⟩

/-- **Whether a game can be won does not depend on the commands that are used**, as long as it is
not reset. -/
theorem winnable_iff_commands : Winnable s ↔ ∃ (cs : List Command) (s' : Session),
    (∀ c ∈ cs, ∀ v, c ≠ .reset v) ∧ cs.foldlM apply s = .ok s' ∧ s'.status = .won := by
  constructor
  · rintro ⟨n, s', h, hwon⟩
    refine ⟨List.replicate n .step, s', fun c hc v => ?_, ?_, hwon⟩
    · rw [List.eq_of_mem_replicate hc]
      exact nofun
    · rw [← h]
      clear h
      induction n generalizing s with
      | zero => rfl
      | succ n ih =>
        rw [List.replicate_succ, List.foldlM_cons]
        exact congrArg (s.step >>= ·) (funext fun t => ih)
  · rintro ⟨cs, s', hcs, h, hwon⟩
    obtain ⟨n, t, ht, hst⟩ := exists_advance_of_commands cs hcs h
    refine ⟨n, t, ht, ?_⟩
    rw [← start_status_eq_won_iff, ← hst, start_status_eq_won_iff]
    exact hwon

end Defusal.Session
