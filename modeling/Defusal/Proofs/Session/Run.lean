import Defusal.Proofs.Machine.Effect
import Defusal.Session.Basic

/-!
# Runs of sessions

Two ways in which a session comes about, and how to prove something of every session that does.

A *run* is a sequence of sessions in which each is a step after the one before (`IsRun`); a property
that a step keeps holds along a run (`IsRun.keeps`). The *reachable* sessions of a level are those
that any commands lead to from a new game, resets and runs with a budget among them (`Reachable`).
For these, `Reachable.induct` asks for no more than new games, starting and single steps, because a
run with a budget is steps after a start, and a reset is a new game of the same level.

`step_cases` is the only place where a step of a session is taken apart: either the game is over
and nothing happens, or one instruction is executed and the session afterwards is `after`.
-/

namespace Defusal.Session

variable {s s' : Session} {level : Level} {value : Datum}

/-! ## New games -/

/-- A game of a level that begins on some registers and a program. -/
def opening (level : Level) (r : Registers) (p : Program) : Session where
  level := level
  machine := { registers := r, pc := level.architecture.firstLine, program := p, outcome := none }
  history := .start r
  status := .waiting
  last := none

/-- A new game begins on the registers and the program that its level gives. -/
theorem fresh_eq_ok (h : fresh level value = .ok s) :
    ∃ r p, firstRegisters level value = .ok r ∧
      Program.read level.architecture level.program = .ok p ∧ s = opening level r p := by
  unfold fresh firstMachine at h
  obtain ⟨m, hm, h⟩ := bind_eq_ok h
  obtain ⟨r, hr, hm⟩ := bind_eq_ok hm
  obtain ⟨p, hp, hm⟩ := bind_eq_ok hm
  cases hm
  cases h
  exact ⟨r, p, hr, hp, rfl⟩

theorem fresh_of_read {r : Registers} {p : Program} (hr : firstRegisters level value = .ok r)
    (hp : Program.read level.architecture level.program = .ok p) :
    fresh level value = .ok (opening level r p) := by
  unfold fresh firstMachine
  rw [hr, hp]
  rfl

theorem fresh_level (h : fresh level value = .ok s) : s.level = level := by
  obtain ⟨r, p, -, -, rfl⟩ := fresh_eq_ok h
  rfl

/-! ## One step -/

/-- The session after a step of its machine that left `snap` behind. -/
def after (s : Session) (snap : Snapshot) : Session :=
  { s with
    machine := snap.machine
    history := snap.history
    status := .ofOutcome snap.machine.outcome
    last := some snap }

theorem step_of_isTerminal (h : s.isTerminal = true) : s.step = .ok s := by
  unfold step
  rw [if_pos h]

/-- The steps of a game that is not over are those of its machine. -/
theorem step_eq_ok_iff (hlive : s.isTerminal = false) : s.step = .ok s' ↔
    ∃ snap, s.machine.step s.architecture s.history = .ok snap ∧ s' = s.after snap := by
  unfold step
  rw [if_neg (by rw [hlive]; exact Bool.false_ne_true)]
  constructor
  · intro h
    obtain ⟨snap, hsnap, h⟩ := bind_eq_ok h
    exact ⟨snap, hsnap, (Except.ok.inj h).symm⟩
  · rintro ⟨snap, hsnap, rfl⟩
    rw [hsnap]
    rfl

theorem exists_step_iff (hlive : s.isTerminal = false) : (∃ s', s.step = .ok s') ↔
    ∃ snap, s.machine.step s.architecture s.history = .ok snap := by
  constructor
  · rintro ⟨s', hs'⟩
    obtain ⟨snap, hsnap, -⟩ := (step_eq_ok_iff hlive).mp hs'
    exact ⟨snap, hsnap⟩
  · rintro ⟨snap, hsnap⟩
    exact ⟨_, (step_eq_ok_iff hlive).mpr ⟨snap, hsnap, rfl⟩⟩

/-- A step leaves the machine that executing the instruction on its line makes, and the status tells
how that ended the game. -/
theorem executed_of_step (hlive : s.isTerminal = false) (h : s.step = .ok s') :
    s.machine.executed s.architecture s.history = .ok s'.machine ∧
      s'.status = .ofOutcome s'.machine.outcome := by
  obtain ⟨snap, hsnap, rfl⟩ := (step_eq_ok_iff hlive).mp h
  obtain ⟨after, symbol, hafter, -, rfl⟩ := Machine.step_eq_ok_iff.mp hsnap
  exact ⟨hafter, rfl⟩

/-- A step of a game that is not over executes one instruction. -/
theorem exists_stepped (hlive : s.isTerminal = false) (h : s.step = .ok s') :
    ∃ snap, Machine.Stepped s.architecture s.machine s.history snap ∧ s' = s.after snap := by
  obtain ⟨snap, hsnap, hs'⟩ := (step_eq_ok_iff hlive).mp h
  exact ⟨snap, Machine.stepped_of_step hsnap, hs'⟩

/-- **A step of a session** does nothing if the game is over, and executes one instruction
otherwise. -/
theorem step_cases (h : s.step = .ok s') :
    s.isTerminal = true ∧ s' = s ∨
      s.isTerminal = false ∧
        ∃ snap, Machine.Stepped s.architecture s.machine s.history snap ∧ s' = s.after snap := by
  cases hover : s.isTerminal with
  | true =>
    rw [step_of_isTerminal hover] at h
    exact .inl ⟨rfl, (Except.ok.inj h).symm⟩
  | false => exact .inr ⟨rfl, exists_stepped hover h⟩

theorem step_level (h : s.step = .ok s') : s'.level = s.level := by
  rcases step_cases h with ⟨-, rfl⟩ | ⟨-, snap, -, rfl⟩ <;> rfl

theorem step_architecture (h : s.step = .ok s') : s'.architecture = s.architecture :=
  congrArg Level.architecture (step_level h)

/-- Whether the next step executes an instruction with some opcode. -/
def executes (s : Session) (op : String) : Bool :=
  !s.isTerminal && (s.machine.fetch s.architecture).op == op

theorem executes_iff {op : String} : s.executes op = true ↔
    s.isTerminal = false ∧ (s.machine.fetch s.architecture).op = op := by
  simp only [executes, Bool.and_eq_true, Bool.not_eq_true', beq_iff_eq]

/-! ## Runs -/

/-- Each of the first `n` sessions is followed by the session a step after it. -/
def IsRun (s : Nat → Session) (n : Nat) : Prop := ∀ i < n, (s i).step = .ok (s (i + 1))

theorem IsRun.of_le {s : Nat → Session} {m n : Nat} (h : IsRun s n) (hmn : m ≤ n) : IsRun s m :=
  fun i hi => h i (Nat.lt_of_lt_of_le hi hmn)

theorem IsRun.of_succ {s : Nat → Session} {n : Nat} (h : IsRun s (n + 1)) : IsRun s n :=
  h.of_le (Nat.le_succ n)

theorem IsRun.last {s : Nat → Session} {n : Nat} (h : IsRun s (n + 1)) :
    (s n).step = .ok (s (n + 1)) :=
  h n (Nat.lt_succ_self n)

theorem IsRun.succ {s : Nat → Session} {n : Nat} (h : IsRun s n)
    (hlast : (s n).step = .ok (s (n + 1))) : IsRun s (n + 1) := by
  intro i hi
  rcases Nat.lt_succ_iff_lt_or_eq.mp hi with hlt | rfl
  · exact h i hlt
  · exact hlast

/-- What a step keeps is kept along a run. -/
theorem IsRun.keeps {P : Session → Prop} {s : Nat → Session}
    (hstep : ∀ {t t' : Session}, P t → t.step = .ok t' → P t') (h0 : P (s 0)) :
    ∀ {n : Nat}, IsRun s n → P (s n) := by
  intro n
  induction n with
  | zero => intro _; exact h0
  | succ n ih => intro h; exact hstep (ih h.of_succ) h.last

theorem IsRun.architecture_eq {s : Nat → Session} {n : Nat} (h : IsRun s n) :
    (s n).architecture = (s 0).architecture :=
  h.keeps (P := fun t => t.architecture = (s 0).architecture)
    (fun ht hs => (step_architecture hs).trans ht) rfl

/-- The run from a session: each next one is a step on, or the same where no step can be made. -/
def along (s : Session) : Nat → Session
  | 0 => s
  | n + 1 => (along s n).step.toOption.getD (along s n)

theorem step_along {n : Nat} (h : (s.along n).step = .ok s') : s.along (n + 1) = s' := by
  unfold along
  rw [h]
  rfl

/-- The run from a session is one as far as all its steps can be made. -/
theorem isRun_along {n : Nat} (h : ∀ i < n, (s.along i).step.toOption.isSome = true) :
    IsRun s.along n :=
  fun i hi => eq_ok_getD (h i hi) (s.along i)

/-! ## Reachable sessions -/

/-- The sessions of a level that commands lead to from a new game. -/
inductive Reachable (level : Level) : Session → Prop
  | create {s : Session} (h : create level = .ok s) : Reachable level s
  | command {s s' : Session} (c : Command) (hs : Reachable level s) (h : s.apply c = .ok s') :
      Reachable level s'

theorem steps_keeps {P : Session → Prop}
    (hstep : ∀ {t t' : Session}, P t → t.step = .ok t' → P t') :
    ∀ (n : Nat) {s s' : Session}, P s → steps n s = .ok s' → P s' := by
  intro n
  induction n with
  | zero => intro s s' hs h; cases h; exact hs
  | succ n ih =>
    intro s s' hs h
    unfold steps at h
    -- Either the game is over before the budget is, or there is a step to make.
    split at h
    next => cases h; exact hs
    next =>
      obtain ⟨t, ht, h⟩ := bind_eq_ok h
      exact ih (hstep hs ht) h

/-- What is kept by starting and by a step, and holds of the new game that a command makes if it is a
reset, is kept by the command. -/
theorem apply_keeps {P : Session → Prop} {c : Command}
    (hfresh : ∀ {v : Datum} {t : Session}, c = .reset v → fresh level v = .ok t → P t)
    (hstart : ∀ {t : Session}, P t → P t.start)
    (hstep : ∀ {t t' : Session}, P t → t.step = .ok t' → P t') (hs : s.level = level ∧ P s)
    (h : s.apply c = .ok s') : s'.level = level ∧ P s' := by
  have hstart' : s.start.level = level ∧ P s.start := by
    refine ⟨?_, hstart hs.2⟩
    unfold start
    split <;> exact hs.1
  have hstep' : ∀ {u u' : Session}, u.level = level ∧ P u → u.step = .ok u' →
      u'.level = level ∧ P u' :=
    fun hu hs => ⟨(step_level hs).trans hu.1, hstep hu.2 hs⟩
  cases c with
  | start => cases h; exact hstart'
  | step => exact hstep' hs h
  | run budget =>
    -- A run with a budget is a start and then steps.
    exact steps_keeps (P := fun u => u.level = level ∧ P u) hstep' budget.toNat hstart' h
  | reset v =>
    -- A reset keeps the level, so it gives a new game of the same one.
    have h : fresh level v = .ok s' := hs.1 ▸ h
    exact ⟨fresh_level h, hfresh rfl h⟩

/-- **What holds of new games and is kept by starting and by a step holds of every reachable
session.** -/
theorem Reachable.induct {P : Session → Prop}
    (hfresh : ∀ {v : Datum} {t : Session}, fresh level v = .ok t → P t)
    (hstart : ∀ {t : Session}, P t → P t.start)
    (hstep : ∀ {t t' : Session}, P t → t.step = .ok t' → P t') (h : Reachable level s) :
    s.level = level ∧ P s := by
  induction h with
  | create h => exact ⟨fresh_level h, hfresh h⟩
  | command c _ h ih => exact apply_keeps (fun _ => hfresh) hstart hstep ih h

theorem Reachable.level_eq (h : Reachable level s) : s.level = level :=
  (h.induct (P := fun _ => True) (fun _ => trivial) (fun _ => trivial) fun _ _ => trivial).1

/-- The session that some commands lead to from a new game. -/
def played (level : Level) (cs : List Command) : Except Fault Session := do
  cs.foldlM apply (← create level)

/-- A level whose program can be read is played anew on a value by a reset. -/
theorem played_reset {p : Program} (hp : Program.read level.architecture level.program = .ok p) :
    played level [.reset value] = fresh level value := by
  have hcreate : create level = .ok (opening level (.ofTable level.registers) p) :=
    fresh_of_read rfl hp
  unfold played
  rw [hcreate]
  show (fresh level value >>= pure) = _
  exact bind_pure _

/-- What each of some commands keeps is kept by all of them in a row. -/
theorem foldlM_keeps {P : Session → Prop} : ∀ (cs : List Command) {s s' : Session},
    (∀ c ∈ cs, ∀ {t t' : Session}, P t → t.apply c = .ok t' → P t') → P s →
    cs.foldlM apply s = .ok s' → P s' := by
  intro cs
  induction cs with
  | nil => intro s s' _ hs h; cases h; exact hs
  | cons c cs ih =>
    intro s s' hkeeps hs h
    rw [List.foldlM_cons] at h
    obtain ⟨t, ht, h⟩ := bind_eq_ok h
    obtain ⟨hc, hcs⟩ := List.forall_mem_cons.mp hkeeps
    exact ih hcs (hc hs ht) h

/-- What is kept by starting and by a step holds of the session that commands lead to, if it holds of
the new game of the level and of those that the resets among the commands make. -/
theorem played_induct {P : Session → Prop} {cs : List Command}
    (hfresh : ∀ {v : Datum} {t : Session}, v = .null ∨ .reset v ∈ cs → fresh level v = .ok t → P t)
    (hstart : ∀ {t : Session}, P t → P t.start)
    (hstep : ∀ {t t' : Session}, P t → t.step = .ok t' → P t') (h : played level cs = .ok s) :
    s.level = level ∧ P s := by
  obtain ⟨t, ht, h⟩ := bind_eq_ok h
  refine foldlM_keeps (P := fun u => u.level = level ∧ P u) cs (fun c hc t t' hkept hnext => ?_)
    ⟨fresh_level ht, hfresh (.inl rfl) ht⟩ h
  exact apply_keeps (fun hv => hfresh (.inr (hv ▸ hc))) hstart hstep hkept hnext

/-- The reachable sessions are those that a row of commands leads to. -/
theorem reachable_iff_played : Reachable level s ↔ ∃ cs, played level cs = .ok s := by
  constructor
  · intro h
    induction h with
    | create h => exact ⟨[], by rw [played, h]; rfl⟩
    | command c _ h ih =>
      obtain ⟨cs, hcs⟩ := ih
      obtain ⟨t, ht, hcs⟩ := bind_eq_ok hcs
      -- The new command comes last in the row.
      refine ⟨cs ++ [c], ?_⟩
      show (create level >>= fun t => (cs ++ [c]).foldlM apply t) = _
      rw [ht]
      show (cs ++ [c]).foldlM apply t = _
      rw [List.foldlM_append, hcs]
      show [c].foldlM apply _ = _
      rw [List.foldlM_cons, h]
      rfl
  · rintro ⟨cs, hcs⟩
    obtain ⟨t, ht, hcs⟩ := bind_eq_ok hcs
    exact foldlM_keeps cs (fun c _ _ _ hs h => .command c hs h) (.create ht) hcs

/-- The session that some commands lead to, where they lead to one. -/
def reached (level : Level) (cs : List Command) : Session :=
  (played level cs).toOption.getD default

theorem reachable_reached {cs : List Command} (h : (played level cs).toOption.isSome = true) :
    Reachable level (reached level cs) :=
  reachable_iff_played.mpr ⟨cs, eq_ok_getD h default⟩

end Defusal.Session
