import Defusal.Level.Bundled
import Defusal.Proofs.Session.Advance

/-!
# Runs with a budget

A run with a budget starts the game, looks before every step whether the game is over, and may leave
before the budget is used up. `Executed` counts the instructions that are really executed on the way
from one session to another; `run_eq_ok_iff` says which numbers of instructions a run can come to:
all of its budget, or fewer if the game is over then.

A budget may be cut in two anywhere (`run_add`). The second run starts the game again, which changes
nothing, because what a run leads to does not wait; and where the first run failed there is no
second one.
-/

namespace Defusal.Session

/-- So many steps lead from one session to another, each of which executes an instruction. -/
inductive Executed : Session → Nat → Session → Prop
  | none {s : Session} : Executed s 0 s
  | next {s t u : Session} {n : Nat} (hlive : s.isTerminal = false) (hstep : s.step = .ok t)
      (hrest : Executed t n u) : Executed s (n + 1) u

variable {s t : Session} {m n : Nat}

/-- As long as the game is not over, plain steps execute instructions. -/
theorem Executed.advance (h : s.Executed n t) : s.advance n = .ok t := by
  induction h with
  | none => rfl
  | next _ hstep _ ih =>
    unfold Session.advance
    rw [hstep]
    exact ih

/-- Steps with a budget execute so many instructions, or fewer if the game is over then. -/
theorem steps_eq_ok_iff : steps n s = .ok t ↔
    ∃ k ≤ n, s.Executed k t ∧ (k < n → t.isTerminal = true) := by
  constructor
  · intro h
    induction n generalizing s with
    | zero =>
      cases h
      exact ⟨0, Nat.le_refl 0, .none, nofun⟩
    | succ n ih =>
      unfold steps at h
      split at h
      next hover =>
        cases h
        exact ⟨0, Nat.zero_le _, .none, fun _ => hover⟩
      next hlive =>
        obtain ⟨u, hu, h⟩ := bind_eq_ok h
        obtain ⟨k, hk, hrest, hleft⟩ := ih h
        have hlive : s.isTerminal = false := by simpa using hlive
        exact ⟨k + 1, Nat.succ_le_succ hk, .next hlive hu hrest,
          fun hlt => hleft (Nat.lt_of_succ_lt_succ hlt)⟩
  · rintro ⟨k, hk, hexecuted, hleft⟩
    rw [steps_eq_advance]
    by_cases hlt : k < n
    · exact advance_eq_of_isTerminal hexecuted.advance (hleft hlt) hk
    · have hkn : k = n := by omega
      rw [← hkn]
      exact hexecuted.advance

variable {budget greater : Int}

/-- A run executes as many instructions as its budget has, or fewer if the game is over then. -/
theorem run_eq_ok_iff : s.run budget = .ok t ↔
    ∃ k ≤ budget.toNat, s.start.Executed k t ∧ (k < budget.toNat → t.isTerminal = true) :=
  steps_eq_ok_iff

/-- **A run with two budgets in a row is a run with their sum.** -/
theorem run_add (m n : Nat) (s : Session) : s.run (m + n) = s.run m >>= fun t => t.run n := by
  have hsum : ((m : Int) + n).toNat = m + n := Int.toNat_natCast (m + n)
  simp only [run_eq_start_advance, hsum, Int.toNat_natCast, advance_add]
  cases h : s.start.advance m with
  | error f => rfl
  | ok t =>
    show t.advance n = t.start.advance n
    rw [start_of_advance_start h]

/-- A game that a run leads to its end is over, whatever the budget is beyond that. -/
theorem run_eq_of_isTerminal (h : s.run budget = .ok t) (hover : t.isTerminal = true)
    (hle : budget ≤ greater) : s.run greater = .ok t := by
  rw [run_eq_start_advance] at h ⊢
  exact advance_eq_of_isTerminal h hover (Int.toNat_le_toNat hle)

/-- A run that leaves a game that is not over has used up its budget. -/
theorem executed_of_run (h : s.run budget = .ok t) (hlive : t.isTerminal = false) :
    s.start.Executed budget.toNat t := by
  obtain ⟨k, hk, hexecuted, hleft⟩ := run_eq_ok_iff.mp h
  have hkn : k = budget.toNat := by
    refine Nat.le_antisymm hk (Nat.le_of_not_lt fun hlt => ?_)
    rw [hleft hlt] at hlive
    cases hlive
  rw [← hkn]
  exact hexecuted

/-- **Running composes.** A budget may be cut anywhere, also at nothing and at the end of the game:
the two runs come to what the whole run comes to, or they fail with it. Once the game is over a
greater budget changes nothing, and otherwise exactly so many instructions were executed as the
budget had. -/
theorem runs_compose (s : Session) (m n : Nat) :
    (s.run m >>= fun t => t.run n) = s.run (m + n) ∧
      ∀ t, s.run m = .ok t →
        (t.isTerminal = true → ∀ k ≥ (m : Int), s.run k = .ok t) ∧
        (t.isTerminal = false → s.start.Executed m t) :=
  ⟨(run_add m n s).symm, fun _ ht =>
    ⟨fun hover _ hk => run_eq_of_isTerminal ht hover hk, executed_of_run ht⟩⟩

/-- The tutorial on its solution is not over after one instruction, and of five more it takes one.
-/
theorem runs_compose_tutorial : ∃ s t u, fresh .tutorial (.int 5) = .ok s ∧ s.run 1 = .ok t ∧
    s.start.Executed 1 t ∧ t.run 5 = .ok u ∧ u.status = .won ∧ ∀ k ≥ 6, s.run k = .ok u := by
  obtain ⟨s, t, u, hs, ht, hlive, hu, hwon⟩ : ∃ s t u, fresh .tutorial (.int 5) = .ok s ∧
      s.run 1 = .ok t ∧ t.isTerminal = false ∧ t.run 5 = .ok u ∧ u.status = .won :=
    ⟨_, _, _, eq_ok_getD (by decide +kernel) default, eq_ok_getD (by decide +kernel) default,
      by decide +kernel, eq_ok_getD (by decide +kernel) default, by decide +kernel⟩
  obtain ⟨hsum, hfirst⟩ := runs_compose s 1 5
  obtain ⟨-, hwhole⟩ := runs_compose s 6 0
  have hterminal : u.isTerminal = true := by
    unfold isTerminal
    rw [hwon]
    rfl
  have hrun : s.run 6 = .ok u := by
    refine hsum.symm.trans ?_
    show s.run 1 >>= (fun t => t.run 5) = .ok u
    rw [ht]
    exact hu
  exact ⟨s, t, u, hs, ht, (hfirst t ht).2 hlive, hu, hwon, (hwhole u hrun).1 hterminal⟩

end Defusal.Session
