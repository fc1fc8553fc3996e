import Mathlib.Tactic.IntervalCases
import Defusal.Level.Bundled
import Defusal.Proofs.Session.Ending
import Defusal.Proofs.Session.Provenance
import Defusal.Proofs.Session.Translation

/-!
# The doubling bomb

The bundled levels `doubling` and `doublingFixed` are one bomb on two machines: the program of the
one is the translation of the program of the other (`read_doubling`), so it is enough to follow the
fixed machine. Outside of its two last lines it moves as `move` says, whatever the player's number
is (`executed_board`), and the sparse one goes along (`Twins.step`).

From the head of its loop the bomb returns there after four steps, with the number in B doubled,
until B is the player's number or the time is over 40. In round `k` it has `2 ^ k` in B at the time
`2 + 4 * k`, so it explodes in round ten at the latest (`endAlike_head`). What the player can win
with is a power of two between the two bounds that are checked first.
-/

namespace Defusal

namespace Level

/-! ## The program -/

/-- The program of the doubling bomb on a fixed machine. -/
def doublingCode : List Instruction := [
  ⟨"BLT", [.text "A", .int 10, .int 7]⟩,
  ⟨"BGT", [.text "A", .int 50, .int 7]⟩,
  ⟨"BGT", [.text "T", .int 40, .int 7]⟩,
  ⟨"BEQ", [.text "B", .text "A", .int 6]⟩,
  ⟨"ADD", [.text "B", .text "B", .text "B"]⟩,
  ⟨"JMP", [.int 2]⟩,
  ⟨"DEFUSE", []⟩,
  ⟨"EXPLODE", []⟩]

theorem read_doublingFixed :
    Program.read .fixed doublingFixed.program = .ok (.fixed doublingCode) := (rfl)

theorem read_doubling : Program.read .sparse doubling.program
    = .ok (.sparse (Program.translated doublingCode)) := (rfl)

/-- The bomb on a line, with the player's number in A, a number in B, and a time. -/
def board (line a b time : Int) : Machine where
  registers := .ofList [("A", a), ("B", b), ("T", time)]
  pc := line
  program := .fixed doublingCode
  outcome := none

/-- The line to which the bomb goes from one of the first six lines, and the number that it then has
in B. -/
def move (a b time : Int) : Nat → Int × Int
  | 0 => (if a < 10 then 7 else 1, b)
  | 1 => (if 50 < a then 7 else 2, b)
  | 2 => (if 40 < time then 7 else 3, b)
  | 3 => (if b = a then 6 else 4, b)
  | 4 => (5, b + b)
  | _ => (2, b)

variable {a b time : Int} {line : Nat} {h : History}

/-- A branch goes to its target or stays on the line to which the machine has moved. -/
theorem branch_eq {m : Machine} {i : Instruction} {test : Comparison} (left right target : Int)
    (hleft : m.registers.resolve (i.operand 0) = .ok left)
    (hright : m.registers.resolve (i.operand 1) = .ok right)
    (htarget : (i.operand 2).lenient = .ok target) :
    m.branch test i
      = .ok { m with pc := if test.holds left right = true then target else m.pc } := by
  unfold Machine.branch
  rw [hleft, hright, htarget]
  show (if test.holds left right = true then Except.ok _ else Except.ok _) = _
  split <;> rfl

/-- **From each of its first six lines the bomb moves as told**, whatever it has recorded. -/
theorem executed_board (hline : line < 6) : (board line a b time).executed .fixed h
    = .ok (board (move a b (time + 1) line).1 a (move a b (time + 1) line).2 (time + 1)) := by
  have goes {p q : Prop} [Decidable p] [Decidable q] (hpq : p ↔ q) (l k : Int) :
      (.ok (board (if p then l else k) a b (time + 1)) : Except Fault Machine)
        = .ok (board (if q then l else k) a b (time + 1)) :=
    congrArg (fun l => Except.ok (board l a b (time + 1))) (if_congr hpq rfl rfl)
  match line, hline with
  | 0, _ => exact (branch_eq a 10 7 rfl rfl rfl).trans (goes decide_eq_true_iff 7 1)
  | 1, _ => exact (branch_eq a 50 7 rfl rfl rfl).trans (goes decide_eq_true_iff 7 2)
  | 2, _ => exact (branch_eq (time + 1) 40 7 rfl rfl rfl).trans (goes decide_eq_true_iff 7 3)
  | 3, _ => exact (branch_eq b a 6 rfl rfl rfl).trans (goes beq_iff_eq 6 4)
  | 4, _ => rfl
  | 5, _ => rfl

/-- Every line of the program can be executed. -/
theorem exists_executed_board (hline : line < 8) :
    ∃ m, (board line a b time).executed .fixed h = .ok m := by
  match line, hline with
  | 6, _ => exact ⟨_, rfl⟩
  | 7, _ => exact ⟨_, rfl⟩
  | 0, _ | 1, _ | 2, _ | 3, _ | 4, _ | 5, _ => exact ⟨_, executed_board (by decide)⟩

/-- Every line of the program can be written down, on both machines. -/
theorem board_writable : ∀ line : Nat, line < 8 →
    (Machine.symbolText .fixed line ((board line 0 0 0).fetch .fixed)).toOption.isSome = true ∧
      (Program.fixed doublingCode).contains line = true ∧
      ((board line 0 0 0).fetch .fixed).Writable line := by
  decide +kernel

end Level

/-! ## Both machines -/

namespace Session

open Level

variable {a b time : Int} {line : Nat} {s t s' t' : Session}

/-- The bomb on both machines, of which the fixed one is on a line of the program. -/
structure Twins (line a b time : Int) (s t : Session) : Prop where
  together : Matches doublingCode s t
  machine : s.machine = board line a b time
  live : s.isTerminal = false

/-- On each line both machines can make a step, and they stay together. -/
theorem Twins.exists_step (h : Twins line a b time s t) (hline : line < 8) :
    ∃ s' t', s.step = .ok s' ∧ t.step = .ok t' ∧ Matches doublingCode s' t' ∧
      (board line a b time).executed .fixed s.history = .ok s'.machine ∧
      s'.status = .ofOutcome s'.machine.outcome := by
  obtain ⟨hsymbol, hinside, hwritable⟩ := board_writable line hline
  have hs : ∃ s', s.step = .ok s' := by
    rw [exists_step_iff h.live, h.together.fixed, h.machine, Machine.exists_step_iff]
    exact ⟨exists_executed_board hline, _, eq_ok_getD hsymbol ""⟩
  obtain ⟨s', hs⟩ := hs
  have hin : s.Inside := fun _ => by rw [pc, program, h.machine]; exact hinside
  have hw : s.Writable := fun _ => by rw [pc, h.machine]; exact hwritable
  obtain ⟨t', ht⟩ := (h.together.exists_step_iff hin hs).mpr hw
  obtain ⟨hexec, hstatus⟩ := executed_of_step h.live hs
  rw [h.together.fixed, h.machine] at hexec
  exact ⟨s', t', hs, ht, h.together.step hin hs ht, hexec, hstatus⟩

/-- Both machines end the game after the same number of steps, in the same way and together. -/
def EndAlike (o : Outcome) (s t : Session) : Prop :=
  ∃ n s' t', s.EndsAfter n s' ∧ t.EndsAfter n t' ∧ Matches doublingCode s' t' ∧
    s'.status = .ofOutcome (some o)

theorem EndAlike.of_step {o : Outcome} (h : EndAlike o s' t') (htogether : Matches doublingCode s t)
    (hlive : s.isTerminal = false) (hs : s.step = .ok s') (ht : t.step = .ok t') :
    EndAlike o s t := by
  obtain ⟨n, x, y, hx, hy, hxy, ho⟩ := h
  have htlive := htogether.isTerminal_eq.trans hlive
  exact ⟨n + 1, x, y, hx.of_step hlive hs, hy.of_step htlive ht, hxy, ho⟩

/-- Both machines move as the fixed one does, and what they come to then they come to now. -/
theorem Twins.goes {line' b' : Int} (line : Nat) (h : Twins line a b time s t) (hline : line < 6)
    (hmove : move a b (time + 1) line = (line', b')) :
    ∃ s' t', Twins line' a b' (time + 1) s' t' ∧ ∀ {o}, EndAlike o s' t' → EndAlike o s t := by
  obtain ⟨s', t', hs, ht, htogether, hexec, hstatus⟩ :=
    h.exists_step (Nat.lt_trans hline (by decide))
  have hmachine := Except.ok.inj (hexec.symm.trans (executed_board hline))
  rw [hmove] at hmachine
  refine ⟨s', t', ⟨htogether, hmachine, ?_⟩, fun ho => ho.of_step h.together h.live hs ht⟩
  unfold isTerminal
  rw [hstatus, hmachine]
  rfl

/-- On the two last lines both machines end the game. -/
theorem Twins.ends {o : Outcome} (line : Nat) (h : Twins line a b time s t) (hline : line < 8)
    (ho : ∀ m, (board line a b time).executed .fixed s.history = .ok m → m.outcome = some o) :
    EndAlike o s t := by
  obtain ⟨s', t', hs, ht, htogether, hexec, hstatus⟩ := h.exists_step hline
  rw [ho _ hexec] at hstatus
  have hover := isTerminal_of_status hstatus
  have hend : EndAlike o s' t' := ⟨0, s', t', endsAfter_zero hover,
    endsAfter_zero (htogether.isTerminal_eq.trans hover), htogether, hstatus⟩
  exact hend.of_step h.together h.live hs ht

theorem Twins.won (h : Twins 6 a b time s t) : EndAlike .won s t :=
  h.ends 6 (by decide) fun _ hm => by cases hm; rfl

theorem Twins.lost (h : Twins 7 a b time s t) : EndAlike .lost s t :=
  h.ends 7 (by decide) fun _ hm => by cases hm; rfl

/-! ## The loop -/

/-- A round that finds neither the time over nor the number reached doubles the number. -/
theorem Twins.round (h : Twins 2 a b time s t) (htime : time + 1 ≤ 40) (hne : b ≠ a) :
    ∃ s' t', Twins 2 a (b + b) (time + 4) s' t' ∧ ∀ {o}, EndAlike o s' t' → EndAlike o s t := by
  have htest : ¬ 40 < time + 1 := Int.not_lt.mpr htime
  obtain ⟨s₁, t₁, h₁, hend₁⟩ := h.goes 2 (by decide) (congrArg (·, b) (if_neg htest))
  obtain ⟨s₂, t₂, h₂, hend₂⟩ := h₁.goes 3 (by decide) (congrArg (·, b) (if_neg hne))
  obtain ⟨s₃, t₃, h₃, hend₃⟩ := h₂.goes 4 (by decide) rfl
  obtain ⟨s₄, t₄, h₄, hend₄⟩ := h₃.goes 5 (by decide) rfl
  have htime₄ : time + 1 + 1 + 1 + 1 = time + 4 := by omega
  exact ⟨s₄, t₄, htime₄ ▸ h₄, fun ho => hend₁ (hend₂ (hend₃ (hend₄ ho)))⟩

/-- A round that finds the number reached wins. -/
theorem Twins.reached (h : Twins 2 a a time s t) (htime : time + 1 ≤ 40) : EndAlike .won s t := by
  have htest : ¬ 40 < time + 1 := Int.not_lt.mpr htime
  obtain ⟨s₁, t₁, h₁, hend₁⟩ := h.goes 2 (by decide) (congrArg (·, a) (if_neg htest))
  obtain ⟨s₂, t₂, h₂, hend₂⟩ := h₁.goes 3 (by decide) (congrArg (·, a) (if_pos rfl))
  exact hend₁ (hend₂ h₂.won)

/-- **From the head of the loop in round `k`**, where B is `2 ^ k`, the bomb is won if and only if
the player's number is the power of two of this or a later round, up to round nine. -/
theorem Twins.endAlike_head {k : Nat} (hk : k ≤ 10) (h : Twins 2 a (2 ^ k) (2 + 4 * k) s t) :
    ∃ o, EndAlike o s t ∧ (o = .won ↔ ∃ j, k ≤ j ∧ j < 10 ∧ (2 : Int) ^ j = a) := by
  -- The induction is on the rounds that are left.
  induction hleft : 10 - k generalizing k s t with
  | zero =>
    obtain rfl : k = 10 := by omega
    obtain ⟨s₁, t₁, h₁, hend₁⟩ := h.goes 2 (by decide) rfl
    exact ⟨.lost, hend₁ h₁.lost,
      iff_of_false nofun fun ⟨j, hj, hj', _⟩ => absurd hj' (Nat.not_lt.mpr hj)⟩
  | succ left ih =>
    have htime : (2 + 4 * k : Int) + 1 ≤ 40 := by omega
    by_cases hreached : (2 : Int) ^ k = a
    · rw [hreached] at h
      exact ⟨.won, h.reached htime, iff_of_true rfl ⟨k, Nat.le_refl k, by omega, hreached⟩⟩
    · obtain ⟨s₄, t₄, h₄, hend₄⟩ := h.round htime hreached
      have hnumber : (2 : Int) ^ k + 2 ^ k = 2 ^ (k + 1) := by rw [pow_succ, mul_two]
      have hnext : (2 + 4 * k + 4 : Int) = 2 + 4 * (k + 1 : Nat) := by omega
      rw [hnumber, hnext] at h₄
      obtain ⟨o, ho, hwon⟩ := ih (by omega) h₄ (by omega)
      refine ⟨o, hend₄ ho, hwon.trans (exists_congr fun j => and_congr_left fun hj => ?_)⟩
      -- Round `k` itself was not the one.
      constructor
      · exact Nat.le_of_succ_le
      · intro hkj
        refine Nat.lt_of_le_of_ne hkj fun hjk => hreached ?_
        rw [hjk]
        exact hj.2

/-- **From its first line the bomb is won if and only if the player's number is 16 or 32.** -/
theorem Twins.endAlike (h : Twins 0 a 1 0 s t) :
    ∃ o, EndAlike o s t ∧ (o = .won ↔ a = 16 ∨ a = 32) := by
  by_cases hsmall : a < 10
  · obtain ⟨s₁, t₁, h₁, hend₁⟩ := h.goes 0 (by decide) (congrArg (·, 1) (if_pos hsmall))
    exact ⟨.lost, hend₁ h₁.lost, iff_of_false nofun (by omega)⟩
  obtain ⟨s₁, t₁, h₁, hend₁⟩ := h.goes 0 (by decide) (congrArg (·, 1) (if_neg hsmall))
  by_cases hlarge : 50 < a
  · obtain ⟨s₂, t₂, h₂, hend₂⟩ := h₁.goes 1 (by decide) (congrArg (·, 1) (if_pos hlarge))
    exact ⟨.lost, hend₁ (hend₂ h₂.lost), iff_of_false nofun (by omega)⟩
  obtain ⟨s₂, t₂, h₂, hend₂⟩ := h₁.goes 1 (by decide) (congrArg (·, 1) (if_neg hlarge))
  obtain ⟨o, ho, hwon⟩ := Twins.endAlike_head (k := 0) (by decide) h₂
  refine ⟨o, hend₁ (hend₂ ho), hwon.trans ?_⟩
  constructor
  · rintro ⟨j, -, hj, rfl⟩
    interval_cases j <;> omega
  · rintro (rfl | rfl)
    · exact ⟨4, by decide⟩
    · exact ⟨5, by decide⟩

/-- The games on a player's number begin as twins. -/
theorem exists_twins (a : Int) : ∃ s t, played .doubling [.reset (.int a)] = .ok t ∧
    played .doublingFixed [.reset (.int a)] = .ok s ∧ Twins 0 a 1 0 s t := by
  have hfixed : fresh .doublingFixed (.int a) = .ok _ := fresh_of_read rfl read_doublingFixed
  have hsparse : fresh .doubling (.int a) = .ok _ := fresh_of_read rfl read_doubling
  exact ⟨_, _, (played_reset read_doubling).trans hsparse,
    (played_reset read_doublingFixed).trans hfixed, matches_opening rfl rfl, rfl, rfl⟩

/-- **The two doubling bombs are the same bomb.** Whatever the player's number is, the games on both
machines are over after the same number of steps, in the same way, with the same registers and
history, one line apart; and they are won if and only if the number is 16 or 32. -/
theorem doubling_bombs_agree (a : Int) : ∃ s t n s' t',
    played .doubling [.reset (.int a)] = .ok s ∧ played .doublingFixed [.reset (.int a)] = .ok t ∧
    s.EndsAfter n s' ∧ t.EndsAfter n t' ∧ s'.status = t'.status ∧ s'.registers = t'.registers ∧
    s'.history = t'.history ∧ s'.pc = t'.pc + 1 ∧ (s'.status = .won ↔ a = 16 ∨ a = 32) := by
  obtain ⟨t, s, hs, ht, htwins⟩ := exists_twins a
  obtain ⟨o, ⟨n, t', s', ht', hs', htogether, ho⟩, hwon⟩ := htwins.endAlike
  refine ⟨s, t, n, s', t', hs, ht, hs', ht', htogether.status, ?_, htogether.history, ?_, ?_⟩
  · unfold registers
    rw [htogether.machine]
    rfl
  · unfold pc
    rw [htogether.machine]
    rfl
  · rw [htogether.status, ho, ← hwon]
    cases o <;> decide

end Session

end Defusal
