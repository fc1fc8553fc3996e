import Defusal.Machine.Step
import Defusal.Proofs.Fault.Chain
import Defusal.Proofs.Machine.Opcodes

/-!
# What one step can do

`Machine.Effect m i origin h op after` has one case for each way in which the instruction `i` can
turn the machine `m` into `after` when it is executed as `op`, with everything that the case rests
on: which operands were read and what they stood for. `effect_of_execute` says that executing an
instruction is always one of the cases, and `stepped_of_step` carries that over to whole steps.

Everything else about steps is read off the cases, so no later proof opens an operation:

* only an operation that ends the game leaves an outcome (`Effect.outcome`);
* only a copy changes the program, and it does so by one insertion (`Effect.program_eq`,
  `Effect.program_copy`);
* an operation that ends the game stays where it is (`Effect.of_isFinal`).
-/

namespace Defusal

/-- How an operation ends the game, if it does. -/
def Operation.ending : Operation → Option Outcome
  | .defuse => some .won
  | .explode => some .lost
  | _ => none

theorem Operation.ending_eq_won_iff {op : Operation} : op.ending = some .won ↔ op = .defuse := by
  cases op <;> simp [ending]

theorem Operation.ending_eq_lost_iff {op : Operation} : op.ending = some .lost ↔ op = .explode := by
  cases op <;> simp [ending]

namespace Machine

/-- What executing an instruction that stood on the line `origin` can make of a machine, one case
for each way in which it can go. -/
inductive Effect (m : Machine) (i : Instruction) (origin : Int) (h : History) :
    Operation → Machine → Prop
  | idle : Effect m i origin h .idle m
  | unwritten (hshort : i.operands.length < 3) : Effect m i origin h .add m
  | sum {left right target : Datum} {rest : List Datum} {a b : Int} {name : String}
      (hops : i.operands = left :: right :: target :: rest)
      (ha : m.registers.resolve left = .ok a) (hb : m.registers.resolve right = .ok b)
      (hname : target.shown = .ok name) :
      Effect m i origin h .add { m with registers := m.registers.put name (a + b) }
  | jump {line : Int} (hline : m.registers.resolve (i.operand 0) = .ok line) :
      Effect m i origin h .jump { m with pc := line }
  | compareJump {left right line : Int} {symbol : String}
      (hleft : m.registers.resolve (i.operand 0) = .ok left)
      (hsymbol : (i.operand 1).shown = .ok symbol)
      (hright : m.registers.resolve (i.operand 2) = .ok right)
      (hline : m.registers.resolve (i.operand 3) = .ok line) :
      Effect m i origin h .compareJump
        (if (Comparison.ofSymbol? symbol).any (·.holds left right) then { m with pc := line }
         else m)
  | copyInto {operand : Datum} {source target : Int} (hop : i.operands[1]? = some operand)
      (hsource : m.registers.resolve (i.operand 0) = .ok source)
      (htarget : m.registers.resolve operand = .ok target) :
      Effect m i origin h .copy
        { m with
          program := m.program.insertAt target (m.program.get source)
          pc := if target ≤ origin then m.pc + 1 else m.pc }
  | copyAfter {source : Int} (hop : i.operands[1]? = none)
      (hsource : m.registers.resolve (i.operand 0) = .ok source) :
      Effect m i origin h .copy
        { m with program := m.program.insertAt (origin + 1) (m.program.get source) }
  | travelled {r : Registers} (hr : h.lookup m.registers.time = some r) :
      Effect m i origin h .travel { m with registers := r }
  | unrecorded (hr : h.lookup m.registers.time = none) : Effect m i origin h .travel m
  | directJump {line : Int} (hline : (i.operand 0).lenient = .ok line) :
      Effect m i origin h .directJump { m with pc := line }
  | branchTaken {test : Comparison} {left right line : Int}
      (hleft : m.registers.resolve (i.operand 0) = .ok left)
      (hright : m.registers.resolve (i.operand 1) = .ok right)
      (hholds : test.holds left right = true) (hline : (i.operand 2).lenient = .ok line) :
      Effect m i origin h (.branch test) { m with pc := line }
  | branchPassed {test : Comparison} {left right : Int}
      (hleft : m.registers.resolve (i.operand 0) = .ok left)
      (hright : m.registers.resolve (i.operand 1) = .ok right)
      (hholds : test.holds left right = false) : Effect m i origin h (.branch test) m
  | defuse : Effect m i origin h .defuse { m with outcome := some .won }
  | explode : Effect m i origin h .explode { m with outcome := some .lost }

variable {a : Architecture} {m after : Machine} {i : Instruction} {origin : Int} {h : History}
  {op : Operation} {snap : Snapshot}

/-! ## Executing is one of the cases -/

theorem effect_of_add (hx : m.add i = .ok after) : Effect m i origin h .add after := by
  unfold add at hx
  split at hx
  next left right target rest hops =>
    obtain ⟨a, ha, hx⟩ := bind_eq_ok hx
    obtain ⟨b, hb, hx⟩ := bind_eq_ok hx
    obtain ⟨name, hname, hx⟩ := bind_eq_ok hx
    cases hx
    exact .sum hops ha hb hname
  next hops =>
    -- No match with three operands means that there are fewer.
    cases hx
    refine .unwritten ?_
    rcases hi : i.operands with _ | ⟨x, _ | ⟨y, _ | ⟨z, rest⟩⟩⟩
    · exact Nat.zero_lt_succ 2
    · exact Nat.succ_lt_succ (Nat.zero_lt_succ 1)
    · exact Nat.lt_succ_self 2
    · exact absurd hi (hops x y z rest)

theorem effect_of_compareJump (hx : m.compareJump i = .ok after) :
    Effect m i origin h .compareJump after := by
  unfold compareJump at hx
  obtain ⟨left, hleft, hx⟩ := bind_eq_ok hx
  obtain ⟨symbol, hsymbol, hx⟩ := bind_eq_ok hx
  obtain ⟨right, hright, hx⟩ := bind_eq_ok hx
  obtain ⟨line, hline, hx⟩ := bind_eq_ok hx
  cases hx
  exact .compareJump hleft hsymbol hright hline

theorem effect_of_copy (hx : m.copy origin i = .ok after) : Effect m i origin h .copy after := by
  unfold copy at hx
  obtain ⟨source, hsource, hx⟩ := bind_eq_ok hx
  split at hx
  next operand hop =>
    obtain ⟨target, htarget, hx⟩ := bind_eq_ok hx
    cases hx
    exact .copyInto hop hsource htarget
  next hop =>
    cases hx
    exact .copyAfter hop hsource

theorem effect_of_travel : Effect m i origin h .travel (m.travel h) := by
  unfold travel
  split
  next r hr => exact .travelled hr
  next hr => exact .unrecorded hr

theorem effect_of_branch {test : Comparison} (hx : m.branch test i = .ok after) :
    Effect m i origin h (.branch test) after := by
  unfold branch at hx
  obtain ⟨left, hleft, hx⟩ := bind_eq_ok hx
  obtain ⟨right, hright, hx⟩ := bind_eq_ok hx
  split at hx
  next hholds =>
    obtain ⟨line, hline, hx⟩ := bind_eq_ok hx
    cases hx
    exact .branchTaken hleft hright hholds hline
  next hholds =>
    cases hx
    exact .branchPassed hleft hright (by simpa using hholds)

/-- **Executing an instruction is one of the cases of `Effect`.** -/
theorem effect_of_execute (hx : m.execute op i origin h = .ok after) :
    Effect m i origin h op after := by
  cases op with
  | idle => cases hx; exact .idle
  | add => exact effect_of_add hx
  | jump =>
    obtain ⟨line, hline, hx⟩ := bind_eq_ok hx
    cases hx
    exact .jump hline
  | compareJump => exact effect_of_compareJump hx
  | copy => exact effect_of_copy hx
  | travel => cases hx; exact effect_of_travel
  | directJump =>
    obtain ⟨line, hline, hx⟩ := bind_eq_ok hx
    cases hx
    exact .directJump hline
  | branch test => exact effect_of_branch hx
  | defuse => cases hx; exact .defuse
  | explode => cases hx; exact .explode

/-! ## What the cases have in common -/

/-- Only the operations that end the game leave an outcome. -/
theorem Effect.outcome (he : Effect m i origin h op after) (hm : m.outcome = none) :
    after.outcome = op.ending := by
  cases he with
  | compareJump => split <;> exact hm
  | defuse => rfl
  | explode => rfl
  | _ => exact hm

/-- Only a copy changes the program. -/
theorem Effect.program_eq (he : Effect m i origin h op after) (hop : op ≠ .copy) :
    after.program = m.program := by
  cases he with
  | compareJump => split <;> rfl
  | copyInto => exact absurd rfl hop
  | copyAfter => exact absurd rfl hop
  | _ => rfl

/-- A copy changes the program by one insertion. -/
theorem Effect.program_copy (he : Effect m i origin h .copy after) :
    ∃ target copied, after.program = m.program.insertAt target copied := by
  cases he with
  | copyInto => exact ⟨_, _, rfl⟩
  | copyAfter => exact ⟨_, _, rfl⟩

/-- An operation that ends the game stays on its line. -/
theorem Effect.of_isFinal (he : Effect m i origin h op after) (hop : op.isFinal = true) :
    after.pc = m.pc ∧ after.program = m.program := by
  cases he with
  | defuse => exact ⟨rfl, rfl⟩
  | explode => exact ⟨rfl, rfl⟩
  | _ => exact absurd hop Bool.false_ne_true

/-- Travelling takes the registers that are recorded at the present time, if there are any. -/
theorem Effect.travel_eq (he : Effect m i origin h .travel after) :
    after = { m with registers := (h.lookup m.registers.time).getD m.registers } := by
  cases he with
  | travelled hr => rw [hr, Option.getD_some]
  | unrecorded hr => rw [hr, Option.getD_none]

theorem Effect.idle_eq (he : Effect m i origin h .idle after) : after = m := by
  cases he
  rfl

/-! ## Whole steps -/

theorem time_advanced (m : Machine) (op : Operation) :
    (m.advanced op).registers.time = m.registers.time + 1 :=
  m.registers.time_put_clock _

/-- What executing the instruction on its line makes of a machine. -/
def executed (a : Architecture) (m : Machine) (h : History) : Except Fault Machine :=
  (m.advanced (a.operation (m.fetch a).op)).execute (a.operation (m.fetch a).op) (m.fetch a) m.pc h

/-- A step succeeds if and only if the instruction can be executed and its line can be written
down. -/
theorem step_eq_ok_iff : m.step a h = .ok snap ↔ ∃ after symbol,
    m.executed a h = .ok after ∧ symbolText a m.pc (m.fetch a) = .ok symbol ∧
    snap = {
      machine := after
      instruction := m.fetch a
      history := h.record after.registers.time after.registers
      origin := m.pc
      symbol := symbol } := by
  constructor
  · intro hs
    obtain ⟨after, hafter, hs⟩ := bind_eq_ok hs
    obtain ⟨symbol, hsymbol, hs⟩ := bind_eq_ok hs
    exact ⟨after, symbol, hafter, hsymbol, (Except.ok.inj hs).symm⟩
  · rintro ⟨after, symbol, hafter, hsymbol, rfl⟩
    unfold executed at hafter
    simp only [step, hafter, hsymbol]
    rfl

/-- A step can be made if and only if its instruction can be executed and its line be written
down. -/
theorem exists_step_iff : (∃ snap, m.step a h = .ok snap) ↔
    (∃ after, m.executed a h = .ok after) ∧
      ∃ symbol, symbolText a m.pc (m.fetch a) = .ok symbol := by
  constructor
  · rintro ⟨snap, hs⟩
    obtain ⟨after, symbol, hafter, hsymbol, -⟩ := step_eq_ok_iff.mp hs
    exact ⟨⟨after, hafter⟩, symbol, hsymbol⟩
  · rintro ⟨⟨after, hafter⟩, symbol, hsymbol⟩
    exact ⟨_, step_eq_ok_iff.mpr ⟨after, symbol, hafter, hsymbol, rfl⟩⟩

/-- A line can be written down if and only if its number and its instruction can. -/
theorem exists_symbolText_iff {line : Int} : (∃ symbol, symbolText a line i = .ok symbol) ↔
    line.natAbs < Numeral.writeLimit ∧ ∃ s, a.format i = .ok s := by
  rw [← Numeral.exists_write_iff]
  constructor
  · rintro ⟨symbol, hsymbol⟩
    obtain ⟨number, hnumber, hsymbol⟩ := bind_eq_ok hsymbol
    obtain ⟨s, hs, -⟩ := bind_eq_ok hsymbol
    exact ⟨⟨number, hnumber⟩, s, hs⟩
  · rintro ⟨⟨number, hnumber⟩, s, hs⟩
    unfold symbolText
    rw [hnumber, hs]
    exact ⟨_, rfl⟩

/-- What is known of a step that was made: the instruction was fetched and had one of its effects
on the machine after the clock advanced, the registers were recorded under the new time, and the
line could be written down. -/
structure Stepped (a : Architecture) (m : Machine) (h : History) (snap : Snapshot) : Prop where
  instruction : snap.instruction = m.fetch a
  effect : Effect (m.advanced (a.operation (m.fetch a).op)) (m.fetch a) m.pc h
    (a.operation (m.fetch a).op) snap.machine
  history : snap.history = h.record snap.machine.registers.time snap.machine.registers
  origin : snap.origin = m.pc
  symbol : symbolText a m.pc (m.fetch a) = .ok snap.symbol

/-- **Every step that succeeds is one of the cases.** -/
theorem stepped_of_step (hs : m.step a h = .ok snap) : Stepped a m h snap := by
  obtain ⟨after, symbol, hafter, hsymbol, rfl⟩ := step_eq_ok_iff.mp hs
  exact ⟨rfl, effect_of_execute hafter, rfl, rfl, hsymbol⟩

/-- The outcome of a step is that of the operation it executed. -/
theorem Stepped.outcome (hs : Stepped a m h snap) :
    snap.machine.outcome = (a.operation (m.fetch a).op).ending :=
  hs.effect.outcome rfl

end Machine

end Defusal
