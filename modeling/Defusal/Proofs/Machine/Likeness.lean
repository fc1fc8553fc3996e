import Mathlib.Data.List.Forall2
import Defusal.Proofs.Machine.Effect

/-!
# Machines that cannot be told apart

A step reads little of a machine: the clock, the registers that its operands name, the instruction
that it fetches, the one that it copies, and the registers recorded at the present time. A
`Likeness` is a way for the registers, histories and programs of two machines to differ in nothing
that is read: its laws say what has to agree, and that what is written keeps it so.

`Likeness.step` draws the conclusion once for all opcodes of both architectures: two machines that
are alike either fail with the same fault or execute the same instruction and are alike again. So
they stay alike for any number of steps (`Likeness.snapshots`).

`Likeness.hiding` is the likeness of machines whose registers agree but for some that are hidden
from the program. With nothing hidden, registers and histories are alike that hold the same, in
whatever order.
-/

namespace Defusal

/-- An operand of an instruction is read: each one is, or might be, but for the third of an
addition, which names the register that is written. -/
def Instruction.Reads (i : Instruction) (d : Datum) : Prop :=
  ∃ n, i.operands[n]? = some d ∧ (n = 2 → i.op ≠ "ADD")

namespace Machine

/-- Relations between the parts of two machines that no step can tell apart. -/
structure Likeness (a : Architecture) where
  registers : Registers → Registers → Prop
  history : History → History → Prop
  program : Program → Program → Prop
  time_eq : ∀ {r s}, registers r s → r.time = s.time
  put : ∀ {r s}, registers r s → ∀ name v, registers (r.put name v) (s.put name v)
  lookup : ∀ {h k}, history h k → ∀ time, Option.Rel registers (h.lookup time) (k.lookup time)
  record : ∀ {h k r s}, history h k → registers r s →
    ∀ time, history (h.record time r) (k.record time s)
  fetch_eq : ∀ {m n : Machine}, program m.program n.program → m.pc = n.pc → m.fetch a = n.fetch a
  copied : ∀ {p q}, program p q → ∀ source target,
    program (p.insertAt target (p.get source)) (q.insertAt target (q.get source))
  resolve_eq : ∀ {m n : Machine} {r s} {d : Datum}, program m.program n.program → registers r s →
    (m.fetch a).Reads d → r.resolve d = s.resolve d

namespace Likeness

variable {a : Architecture} (L : Likeness a)

/-- Two machines that are alike and stand on the same line. -/
structure Machines (m n : Machine) : Prop where
  registers : L.registers m.registers n.registers
  pc : m.pc = n.pc
  program : L.program m.program n.program
  outcome : m.outcome = n.outcome

/-- What two steps leave behind that are alike. -/
structure Snapshots (x y : Snapshot) : Prop where
  machine : L.Machines x.machine y.machine
  history : L.history x.history y.history
  instruction : x.instruction = y.instruction
  origin : x.origin = y.origin
  symbol : x.symbol = y.symbol

variable {L} {m n : Machine} {h k : History} {i : Instruction} {origin : Int} {op : Operation}

/-- Operands are read alike, missing ones too. -/
theorem resolve_operand {r s : Registers} (hread : ∀ d, i.Reads d → r.resolve d = s.resolve d)
    {j : Nat} (hj : j = 2 → i.op ≠ "ADD") : r.resolve (i.operand j) = s.resolve (i.operand j) := by
  unfold Instruction.operand
  cases hd : i.operands[j]? with
  | none => rfl
  | some d => exact hread d ⟨j, hd, hj⟩

/-! ## One operation at a time -/

section Operations

variable (hm : L.Machines m n)
  (hread : ∀ d, i.Reads d → m.registers.resolve d = n.registers.resolve d)

include hm hread

theorem add : Alike L.Machines (m.add i) (n.add i) := by
  unfold Machine.add
  rcases hops : i.operands with _ | ⟨left, _ | ⟨right, _ | ⟨target, rest⟩⟩⟩
  · exact .ok hm
  · exact .ok hm
  · exact .ok hm
  · have hleft := hread left ⟨0, by rw [hops]; rfl, nofun⟩
    have hright := hread right ⟨1, by rw [hops]; rfl, nofun⟩
    show Alike _ (m.registers.resolve left >>= _) (n.registers.resolve left >>= _)
    rw [hleft, hright]
    refine .bind_same _ fun x => .bind_same _ fun y => .bind_same _ fun name => .ok ?_
    exact { hm with registers := L.put hm.registers name (x + y) }

theorem jump : Alike L.Machines (m.jump i) (n.jump i) := by
  unfold Machine.jump
  rw [resolve_operand hread (j := 0) nofun]
  exact .bind_same _ fun line => .ok { hm with pc := rfl }

theorem compareJump (hop : i.op ≠ "ADD") :
    Alike L.Machines (m.compareJump i) (n.compareJump i) := by
  unfold Machine.compareJump
  rw [resolve_operand hread (j := 0) nofun, resolve_operand hread (j := 2) fun _ => hop,
    resolve_operand hread (j := 3) nofun]
  refine .bind_same _ fun left => .bind_same _ fun symbol => .bind_same _ fun right =>
    .bind_same _ fun line => .ok ?_
  split
  · exact { hm with pc := rfl }
  · exact hm

theorem branch (test : Comparison) : Alike L.Machines (m.branch test i) (n.branch test i) := by
  unfold Machine.branch
  rw [resolve_operand hread (j := 0) nofun, resolve_operand hread (j := 1) nofun]
  refine .bind_same _ fun left => .bind_same _ fun right => ?_
  split
  · exact .bind_same _ fun line => .ok { hm with pc := rfl }
  · exact .ok hm

theorem copy : Alike L.Machines (m.copy origin i) (n.copy origin i) := by
  unfold Machine.copy
  rw [resolve_operand hread (j := 0) nofun]
  refine .bind_same _ fun source => ?_
  cases hd : i.operands[1]? with
  | none => exact .ok { hm with program := L.copied hm.program source (origin + 1) }
  | some d =>
    show Alike _ (m.registers.resolve d >>= _) (n.registers.resolve d >>= _)
    rw [hread d ⟨1, hd, nofun⟩]
    refine .bind_same _ fun target => .ok ?_
    exact { hm with
      program := L.copied hm.program source target
      pc := by rw [hm.pc] }

omit hread in
theorem travel (hh : L.history h k) : L.Machines (m.travel h) (n.travel k) := by
  unfold Machine.travel
  have hrel := L.lookup hh m.registers.time
  rw [← L.time_eq hm.registers]
  generalize h.lookup m.registers.time = x at hrel ⊢
  generalize k.lookup m.registers.time = y at hrel ⊢
  cases hrel with
  | some hr => exact { hm with registers := hr }
  | none => exact hm

end Operations

/-- **Machines that are alike execute an instruction alike.** -/
theorem execute (hm : L.Machines m n) (hh : L.history h k) (hop : a.operation i.op = op)
    (hread : ∀ d, i.Reads d → m.registers.resolve d = n.registers.resolve d) :
    Alike L.Machines (m.execute op i origin h) (n.execute op i origin k) := by
  cases op with
  | idle => exact .ok hm
  | add => exact add hm hread
  | jump => exact jump hm hread
  | compareJump =>
    refine compareJump hm hread fun hadd => ?_
    rw [Architecture.operation_eq_add_iff.mpr hadd] at hop
    cases hop
  | copy => exact copy hm hread
  | travel => exact .ok (travel hm hh)
  | directJump => exact .bind_same _ fun line => .ok { hm with pc := rfl }
  | branch test => exact branch hm hread test
  | defuse => exact .ok { hm with outcome := rfl }
  | explode => exact .ok { hm with outcome := rfl }

/-! ## Steps -/

theorem advanced (hr : L.registers m.registers n.registers) (hpc : m.pc = n.pc)
    (hp : L.program m.program n.program) (op : Operation) :
    L.Machines (m.advanced op) (n.advanced op) where
  registers := by
    show L.registers (m.registers.put _ _) (n.registers.put _ _)
    rw [L.time_eq hr]
    exact L.put hr _ _
  pc := by
    unfold Machine.advanced
    rw [hpc]
  program := hp
  outcome := rfl

/-- **Machines that are alike make steps that are alike.** How the step before ended does not
matter. -/
theorem step (hr : L.registers m.registers n.registers) (hpc : m.pc = n.pc)
    (hp : L.program m.program n.program) (hh : L.history h k) :
    Alike L.Snapshots (m.step a h) (n.step a k) := by
  unfold Machine.step
  have hadvanced := advanced hr hpc hp (a.operation (m.fetch a).op)
  rw [← L.fetch_eq hp hpc, ← hpc]
  refine (execute hadvanced hh rfl fun d hd => ?_).bind fun {x y} hxy => ?_
  · exact L.resolve_eq hp hadvanced.registers hd
  · refine .bind_same _ fun symbol => .ok ⟨hxy, ?_, rfl, rfl, rfl⟩
    show L.history (h.record _ _) (k.record _ _)
    rw [L.time_eq hxy.registers]
    exact L.record hh hxy.registers _

end Likeness

/-- What each of so many steps leaves behind. -/
def snapshots (a : Architecture) : Nat → Machine → History → Except Fault (List Snapshot)
  | 0, _, _ => .ok []
  | n + 1, m, h => do
    let snap ← m.step a h
    return snap :: (← snapshots a n snap.machine snap.history)

/-- **Machines that are alike make any number of steps that are alike.** -/
theorem Likeness.snapshots {a : Architecture} {L : Likeness a} (count : Nat) {m n : Machine}
    {h k : History} (hr : L.registers m.registers n.registers) (hpc : m.pc = n.pc)
    (hp : L.program m.program n.program) (hh : L.history h k) :
    Alike (List.Forall₂ L.Snapshots) (m.snapshots a count h) (n.snapshots a count k) := by
  induction count generalizing m n h k with
  | zero => exact .ok .nil
  | succ count ih =>
    refine (Likeness.step hr hpc hp hh).bind fun {x y} hxy => ?_
    have hrest := ih hxy.machine.registers hxy.machine.pc hxy.machine.program hxy.history
    exact hrest.bind fun hxs => .ok (.cons hxy hxs)

end Machine

/-! ## Hidden registers -/

/-- Registers that agree in all but some hidden ones. -/
def Registers.SameBut (hidden : String → Prop) (r s : Registers) : Prop :=
  ∀ name, ¬ hidden name → r.get? name = s.get? name

/-- Histories that record at the same times registers that agree in all but some hidden ones. -/
def History.SameBut (hidden : String → Prop) (h k : History) : Prop :=
  ∀ time, Option.Rel (Registers.SameBut hidden) (h.lookup time) (k.lookup time)

variable {hidden : String → Prop}

namespace Registers.SameBut

variable {r s : Registers}

theorem time_eq (h : r.SameBut hidden s) (hclock : ¬ hidden clockName) : r.time = s.time := by
  have hget := h clockName hclock
  rw [get?_clock, get?_clock] at hget
  exact Option.some.inj hget

theorem put (h : r.SameBut hidden s) (name : String) (v : Int) :
    (r.put name v).SameBut hidden (s.put name v) := by
  intro other hother
  rw [get?_put, get?_put, h other hother]

/-- An operand that names no hidden register stands for the same number. -/
theorem resolve_eq (h : r.SameBut hidden s) {d : Datum}
    (hd : ∀ name, d = .text name → ¬ hidden name) : r.resolve d = s.resolve d := by
  cases d with
  | text name =>
    simp only [resolve, h name (hd name rfl)]
  | _ => rfl

end Registers.SameBut

namespace History.SameBut

variable {h k : History}

theorem start {r s : Registers} (hr : r.SameBut hidden s) :
    (History.start r).SameBut hidden (.start s) := by
  intro time
  rw [lookup_start, lookup_start]
  split
  · exact .some hr
  · exact .none

theorem record {r s : Registers} (hh : h.SameBut hidden k) (hr : r.SameBut hidden s) (time : Int) :
    (h.record time r).SameBut hidden (k.record time s) := by
  intro other
  rw [lookup_record, lookup_record]
  split
  · exact .some hr
  · exact hh other

theorem mem_recorded_iff (hh : h.SameBut hidden k) (time : Int) :
    time ∈ h.recorded ↔ time ∈ k.recorded := by
  rw [← Decidable.not_iff_not, ← lookup_eq_none_iff, ← lookup_eq_none_iff]
  have hrel := hh time
  generalize h.lookup time = x at hrel ⊢
  generalize k.lookup time = y at hrel ⊢
  cases hrel with
  | some => exact iff_of_false nofun nofun
  | none => exact Iff.rfl

/-- The same times are recorded. -/
theorem times_eq (hh : h.SameBut hidden k) : h.times = k.times := by
  have hperm : h.recorded.Perm k.recorded :=
    (List.perm_ext_iff_of_nodup h.table.nodup_keys k.table.nodup_keys).mpr hh.mem_recorded_iff
  have hsorted : ∀ l : List Int, (l.mergeSort fun a b => decide (a ≤ b)).Pairwise (· ≤ ·) := by
    intro l
    refine (List.pairwise_mergeSort ?_ ?_ l).imp of_decide_eq_true
    · intro a b c hab hbc
      exact decide_eq_true (Int.le_trans (of_decide_eq_true hab) (of_decide_eq_true hbc))
    · intro a b
      rw [Bool.or_eq_true, decide_eq_true_iff, decide_eq_true_iff]
      exact Int.le_total a b
  have hsort := (List.mergeSort_perm h.recorded fun a b => decide (a ≤ b)).trans
    (hperm.trans (List.mergeSort_perm k.recorded fun a b => decide (a ≤ b)).symm)
  exact hsort.eq_of_pairwise (fun _ _ _ _ => Int.le_antisymm) (hsorted _) (hsorted _)

end History.SameBut

/-- The likeness of machines that agree in all registers but some that are hidden, on programs that
are related in some way and read no hidden register. -/
def Machine.Likeness.hiding {a : Architecture} (hidden : String → Prop)
    (program : Program → Program → Prop) (hclock : ¬ hidden clockName)
    (fetch_eq : ∀ {m n : Machine}, program m.program n.program → m.pc = n.pc →
      m.fetch a = n.fetch a)
    (copied : ∀ {p q}, program p q → ∀ source target,
      program (p.insertAt target (p.get source)) (q.insertAt target (q.get source)))
    (unread : ∀ {m n : Machine}, program m.program n.program →
      ∀ name, (m.fetch a).Reads (.text name) → ¬ hidden name) : Likeness a where
  registers := Registers.SameBut hidden
  history := History.SameBut hidden
  program := program
  time_eq h := h.time_eq hclock
  put h := h.put
  lookup h := h
  record h := h.record
  fetch_eq := fetch_eq
  copied := copied
  resolve_eq hp hr hd := hr.resolve_eq fun name hname => unread hp name (hname ▸ hd)

end Defusal
