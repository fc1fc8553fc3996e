import Defusal.Proofs.Machine.Likeness
import Defusal.Proofs.Session.Advance
import Defusal.Proofs.Session.Provenance

/-!
# A register that no instruction reads

What a program does not read cannot matter to it. Two games on the same program that begin with
registers which differ in one of them, not the clock, go the same way for ever if no instruction
names that register as an operand. To be the third operand of an addition is no reading: there the
register is written, and both games write to it.

The two games need not hold the same number in that register at any time. Time travel brings back
what each of them had there, and copies multiply the instructions that write to it; neither matters,
because machines that agree but for a hidden register are alike (`Machine.Likeness.unread`).
`unread_register` says of any number of steps that both games fail in the same way or end the same
but for the register.
-/

namespace Defusal

namespace Instruction

/-- Whether a value is the text of a name. -/
def isNamed (name : String) : Datum → Bool
  | .text s => s == name
  | _ => false

theorem isNamed_iff {name : String} {d : Datum} : isNamed name d = true ↔ d = .text name := by
  cases d <;> simp [isNamed]

instance (i : Instruction) (name : String) : Decidable (i.Reads (.text name)) :=
  decidable_of_iff
    (i.operands.zipIdx.any fun e => isNamed name e.1 && (e.2 != 2 || i.op != "ADD")) (by
      simp only [List.any_eq_true, Prod.exists, List.mem_zipIdx_iff_getElem?, Bool.and_eq_true,
        isNamed_iff, Bool.or_eq_true, bne_iff_ne, Reads, ← Decidable.imp_iff_not_or]
      constructor
      · rintro ⟨d, n, hd, rfl, hn⟩
        exact ⟨n, hd, hn⟩
      · rintro ⟨n, hd, hn⟩
        exact ⟨_, n, hd, rfl, hn⟩)

theorem not_reads_of_nil {i : Instruction} (h : i.operands = []) (d : Datum) : ¬ i.Reads d := by
  rintro ⟨n, hd, -⟩
  rw [h] at hd
  cases hd

end Instruction

/-- The same program twice, without an instruction that reads a register. -/
structure Program.Unread (name : String) (p q : Program) : Prop where
  same : p = q
  unread : p.Consists fun i => ¬ i.Reads (.text name)

namespace Program.Unread

variable {a : Architecture} {name : String}

theorem copied {p q : Program} (h : p.Unread name q) (source target : Int) :
    (p.insertAt target (p.get source)).Unread name (q.insertAt target (q.get source)) where
  same := by rw [h.same]
  unread := by
    have hidle := Instruction.not_reads_of_nil (i := .idle) rfl (.text name)
    exact h.unread.insertAt (h.unread.get hidle source) target

theorem fetch_eq {m n : Machine} (h : m.program.Unread name n.program) (hpc : m.pc = n.pc) :
    m.fetch a = n.fetch a := by
  unfold Machine.fetch
  rw [h.same, hpc]

theorem not_reads_fetch {m n : Machine} (h : m.program.Unread name n.program) :
    ¬ (m.fetch a).Reads (.text name) := by
  refine Machine.fetch_of_consists a h.unread ?_ ?_
  · exact Instruction.not_reads_of_nil rfl _
  · exact Instruction.not_reads_of_nil rfl _

end Program.Unread

/-- The likeness of machines that agree but for a register that their program does not read. -/
def Machine.Likeness.unread (a : Architecture) (name : String) (hclock : name ≠ clockName) :
    Likeness a :=
  .hiding (· = name) (Program.Unread name) (Ne.symm hclock) Program.Unread.fetch_eq
    Program.Unread.copied fun hp _ hreads hname => hp.not_reads_fetch (hname ▸ hreads)

namespace Session

/-! ## Sessions that are alike -/

section Alike

variable {a : Architecture} {L : Machine.Likeness a} {s t : Session}

/-- Sessions of one architecture whose machines are alike. -/
structure AlikeBy (L : Machine.Likeness a) (s t : Session) : Prop where
  left : s.architecture = a
  right : t.architecture = a
  machine : L.Machines s.machine t.machine
  history : L.history s.history t.history
  status : s.status = t.status

/-- A step of sessions that are alike is the same step. -/
theorem AlikeBy.step (h : AlikeBy L s t) : Alike (AlikeBy L) s.step t.step := by
  have hterminal : s.isTerminal = t.isTerminal := by
    unfold isTerminal
    rw [h.status]
  unfold Session.step
  rw [← hterminal]
  split
  · exact .ok h
  · rw [h.left, h.right]
    have hstep := Machine.Likeness.step h.machine.registers h.machine.pc h.machine.program h.history
    refine hstep.bind fun {x y} hxy => .ok ?_
    refine ⟨h.left, h.right, hxy.machine, hxy.history, ?_⟩
    show Status.ofOutcome x.machine.outcome = Status.ofOutcome y.machine.outcome
    rw [hxy.machine.outcome]

theorem AlikeBy.advance (n : Nat) (h : AlikeBy L s t) :
    Alike (AlikeBy L) (s.advance n) (t.advance n) := by
  induction n generalizing s t with
  | zero => exact .ok h
  | succ n ih => exact h.step.bind ih

end Alike

/-! ## Sessions that differ in one register -/

/-- Sessions that are the same but for what a register holds, now and in their records. -/
structure SameBut (name : String) (s t : Session) : Prop where
  pc : s.pc = t.pc
  program : s.program = t.program
  status : s.status = t.status
  time : s.registers.time = t.registers.time
  get?_eq : ∀ other, other ≠ name → s.registers.get? other = t.registers.get? other
  times : s.history.times = t.history.times
  history : s.history.SameBut (· = name) t.history

theorem AlikeBy.sameBut {a : Architecture} {name : String} {hclock : name ≠ clockName}
    {s t : Session} (h : AlikeBy (.unread a name hclock) s t) : SameBut name s t where
  pc := h.machine.pc
  program := h.machine.program.same
  status := h.status
  time := (Machine.Likeness.unread a name hclock).time_eq h.machine.registers
  get?_eq := h.machine.registers
  times := History.SameBut.times_eq h.history
  history := h.history

/-- **A register that no instruction reads cannot influence the game.** Take two games of levels with
the same program whose first registers agree but for one that is not the clock and that no
instruction of the program has as an operand, unless as the third of an addition. Whatever the number
of steps, either both games fail with the same fault, or they stand on the same line of the same
program in the same state, with the same time, the same recorded times and the same value in every
other register. -/
theorem unread_register {level level' : Level} {value value' : Datum} {s t : Session} {name : String}
    (hs : fresh level value = .ok s) (ht : fresh level' value' = .ok t)
    (ha : level.architecture = level'.architecture) (hp : level.program = level'.program)
    (hclock : name ≠ clockName)
    (hunread : ∀ line i, s.program.get? line = some i → ¬ i.Reads (.text name))
    (hsame : ∀ other, other ≠ name → s.registers.get? other = t.registers.get? other) (n : Nat) :
    Alike (SameBut name) (s.advance n) (t.advance n) := by
  obtain ⟨r, p, -, hread, rfl⟩ := fresh_eq_ok hs
  obtain ⟨r', p', -, hread', rfl⟩ := fresh_eq_ok ht
  have hprogram : p = p' := by
    rw [← ha, ← hp] at hread'
    exact Except.ok.inj (hread.symm.trans hread')
  have hregisters : r.SameBut (· = name) r' := hsame
  let L := Machine.Likeness.unread level.architecture name hclock
  have h₀ : AlikeBy L (opening level r p) (opening level' r' p') :=
    ⟨rfl, ha.symm, ⟨hregisters, congrArg Architecture.firstLine ha, ⟨hprogram, hunread⟩, rfl⟩,
      .start hregisters, rfl⟩
  exact (h₀.advance n).imp AlikeBy.sameBut

/-- Writes to a register twice, once by a copied line, travels back to the start and wins. -/
def spectator : Level where
  id := "spectator"
  name := "Spectator"
  program := .list [.text "ADD A, 1, B", .text "COPY 1", .text "ADD T, -5, T", .text "TTRAVEL",
    .text "DEFUSE"]
  registers := .ofList [("A", 0), ("B", 0), ("T", 0)]
  playerRegister := "B"

/-- Two games of `spectator` on different numbers are won in the same step, and each has its own
number back. -/
theorem unread_register_spectator : ∃ s t s' t' : Session,
    fresh spectator (.int 7) = .ok s ∧ fresh spectator (.int 9) = .ok t ∧
    s.advance 6 = .ok s' ∧ t.advance 6 = .ok t' ∧ SameBut "B" s' t' ∧ t'.status = .won ∧
    s'.registers.get? "B" = some 7 ∧ t'.registers.get? "B" = some 9 := by
  let s := reached spectator [.reset (.int 7)]
  let t := reached spectator [.reset (.int 9)]
  have hs : fresh spectator (.int 7) = .ok s :=
    eq_ok_getD (x := fresh spectator (.int 7)) (by decide +kernel) default
  have ht : fresh spectator (.int 9) = .ok t :=
    eq_ok_getD (x := fresh spectator (.int 9)) (by decide +kernel) default
  have hunread : s.program.Consists fun i => ¬ i.Reads (.text "B") :=
    Program.consists_of_entries (by decide +kernel)
  have hsame : ∀ other, other ≠ "B" → s.registers.get? other = t.registers.get? other := by
    intro other hother
    show ((Registers.ofTable spectator.registers).put "B" 7).get? other
      = ((Registers.ofTable spectator.registers).put "B" 9).get? other
    rw [Registers.get?_put, Registers.get?_put, if_neg hother, if_neg hother]
  have hseven : (s.advance 6).toOption.map (·.registers.get? "B") = some (some 7) := by
    decide +kernel
  have hnine : (t.advance 6).toOption.map (fun u => (u.status, u.registers.get? "B"))
      = some (.won, some 9) := by decide +kernel
  have halike := unread_register hs ht rfl rfl (by decide) hunread hsame 6
  -- Both games get that far, so they are not alike by failing.
  generalize hs' : s.advance 6 = x at halike hseven
  generalize ht' : t.advance 6 = y at halike hnine
  cases halike with
  | error f => cases hseven
  | @ok s' t' hbut =>
    obtain ⟨hwon, hnine⟩ := Prod.mk.inj (Option.some.inj hnine)
    exact ⟨s, t, s', t', hs, ht, hs', ht', hbut, hwon, Option.some.inj hseven, hnine⟩

end Session

end Defusal
