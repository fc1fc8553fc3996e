import Defusal.Proofs.Level.Kept
import Defusal.Proofs.Machine.Limits
import Defusal.Proofs.Session.Provenance

/-!
# Levels that are accepted can be played

The check that a level passes when it is read is done apart from the game that is later made of it.
`accepted_playable` says how far it reaches: a level that is accepted can always be begun, and
whatever is done with its games, the registers that it names are there. This is an invariant of the
registers and of everything that the history holds (`Covered`), because time travel brings back the
registers of another time as a whole: what was added since may go, but what the level names was
there at every time.

Nothing is refused but numbers that are too long. The check does not look at operands, so there are
accepted levels of which a step fails, and a game cannot be reset on every text
(`accepted_unplayable`).
-/

namespace Defusal

/-! ## Registers that stay -/

/-- There is a register of each of some names. -/
def Registers.Covers (names : List String) (r : Registers) : Prop :=
  ∀ name ∈ names, r.contains name = true

/-- Everything recorded has a register of each of some names. -/
def History.Covers (names : List String) (h : History) : Prop :=
  ∀ k r, h.lookup k = some r → r.Covers names

variable {names : List String}

theorem Registers.Covers.put {r : Registers} (h : r.Covers names) (name : String) (v : Int) :
    (r.put name v).Covers names := by
  intro other hother
  rw [contains_put, h other hother, Bool.or_true]

theorem Registers.covers_ofTable {t : Table String Int} (h : ∀ name ∈ names, name ∈ t.keys) :
    (ofTable t).Covers names := by
  intro name hname
  obtain ⟨v, hv⟩ := Option.isSome_iff_exists.mp ((Table.contains_iff t name).mpr (h name hname))
  exact Option.isSome_of_eq_some (get?_ofTable_of_eq_some hv)

theorem History.covers_start {r : Registers} (h : r.Covers names) : (start r).Covers names := by
  intro k r' hr
  rw [lookup_start] at hr
  split at hr
  · cases hr; exact h
  · cases hr

theorem History.Covers.record {h : History} {r : Registers} (hh : h.Covers names)
    (hr : r.Covers names) (time : Int) : (h.record time r).Covers names := by
  intro k r' hr'
  rw [lookup_record] at hr'
  split at hr'
  · cases hr'; exact hr
  · exact hh k r' hr'

/-- No effect takes a register away that is there now and was there at every recorded time. -/
theorem Machine.Effect.covers {m after : Machine} {i : Instruction} {origin : Int} {h : History}
    {op : Operation} (he : Effect m i origin h op after) (hm : m.registers.Covers names)
    (hh : h.Covers names) : after.registers.Covers names := by
  cases he with
  | sum => exact hm.put _ _
  | compareJump => split <;> exact hm
  | travelled hr => exact hh _ _ hr
  | _ => exact hm

namespace Session

variable {level : Level} {value : Datum} {s s' : Session} {p : Program}

/-- The registers of a session, and all that it has recorded, have a register of each of some
names. -/
structure Covered (names : List String) (s : Session) : Prop where
  registers : s.registers.Covers names
  history : s.history.Covers names

theorem Covered.step (hs : Covered names s) (h : s.step = .ok s') : Covered names s' := by
  rcases step_cases h with ⟨-, rfl⟩ | ⟨-, snap, hsnap, rfl⟩
  · exact hs
  · have hafter := hsnap.effect.covers (hs.registers.put _ _) hs.history
    refine ⟨hafter, ?_⟩
    show snap.history.Covers names
    rw [hsnap.history]
    exact hs.history.record hafter _

theorem Covered.start (hs : Covered names s) : Covered names s.start := by
  unfold Session.start
  split
  · exact ⟨hs.registers, hs.history⟩
  · exact hs

/-- A new game has the registers that its level names. -/
theorem covered_fresh (h : fresh level value = .ok s) : Covered level.registers.keys s := by
  obtain ⟨r, p, hr, -, rfl⟩ := fresh_eq_ok h
  have hcovers : r.Covers level.registers.keys := by
    unfold firstRegisters at hr
    split at hr
    · cases hr
      exact Registers.covers_ofTable fun _ hname => hname
    · obtain ⟨n, -, hr⟩ := bind_eq_ok hr
      cases hr
      refine Registers.covers_ofTable fun name hname => ?_
      rw [Table.keys_put]
      split
      · exact hname
      · exact List.mem_append_left _ hname
  exact ⟨hcovers, History.covers_start hcovers⟩

/-- **Every reachable session has the registers that its level names**, now and at every recorded
time. -/
theorem Reachable.covered (h : Reachable level s) : Covered level.registers.keys s :=
  (h.induct covered_fresh Covered.start Covered.step).2

/-! ## Where commands fail -/

theorem exists_firstRegisters_iff : (∃ r, firstRegisters level value = .ok r) ↔
    ∃ n, value.lenient = .ok n := by
  unfold firstRegisters
  split
  next => exact iff_of_true ⟨_, rfl⟩ ⟨0, rfl⟩
  next => exact exists_bind_pure_iff

/-- A level whose program can be read can be begun on every value that can be read. -/
theorem exists_fresh_iff (hp : Program.read level.architecture level.program = .ok p) :
    (∃ s, fresh level value = .ok s) ↔ ∃ n, value.lenient = .ok n := by
  refine Iff.trans ?_ (exists_firstRegisters_iff : (∃ r, firstRegisters level value = .ok r) ↔ _)
  constructor
  · rintro ⟨s, hs⟩
    obtain ⟨r, -, hr, -⟩ := fresh_eq_ok hs
    exact ⟨r, hr⟩
  · rintro ⟨r, hr⟩
    exact ⟨_, fresh_of_read hr hp⟩

theorem failsOnly_fresh (hp : Program.read level.architecture level.program = .ok p) :
    FailsOnly Fault.IsTooLong (fresh level value) := by
  unfold fresh firstMachine
  rw [hp]
  refine FailsOnly.bind (FailsOnly.bind ?_ fun _ _ => failsOnly_ok _) fun _ _ => failsOnly_ok _
  unfold firstRegisters
  split
  · exact failsOnly_ok _
  · exact value.failsOnly_lenient.bind fun _ _ => failsOnly_ok _

theorem failsOnly_step (s : Session) : FailsOnly Fault.IsTooLong s.step := by
  unfold step
  split
  · exact failsOnly_ok _
  · exact Machine.failsOnly_isTooLong_step.bind fun _ _ => failsOnly_ok _

theorem failsOnly_steps (n : Nat) (s : Session) : FailsOnly Fault.IsTooLong (steps n s) := by
  induction n generalizing s with
  | zero => exact failsOnly_ok _
  | succ n ih =>
    unfold steps
    split
    · exact failsOnly_ok _
    · exact s.failsOnly_step.bind fun t _ => ih t

theorem failsOnly_apply (hp : Program.read level.architecture level.program = .ok p)
    (hs : s.level = level) (c : Command) : FailsOnly Fault.IsTooLong (s.apply c) := by
  cases c with
  | start => exact failsOnly_ok _
  | step => exact s.failsOnly_step
  | run budget => exact s.start.failsOnly_steps budget.toNat
  | reset v => subst hs; exact failsOnly_fresh hp

/-- If the operands of the next instruction can be read and shown, a step can be made if and only if
the game is over or the number of its line can be written. -/
theorem exists_step_iff_of_fits (hfits : (s.machine.fetch s.architecture).Fits) :
    (∃ s', s.step = .ok s') ↔ s.isTerminal = true ∨ s.pc.natAbs < Numeral.writeLimit := by
  cases hlive : s.isTerminal with
  | true => exact iff_of_true ⟨s, step_of_isTerminal hlive⟩ (.inl rfl)
  | false =>
    have hstep := Machine.exists_step_iff_of_fits (h := s.history) hfits
    rw [Machine.exists_step_iff] at hstep
    rw [Session.exists_step_iff hlive, Machine.exists_step_iff, hstep]
    exact (or_iff_right Bool.false_ne_true).symm

/-- If every operand in the program of a level can be read and shown, so can those of the next
instruction in every reachable session. -/
theorem Reachable.fits_fetch (h : Reachable level s)
    (hp : Program.read level.architecture level.program = .ok p)
    (hfits : p.Consists Instruction.Fits) : (s.machine.fetch s.architecture).Fits := by
  -- What is read where the program has no line has no operands.
  have hnone {i : Instruction} (hi : i.operands = []) : i.Fits := by
    intro d hd
    rw [hi] at hd
    cases hd
  have hprogram : s.program.Consists Instruction.Fits := by
    refine (h.induct (P := fun t => t.program.Consists Instruction.Fits) ?_ ?_ ?_).2
    · intro v t ht
      obtain ⟨r, q, -, hq, rfl⟩ := fresh_eq_ok ht
      cases hp.symm.trans hq
      exact hfits
    · intro t ht
      unfold start
      split <;> exact ht
    · exact step_consists (hnone rfl)
  exact Machine.fetch_of_consists s.architecture hprogram (hnone rfl) (hnone rfl)

/-- **A level that is accepted can be played.** It can be begun, and a game of it can always be
reset on every value but a text that starts with a number of more than 4300 digits. In every session
that commands lead to there are all registers that the level names, among them the clock and the
player's. A command fails only because of a number that is too long. If the operands of the next
instruction can be read and shown, a step can be made in every game that is not over, unless the
number of its line is too long to be written; and they can if all operands in the program of the
level can. -/
theorem accepted_playable {d : Datum} (h : Level.read d = .ok level) :
    clockName ∈ level.registers.keys ∧ level.playerRegister ∈ level.registers.keys ∧
    (∃ s, create level = .ok s) ∧
    ∃ p, Program.read level.architecture level.program = .ok p ∧ ∀ s, Reachable level s →
      (∀ name ∈ level.registers.keys, s.registers.contains name = true) ∧
      (∀ v, (∃ s', s.reset v = .ok s') ↔
        ∀ t, v = .text t → Numeral.leadingDigits t ≤ Numeral.digitLimit) ∧
      (∀ c f, s.apply c = .error f → f.IsTooLong) ∧
      ((s.machine.fetch s.architecture).Fits →
        ((∃ s', s.step = .ok s') ↔ s.isTerminal = true ∨ s.pc.natAbs < Numeral.writeLimit)) ∧
      (p.Consists Instruction.Fits → (s.machine.fetch s.architecture).Fits) := by
  obtain ⟨hclock, hplayer⟩ := Level.registers_of_read h
  obtain ⟨-, -, -, -, p, hp⟩ := Level.program_of_read h
  obtain ⟨s₀, hs₀, -⟩ := Level.exists_create hp
  refine ⟨hclock, hplayer, ⟨s₀, hs₀⟩, p, hp, fun s hs => ⟨hs.covered.registers, fun v => ?_,
    failsOnly_apply hp hs.level_eq, exists_step_iff_of_fits, hs.fits_fetch hp⟩⟩
  unfold reset
  rw [hs.level_eq, exists_fresh_iff hp, Datum.exists_lenient_iff]

/-- A level that adds a register and then goes back to a time at which there was none. -/
def traveller : Datum := .map [
  (.text "name", .text "Traveller"),
  (.text "program", .list [.text "ADD A, 1, A", .text "ADD A, 1, X", .text "ADD T, -3, T",
    .text "TTRAVEL"]),
  (.text "initial_registers", .map [(.text "A", .int 0), (.text "T", .int 0)])]

/-- After its journey `traveller` has lost the register that it had added, but not the player's. It
can be stepped on, and reset on a text that is no number. -/
theorem accepted_playable_traveller : ∃ level s, Level.read traveller = .ok level ∧
    Reachable level s ∧ s.registers.contains "X" = false ∧ s.registers.contains "A" = true ∧
    (∃ s', s.step = .ok s') ∧ ∃ s', s.reset (.text "12 or so") = .ok s' := by
  let level := (Level.read traveller).toOption.getD default
  let s := reached level [.run 4]
  have hread : Level.read traveller = .ok level := eq_ok_getD (by decide +kernel) default
  have hs : Reachable level s := reachable_reached (by decide +kernel)
  obtain ⟨-, hplayer, -, p, hp, hplay⟩ := accepted_playable hread
  obtain ⟨hcovers, hreset, -, hstep, -⟩ := hplay s hs
  have hA : "A" ∈ level.registers.keys := by decide +kernel
  have hfits : (s.machine.fetch s.architecture).Fits := by decide +kernel
  have hpc : s.pc.natAbs < Numeral.writeLimit := by decide +kernel
  have hdigits : Numeral.leadingDigits "12 or so" ≤ Numeral.digitLimit := by decide +kernel
  exact ⟨level, s, hread, hs, by decide +kernel, hcovers "A" hA, (hstep hfits).mpr (.inr hpc),
    (hreset _).mpr fun t ht => by cases ht; exact hdigits⟩

/-- A numeral that is too long to be read. -/
def endless : String := String.ofList (List.replicate (Numeral.digitLimit + 1) '1')

theorem leadingDigits_endless : Numeral.leadingDigits endless = Numeral.digitLimit + 1 := by
  have htext : Text.trimStart endless.toList = List.replicate (Numeral.digitLimit + 1) '1' := by
    unfold endless
    rw [String.toList_ofList, List.replicate_succ]
    rfl
  have hsign : Numeral.splitSign (List.replicate (Numeral.digitLimit + 1) '1')
      = (false, List.replicate (Numeral.digitLimit + 1) '1') := by
    rw [List.replicate_succ]
    rfl
  have hdigit : Text.isDigit '1' = true := by decide +kernel
  unfold Numeral.leadingDigits
  rw [htext, hsign, List.takeWhile_replicate, if_pos hdigit, List.length_replicate]

theorem not_exists_lenient_endless : ¬ ∃ n, (Datum.text endless).lenient = .ok n := by
  rw [Datum.exists_lenient_iff]
  intro h
  have hle := h endless rfl
  rw [leadingDigits_endless] at hle
  exact Nat.not_succ_le_self _ hle

/-- A fixed program that jumps to where some value says. -/
def jumpingTo (target : Datum) : Datum := .map [
  (.text "name", .text "Jump"),
  (.text "architecture", .text "FIXED"),
  (.text "program", .list [.map [(.text "op", .text "JMP"), (.text "args", .list [target])]]),
  (.text "initial_registers", .map [(.text "A", .int 0), (.text "T", .int 0)])]

/-- Not everything can be played that is accepted: here is a level of which the first step fails,
and which cannot be reset on a text. -/
theorem accepted_unplayable : ∃ d level s, Level.read d = .ok level ∧ create level = .ok s ∧
    (¬ ∃ s', s.reset (.text endless) = .ok s') ∧ ¬ ∃ s', s.step = .ok s' := by
  refine ⟨jumpingTo (.text endless), _, _, rfl, rfl, ?_, ?_⟩
  · rintro ⟨s', hs'⟩
    obtain ⟨m, hm, -⟩ := bind_eq_ok hs'
    obtain ⟨r, hr, -⟩ := bind_eq_ok hm
    exact not_exists_lenient_endless (exists_firstRegisters_iff.mp ⟨r, hr⟩)
  · rw [Session.exists_step_iff rfl, Machine.exists_step_iff]
    rintro ⟨⟨after, hafter⟩, -⟩
    obtain ⟨n, hn, -⟩ := bind_eq_ok hafter
    exact not_exists_lenient_endless ⟨n, hn⟩

end Session

end Defusal
