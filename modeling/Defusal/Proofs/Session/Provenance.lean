import Defusal.Proofs.Program.Embedding
import Defusal.Proofs.Session.Coherence

/-!
# Where the instructions of a running program come from

A program that changes itself inserts copies of what it reads, and where nothing is stored it reads
the idle instruction. So a property that every stored instruction has, and the idle one too, is
never lost: `Program.Consists` says that a program stores nothing else, an effect keeps it
(`Machine.Effect.consists`), and so do steps and runs (`step_consists`, `IsRun.consists`).

How a game ended can be told from the instruction that ended it: `IsRun.ended_iff` says that a game
is over in some way exactly if one of its steps executed an instruction that ends it in that way.
Together the two say that no bomb is defused or explodes by an instruction that its level does not
have (`endings_written`), other than by leaving the program of a fixed machine.
-/

namespace Defusal

namespace Program

variable {Q : Instruction → Prop} {p : Program} {i : Instruction}

/-- Every stored instruction has a property. -/
def Consists (Q : Instruction → Prop) (p : Program) : Prop :=
  ∀ line i, p.get? line = some i → Q i

/-- An instruction is stored somewhere. -/
def Has (p : Program) (i : Instruction) : Prop := ∃ line, p.get? line = some i

theorem Consists.get (hp : p.Consists Q) (hidle : Q .idle) (line : Int) : Q (p.get line) := by
  unfold Program.get
  cases h : p.get? line with
  | none => exact hidle
  | some i => exact hp line i h

theorem Consists.insertAt (hp : p.Consists Q) (hi : Q i) (target : Int) :
    (p.insertAt target i).Consists Q := by
  cases p with
  | fixed code => exact hp
  | sparse p =>
    intro line j hj
    have hj : (p.insertAt target i).get? line = some j := hj
    rw [SparseProgram.get?_insertAt] at hj
    split at hj
    next => exact hp line j hj
    next =>
      split at hj
      next => cases hj; exact hi
      next => exact hp (line - 1) j hj

/-- It is enough to look at the entries. -/
theorem consists_of_entries (h : ∀ e ∈ p.entries, Q e.2) : p.Consists Q := by
  intro line i hi
  cases p with
  | sparse p =>
    have hi : (p.entries.find? (·.1 == line)).map Prod.snd = some i := hi
    obtain ⟨e, he, rfl⟩ := Option.map_eq_some_iff.mp hi
    exact h e (List.mem_of_find?_eq_some he)
  | fixed code =>
    have hi : (if 0 ≤ line then code[line.toNat]? else none) = some i := hi
    split at hi
    next =>
      refine h ((line.toNat : Int), i) (List.mem_map.mpr ⟨(i, line.toNat), ?_, rfl⟩)
      exact List.mem_zipIdx_iff_getElem?.mpr hi
    next => cases hi

/-- Programs that are read for a fixed machine are fixed. -/
theorem eq_fixed_of_read {d : Datum} (h : read .fixed d = .ok p) : ∃ code, p = fixed code := by
  unfold read at h
  split at h
  next => cases h
  next =>
    obtain ⟨code, -, h⟩ := bind_eq_ok h
    cases h
    exact ⟨code, rfl⟩
  next ha _ => cases ha
  next ha _ => cases ha
  next ha _ => cases ha
  next ha _ _ _ => cases ha

/-- A fixed program stores the lines from zero to its length. -/
theorem contains_fixed_iff {code : List Instruction} {line : Int} :
    (fixed code).contains line = true ↔ 0 ≤ line ∧ line < code.length := by
  show (if 0 ≤ line then code[line.toNat]? else none).isSome = true ↔ _
  split
  next h =>
    rw [isSome_getElem?]
    omega
  next h => exact iff_of_false Bool.false_ne_true fun hr => h hr.1

end Program

/-- No effect brings in an instruction from elsewhere. -/
theorem Machine.Effect.consists {Q : Instruction → Prop} {m after : Machine} {i : Instruction}
    {origin : Int} {h : History} {op : Operation} (he : Effect m i origin h op after)
    (hidle : Q .idle) (hp : m.program.Consists Q) : after.program.Consists Q := by
  cases he with
  | compareJump => split <;> exact hp
  | copyInto => exact hp.insertAt (hp.get hidle _) _
  | copyAfter => exact hp.insertAt (hp.get hidle _) _
  | _ => exact hp

/-- What is fetched has what the stored instructions have, if the two instructions have it that are
fetched where nothing is stored. -/
theorem Machine.fetch_of_consists {Q : Instruction → Prop} {m : Machine} (a : Architecture)
    (hp : m.program.Consists Q) (hidle : Q .idle) (hexplosion : Q .explosion) : Q (m.fetch a) := by
  rcases fetch_eq a m with hfetch | ⟨-, -, hfetch⟩
  · rw [hfetch]; exact hp.get hidle m.pc
  · rw [hfetch]; exact hexplosion

namespace Session

variable {Q : Instruction → Prop} {level : Level} {value : Datum} {s : Nat → Session} {n : Nat}

theorem step_consists {t t' : Session} (hidle : Q .idle) (ht : t.program.Consists Q)
    (h : t.step = .ok t') : t'.program.Consists Q := by
  rcases step_cases h with ⟨-, rfl⟩ | ⟨-, snap, hsnap, rfl⟩
  · exact ht
  · exact hsnap.effect.consists hidle ht

/-- **What every instruction of a program has, and the idle one, every instruction has that the
program ever holds.** -/
theorem IsRun.consists (hidle : Q .idle) (h₀ : (s 0).program.Consists Q) (hrun : IsRun s n) :
    (s n).program.Consists Q :=
  hrun.keeps (P := fun t => t.program.Consists Q) (step_consists hidle) h₀

/-- What a program holds in the course of a run is drawn from the program at its start. -/
theorem IsRun.drawn (hrun : IsRun s n) :
    (s n).program.Consists fun i => (s 0).program.Has i ∨ i = .idle :=
  hrun.consists (.inr rfl) fun line _ hi => .inl ⟨line, hi⟩

/-! ## How a game came to its end -/

/-- The next step ends the game in some way. -/
def Ends (o : Outcome) (s : Session) : Prop :=
  s.isTerminal = false ∧
    (s.architecture.operation (s.machine.fetch s.architecture).op).ending = some o

theorem isTerminal_of_status {t : Session} {o : Outcome} (h : t.status = .ofOutcome (some o)) :
    t.isTerminal = true := by
  unfold isTerminal
  rw [h]
  cases o <;> rfl

/-- The status after a step of a game that is not over is that of the operation it executed. -/
theorem status_of_step {t t' : Session} (hlive : t.isTerminal = false) (h : t.step = .ok t') :
    t'.status = .ofOutcome
      (t.architecture.operation (t.machine.fetch t.architecture).op).ending := by
  obtain ⟨snap, hsnap, rfl⟩ := exists_stepped hlive h
  exact congrArg Status.ofOutcome hsnap.outcome

theorem ofOutcome_inj {o o' : Option Outcome} : Status.ofOutcome o = .ofOutcome o' → o = o' := by
  rcases o with _ | _ | _ <;> rcases o' with _ | _ | _ <;> decide

/-- **A game is over in some way if and only if one of its steps ended it in that way.** -/
theorem IsRun.ended_iff {o : Outcome} (h₀ : (s 0).isTerminal = false) : ∀ {n : Nat}, IsRun s n →
    ((s n).status = .ofOutcome (some o) ↔ ∃ k < n, (s k).Ends o) := by
  intro n
  induction n with
  | zero =>
    intro _
    refine iff_of_false (fun h => ?_) fun ⟨k, hk, _⟩ => nomatch hk
    rw [isTerminal_of_status h] at h₀
    cases h₀
  | succ n ih =>
    intro hrun
    have ih := ih hrun.of_succ
    cases hover : (s n).isTerminal with
    | true =>
      -- Nothing happens any more, and the last step is none that ends the game.
      have hsame : s (n + 1) = s n := by
        have h := hrun.last
        rw [step_of_isTerminal hover] at h
        exact (Except.ok.inj h).symm
      rw [hsame, ih]
      constructor
      · rintro ⟨k, hk, hends⟩
        exact ⟨k, Nat.lt_succ_of_lt hk, hends⟩
      · rintro ⟨k, hk, hends⟩
        rcases Nat.lt_succ_iff_lt_or_eq.mp hk with hlt | rfl
        · exact ⟨k, hlt, hends⟩
        · exact absurd (hends.1.symm.trans hover) Bool.false_ne_true
    | false =>
      rw [status_of_step hover hrun.last]
      constructor
      · intro h
        exact ⟨n, Nat.lt_succ_self n, hover, ofOutcome_inj h⟩
      · rintro ⟨k, hk, hends⟩
        rcases Nat.lt_succ_iff_lt_or_eq.mp hk with hlt | rfl
        · -- An earlier end would have been the end.
          have h := isTerminal_of_status (ih.mpr ⟨k, hlt, hends⟩)
          exact absurd (hover.symm.trans h) Bool.false_ne_true
        · exact congrArg Status.ofOutcome hends.2

/-- What ends a game is an instruction of the program at the start of the run, or it is the
explosion outside the program of a fixed machine. -/
theorem IsRun.has_of_ends {o : Outcome} (hrun : IsRun s n) (hends : (s n).Ends o) :
    (∃ i, (s 0).program.Has i ∧ ((s n).architecture.operation i.op).ending = some o) ∨
      (s n).architecture = .fixed ∧ o = .lost := by
  obtain ⟨-, hending⟩ := hends
  rcases Machine.fetch_eq (s n).architecture (s n).machine with hfetch | ⟨ha, -, hfetch⟩
  · left
    rw [hfetch] at hending
    rcases hrun.drawn.get (.inr rfl) (s n).pc with hhas | hidle
    · exact ⟨_, hhas, hending⟩
    · -- The idle instruction ends no game.
      have hget : (s n).machine.program.get (s n).machine.pc = .idle := hidle
      rw [hget] at hending
      cases ha : (s n).architecture <;> rw [ha] at hending <;> cases hending
  · rw [hfetch, ha] at hending
    exact .inr ⟨ha, (Option.some.inj hending).symm⟩

theorem IsRun.program_of_fixed (ha : (s 0).architecture = .fixed) (hrun : IsRun s n) :
    (s n).program = (s 0).program := by
  refine (hrun.keeps (P := fun t => t.architecture = .fixed ∧ t.program = (s 0).program) ?_
    ⟨ha, rfl⟩).2
  intro t t' ⟨hta, htp⟩ hstep
  exact ⟨(step_architecture hstep).trans hta, (step_program_of_fixed hstep hta).trans htp⟩

/-- A fixed machine explodes on a line that says so and outside its program. -/
theorem ends_lost_iff_of_fixed {t : Session} {code : List Instruction}
    (ha : t.architecture = .fixed) (hp : t.program = .fixed code) :
    t.Ends .lost ↔ t.isTerminal = false ∧
      ((∃ i, (Program.fixed code).get? t.pc = some i ∧ i.op = "EXPLODE") ∨
        ¬ (0 ≤ t.pc ∧ t.pc < code.length)) := by
  have hfetch : t.machine.fetch .fixed = ((Program.fixed code).get? t.pc).getD .explosion :=
    congrArg (fun p => (Program.get? p t.pc).getD .explosion) hp
  unfold Ends
  rw [ha, Operation.ending_eq_lost_iff, Architecture.operation_eq_explode_iff, hfetch,
    ← Program.contains_fixed_iff]
  refine and_congr_right fun _ => ?_
  unfold Program.contains
  cases (Program.fixed code).get? t.pc with
  | none => exact iff_of_true rfl (.inr Bool.false_ne_true)
  | some i =>
    constructor
    · exact fun hop => .inl ⟨i, rfl, hop⟩
    · rintro (⟨j, hj, hop⟩ | hout)
      · exact Option.some.inj hj ▸ hop
      · exact absurd rfl hout

/-- **No bomb is defused or explodes by an instruction that its level does not have.** Whatever a
program holds in the course of a run is an instruction of the level's program or the idle one. A
game is won only if the level's program has an instruction that defuses, and on a sparse machine
lost only if it has one that explodes. A game on a fixed machine is lost if and only if some step
met an instruction that explodes or left the program. -/
theorem endings_written (h₀ : fresh level value = .ok (s 0)) (hrun : IsRun s n) :
    ∃ p, Program.read level.architecture level.program = .ok p ∧ (s 0).program = p ∧
      (∀ line i, (s n).program.get? line = some i → p.Has i ∨ i = .idle) ∧
      ((s n).status = .won → ∃ i, p.Has i ∧ i.op = "DEFUSE") ∧
      (level.architecture = .sparse → (s n).status = .lost → ∃ i, p.Has i ∧ i.op = "EXPLODE") ∧
      (level.architecture = .fixed → ((s n).status = .lost ↔ ∃ k < n,
        (s k).isTerminal = false ∧
          ((∃ i, p.get? (s k).pc = some i ∧ i.op = "EXPLODE") ∨
            ¬ (0 ≤ (s k).pc ∧ (s k).pc < p.size)))) := by
  obtain ⟨r, p, -, hp, hs₀⟩ := fresh_eq_ok h₀
  have hprogram : (s 0).program = p := by rw [hs₀]; rfl
  have hlive : (s 0).isTerminal = false := by rw [hs₀]; rfl
  have harch : ∀ {k}, k ≤ n → (s k).architecture = level.architecture := fun hk =>
    (hrun.of_le hk).architecture_eq.trans (congrArg Level.architecture (fresh_level h₀))
  subst hprogram
  refine ⟨_, hp, rfl, hrun.drawn, fun hwon => ?_, fun ha hlost => ?_, fun ha => ?_⟩
  · obtain ⟨k, hk, hends⟩ := (hrun.ended_iff (o := .won) hlive).mp hwon
    rcases (hrun.of_le (Nat.le_of_lt hk)).has_of_ends hends with ⟨i, hi, hop⟩ | ⟨-, hop⟩
    · have hop := Operation.ending_eq_won_iff.mp hop
      exact ⟨i, hi, Architecture.operation_eq_defuse_iff.mp hop⟩
    · cases hop
  · obtain ⟨k, hk, hends⟩ := (hrun.ended_iff (o := .lost) hlive).mp hlost
    rcases (hrun.of_le (Nat.le_of_lt hk)).has_of_ends hends with ⟨i, hi, hop⟩ | ⟨hfixed, -⟩
    · have hop := Operation.ending_eq_lost_iff.mp hop
      exact ⟨i, hi, Architecture.operation_eq_explode_iff.mp hop⟩
    · rw [harch (Nat.le_of_lt hk), ha] at hfixed
      cases hfixed
  · -- The program of a fixed machine is the same at every step.
    obtain ⟨code, hcode⟩ := Program.eq_fixed_of_read (ha ▸ hp)
    rw [hcode]
    refine (hrun.ended_iff (o := .lost) hlive).trans (exists_congr fun k => ?_)
    refine and_congr_right fun hk => ?_
    have hkn := Nat.le_of_lt hk
    have hsame := (hrun.of_le hkn).program_of_fixed ((harch (Nat.zero_le n)).trans ha)
    exact ends_lost_iff_of_fixed ((harch hkn).trans ha) (hsame.trans hcode)

/-- A fixed program that has nothing to stop it. -/
def runaway : Level where
  id := "runaway"
  name := "Runaway"
  architecture := .fixed
  program := .list [.text "ADD A, 1, A", .text "COPY 0"]

/-- `copying` on its solution is won by a copy of its defusing line, on a line that did not defuse
at the start; `runaway` holds nothing that explodes and is lost all the same, by leaving its
program. -/
theorem endings_written_copied :
    (∃ s : Nat → Session, fresh .copying (.int 2) = .ok (s 0) ∧ IsRun s 4 ∧
      (s 4).status = .won ∧ ((s 0).program.get (s 4).pc).op ≠ "DEFUSE" ∧
      ∃ i, (s 0).program.Has i ∧ i.op = "DEFUSE") ∧
    ∃ s : Nat → Session, fresh runaway .null = .ok (s 0) ∧ IsRun s 3 ∧ (s 3).status = .lost ∧
      ∃ k < 3, (s k).isTerminal = false ∧
        ((∃ i, (s 0).program.get? (s k).pc = some i ∧ i.op = "EXPLODE") ∨
          ¬ (0 ≤ (s k).pc ∧ (s k).pc < (s 0).program.size)) := by
  constructor
  · let s := (reached .copying [.reset (.int 2)]).along
    have h₀ : fresh .copying (.int 2) = .ok (s 0) :=
      eq_ok_getD (x := fresh .copying (.int 2)) (by decide +kernel) default
    have hrun : IsRun s 4 := isRun_along (by decide +kernel)
    have hwon : (s 4).status = .won := by decide +kernel
    obtain ⟨p, -, rfl, -, hdefuse, -⟩ := endings_written h₀ hrun
    exact ⟨s, h₀, hrun, hwon, by decide +kernel, hdefuse hwon⟩
  · let s := (reached runaway []).along
    have h₀ : fresh runaway .null = .ok (s 0) :=
      eq_ok_getD (x := fresh runaway .null) (by decide +kernel) default
    have hrun : IsRun s 3 := isRun_along (by decide +kernel)
    have hlost : (s 3).status = .lost := by decide +kernel
    obtain ⟨p, -, rfl, -, -, -, hfixed⟩ := endings_written h₀ hrun
    exact ⟨s, h₀, hrun, hlost, (hfixed rfl).mp hlost⟩

end Session

end Defusal
