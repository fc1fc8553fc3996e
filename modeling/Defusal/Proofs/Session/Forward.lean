import Defusal.Proofs.Machine.Translation
import Defusal.Proofs.Session.Outside

/-!
# Fixed programs that only jump forward

A fixed program of which every target lies after the line that names it cannot go round in circles.
What carries this is `remaining`, the number of steps that are left at most: the lines that lie
ahead and one step outside the program, which loses, or none if the game is over. Each step takes at
least one from it (`HasCode.remaining_lt`), wherever the machine stands, so a game is over after as
many steps as the program has lines, and one more (`HasCode.isTerminal_of_advance`).

The steps can all be made if no number in the program is too long (`Bounded`), since then the
machine never comes to a line that cannot be written (`HasCode.exists_advance`).
-/

namespace Defusal

namespace Program

variable {p : Program} {code : List Instruction} {line : Int} {i : Instruction}

/-- All targets lie after the lines that name them. -/
def IsForward (p : Program) : Prop := ∀ e ∈ p.entries, ∀ target ∈ e.2.target?, e.1 < target

instance (p : Program) : Decidable p.IsForward :=
  inferInstanceAs (Decidable (∀ e ∈ p.entries, ∀ target ∈ e.2.target?, e.1 < target))

theorem get?_fixed_eq_some_iff :
    (fixed code).get? line = some i ↔ 0 ≤ line ∧ code[line.toNat]? = some i := by
  show (if 0 ≤ line then code[line.toNat]? else none) = some i ↔ _
  split
  next hline => exact (and_iff_right hline).symm
  next hline => exact iff_of_false nofun fun h => hline h.1

theorem mem_of_get?_fixed (h : (fixed code).get? line = some i) : i ∈ code :=
  List.mem_of_getElem? (get?_fixed_eq_some_iff.mp h).2

theorem mem_entries_of_get? (h : p.get? line = some i) : (line, i) ∈ p.entries := by
  cases p with
  | sparse p => exact (mem_entries_iff p line i).mpr h
  | fixed code =>
    obtain ⟨hline, hi⟩ := get?_fixed_eq_some_iff.mp h
    refine List.mem_map.mpr ⟨(i, line.toNat), List.mem_zipIdx_iff_getElem?.mpr hi, ?_⟩
    rw [Int.toNat_of_nonneg hline]

/-- No number in a fixed program is too long: its operands can be read and shown, and its lines and
targets can be written. -/
structure Bounded (code : List Instruction) : Prop where
  length_lt : code.length < Numeral.writeLimit
  fits : ∀ i ∈ code, i.Fits
  target_lt : ∀ i ∈ code, ∀ target ∈ i.target?, target.natAbs < Numeral.writeLimit

end Program

/-! ## Where a step leads -/

namespace Machine

variable {i : Instruction} {r : Registers} {origin line : Int}

/-- On a fixed machine a step stays for an opcode that ends the game, and goes to the next line or
to the target otherwise. -/
theorem Moves.cases_fixed (h : Moves .fixed i r origin line) :
    i.op ∈ Architecture.finalOpcodes ∨ line = origin + 1 ∨ line ∈ i.target? := by
  cases h with
  | held hop => exact .inl hop
  | next _ => exact .inr (.inl rfl)
  | carried ha _ => cases ha
  | jumped ha _ _ => cases ha
  | @branched n _ _ hop hline =>
    have hraw : i.rawLine n = line := by
      unfold Instruction.rawLine
      rw [hline]
      rfl
    refine .inr (.inr ?_)
    simp only [Architecture.jumps, List.mem_cons, Prod.mk.injEq, List.not_mem_nil, or_false] at hop
    rcases hop with ⟨hop, rfl⟩ | ⟨hop, rfl⟩ | ⟨hop, rfl⟩ | ⟨hop, rfl⟩ | ⟨hop, rfl⟩ <;>
      simp only [Instruction.target?, hop, hraw, Option.mem_some]

end Machine

namespace Session

variable {s s' t : Session} {code : List Instruction} {n : Nat}

theorem HasCode.step (hs : s.HasCode code) (h : s.step = .ok s') : s'.HasCode code where
  fixed := (step_architecture h).trans hs.fixed
  program := (step_program_of_fixed h hs.fixed).trans hs.program

/-- An opcode that ends the game ends it. -/
theorem isTerminal_after {snap : Snapshot}
    (hframed : Machine.Framed s.architecture s.machine s.history snap)
    (hop : (s.machine.fetch s.architecture).op ∈ Architecture.finalOpcodes) :
    (s.after snap).isTerminal = true := by
  simp only [Architecture.finalOpcodes, List.mem_cons, List.not_mem_nil, or_false] at hop
  rcases hop with hop | hop
  · exact isTerminal_of_status (o := .won) (congrArg Status.ofOutcome (hframed.won_iff.mpr hop))
  · exact isTerminal_of_status (o := .lost) (congrArg Status.ofOutcome (hframed.lost_iff.mpr hop))

/-- A step within a fixed program ends the game, or it goes to the next line or to the target that
the instruction names. -/
theorem HasCode.step_inside (hs : s.HasCode code) (hlive : s.isTerminal = false)
    (hin : 0 ≤ s.pc ∧ s.pc < code.length) (h : s.step = .ok s') :
    ∃ i, (Program.fixed code).get? s.pc = some i ∧
      (s'.isTerminal = true ∨ s'.pc = s.pc + 1 ∨ s'.pc ∈ i.target?) := by
  have hthere : ((Program.fixed code).get? s.pc).isSome = true := Program.contains_fixed_iff.mpr hin
  obtain ⟨i, hi⟩ := Option.isSome_iff_exists.mp hthere
  have hfetch : s.machine.fetch s.architecture = i := by
    have hp : s.machine.program = .fixed code := hs.program
    have hi : (Program.fixed code).get? s.machine.pc = some i := hi
    rw [hs.fixed]
    unfold Machine.fetch
    rw [hp, hi]
    rfl
  obtain ⟨snap, hsnap, rfl⟩ := exists_stepped hlive h
  have hframed := Machine.framed_of_stepped hsnap
  have hmoves := hframed.pc
  rw [hfetch, hs.fixed] at hmoves
  refine ⟨i, hi, hmoves.cases_fixed.imp_left fun hop => isTerminal_after hframed ?_⟩
  rw [hfetch]
  exact hop

/-! ## How many steps are left -/

/-- The number of steps that are left at most. -/
def remaining (code : List Instruction) (s : Session) : Nat :=
  if s.isTerminal = true then 0 else code.length - s.pc.toNat + 1

theorem remaining_eq_zero_iff (code : List Instruction) :
    remaining code s = 0 ↔ s.isTerminal = true := by
  unfold remaining
  split
  next hover => exact iff_of_true rfl hover
  next hlive => exact iff_of_false (Nat.succ_ne_zero _) hlive

theorem remaining_le (code : List Instruction) (s : Session) :
    remaining code s ≤ code.length + 1 := by
  unfold remaining
  split <;> omega

/-- **A step of a forward program leaves fewer steps**, wherever the machine stands. -/
theorem HasCode.remaining_lt (hs : s.HasCode code) (hforward : (Program.fixed code).IsForward)
    (hlive : s.isTerminal = false) (h : s.step = .ok s') : remaining code s' < remaining code s := by
  have hbefore : remaining code s = code.length - s.pc.toNat + 1 :=
    if_neg (by rw [hlive]; exact Bool.false_ne_true)
  by_cases hover : s'.isTerminal = true
  · rw [(remaining_eq_zero_iff code).mpr hover, hbefore]
    exact Nat.succ_pos _
  have hafter : remaining code s' = code.length - s'.pc.toNat + 1 := if_neg hover
  by_cases hin : 0 ≤ s.pc ∧ s.pc < code.length
  · obtain ⟨i, hi, hover' | hnext | htarget⟩ := hs.step_inside hlive hin h
    · exact absurd hover' hover
    · omega
    · have hahead : s.pc < s'.pc := hforward _ (Program.mem_entries_of_get? hi) _ htarget
      omega
  · exact absurd (isTerminal_of_status (o := .lost) (hs.step_outside hlive hin h).2.1) hover

/-- **A game of a forward program is over after the steps that are left.** -/
theorem HasCode.isTerminal_of_advance (hs : s.HasCode code)
    (hforward : (Program.fixed code).IsForward) (hle : remaining code s ≤ n)
    (h : s.advance n = .ok t) : t.isTerminal = true := by
  induction n generalizing s with
  | zero =>
    cases h
    exact (remaining_eq_zero_iff code).mp (Nat.le_zero.mp hle)
  | succ n ih =>
    obtain ⟨u, hu, h⟩ := bind_eq_ok h
    cases hlive : s.isTerminal with
    | true =>
      rw [step_of_isTerminal hlive] at hu
      cases hu
      have hzero := (remaining_eq_zero_iff code).mpr hlive
      exact ih hs (by omega) h
    | false =>
      have hlt := hs.remaining_lt hforward hlive hu
      exact ih (hs.step hu) (by omega) h

/-! ## When the steps can be made -/

/-- With bounded numbers a step can be made and leads to the end of the game or to a line that can
be written. -/
theorem HasCode.exists_step (hs : s.HasCode code) (hcode : Program.Bounded code)
    (hline : s.isTerminal = true ∨ s.pc.natAbs < Numeral.writeLimit) :
    ∃ s', s.step = .ok s' ∧ (s'.isTerminal = true ∨ s'.pc.natAbs < Numeral.writeLimit) := by
  have hprogram : s.machine.program.Consists Instruction.Fits := by
    have hp : s.machine.program = .fixed code := hs.program
    rw [hp]
    exact fun line i hi => hcode.fits i (Program.mem_of_get?_fixed hi)
  have hfits := Machine.fetch_of_consists s.architecture hprogram (by decide) (by decide)
  obtain ⟨u, hu⟩ := (exists_step_iff_of_fits hfits).mpr hline
  refine ⟨u, hu, ?_⟩
  cases hlive : s.isTerminal with
  | true =>
    rw [step_of_isTerminal hlive] at hu
    cases hu
    exact .inl hlive
  | false =>
    by_cases hin : 0 ≤ s.pc ∧ s.pc < code.length
    · obtain ⟨i, hi, hover | hnext | htarget⟩ := hs.step_inside hlive hin hu
      · exact .inl hover
      · have hlength := hcode.length_lt
        right
        omega
      · exact .inr (hcode.target_lt i (Program.mem_of_get?_fixed hi) _ htarget)
    · exact .inl (isTerminal_of_status (o := .lost) (hs.step_outside hlive hin hu).2.1)

theorem HasCode.exists_advance (hs : s.HasCode code) (hcode : Program.Bounded code)
    (hline : s.isTerminal = true ∨ s.pc.natAbs < Numeral.writeLimit) (n : Nat) :
    ∃ t, s.advance n = .ok t := by
  induction n generalizing s with
  | zero => exact ⟨s, rfl⟩
  | succ n ih =>
    obtain ⟨u, hu, hline⟩ := hs.exists_step hcode hline
    obtain ⟨t, ht⟩ := ih (hs.step hu) hline
    refine ⟨t, ?_⟩
    unfold Session.advance
    rw [hu]
    exact ht

/-! ## Levels -/

theorem status_of_isTerminal (h : s.isTerminal = true) : s.status = .won ∨ s.status = .lost := by
  unfold isTerminal at h
  cases hstatus : s.status <;> rw [hstatus] at h <;> simp_all [Status.isTerminal]

/-- **A fixed program that only jumps forward ends.** Whatever the registers of the level and the
player's value are, a run of as many steps as the program has lines, and one more, wins or loses. It
fails only because of a number that is too long, and not at all if the value can be read and no
number in the program is too long. -/
theorem forward_games_end {level : Level} (ha : level.architecture = .fixed)
    (hp : Program.read level.architecture level.program = .ok (.fixed code))
    (hforward : (Program.fixed code).IsForward) (value : Datum) :
    (∀ t, (fresh level value >>= fun s => s.run (code.length + 1)) = .ok t →
      t.status = .won ∨ t.status = .lost) ∧
    (∀ f, (fresh level value >>= fun s => s.run (code.length + 1)) = .error f → f.IsTooLong) ∧
    ((∃ n, value.lenient = .ok n) → Program.Bounded code →
      ∃ t, (fresh level value >>= fun s => s.run (code.length + 1)) = .ok t) := by
  have hfresh : ∀ {s}, fresh level value = .ok s → s.HasCode code ∧ s.pc = 0 := by
    intro s hs
    obtain ⟨r, p, -, hread, rfl⟩ := fresh_eq_ok hs
    cases hp.symm.trans hread
    exact ⟨⟨ha, rfl⟩, congrArg Architecture.firstLine ha⟩
  have hrun : ∀ s : Session, s.run (code.length + 1) = s.advance (code.length + 1) :=
    run_eq_advance (Nat.succ_pos _)
  refine ⟨fun t ht => ?_, ?_, fun hvalue hcode => ?_⟩
  · obtain ⟨s, hs, ht⟩ := bind_eq_ok ht
    rw [hrun] at ht
    exact status_of_isTerminal
      ((hfresh hs).1.isTerminal_of_advance hforward (remaining_le code s) ht)
  · exact (failsOnly_fresh hp).bind fun s _ => s.start.failsOnly_steps _
  · obtain ⟨s, hs⟩ := (exists_fresh_iff hp).mpr hvalue
    obtain ⟨hcoded, hpc⟩ := hfresh hs
    have hline : s.pc.natAbs < Numeral.writeLimit := by
      rw [hpc]
      decide +kernel
    obtain ⟨t, ht⟩ := hcoded.exists_advance hcode (.inr hline) (code.length + 1)
    refine ⟨t, ?_⟩
    rw [hs, ok_bind, hrun]
    exact ht

/-- A fixed program that branches forward, at last beyond its end. -/
def leaping : Level where
  id := "leaping"
  name := "Leaping"
  architecture := .fixed
  program := .list [.text "BGT A, 3, 2", .text "WAIT", .text "BEQ A, 5, 40"]

/-- On the value 0 `leaping` passes all of its lines, so it takes the one step more. -/
theorem forward_games_end_leaping :
    (∃ t, (fresh leaping (.int 0) >>= fun s => s.run 3) = .ok t ∧ t.isTerminal = false) ∧
    ∃ t, (fresh leaping (.int 0) >>= fun s => s.run 4) = .ok t ∧
      (t.status = .won ∨ t.status = .lost) := by
  let code : List Instruction :=
    [⟨"BGT", [.text "A", .int 3, .int 2]⟩, ⟨"WAIT", []⟩, ⟨"BEQ", [.text "A", .int 5, .int 40]⟩]
  have hcode : Program.Bounded code :=
    ⟨by decide +kernel, by decide +kernel, by decide +kernel⟩
  have hp : Program.read leaping.architecture leaping.program = .ok (.fixed code) := rfl
  obtain ⟨hends, -, hexists⟩ := forward_games_end rfl hp (by decide +kernel) (.int 0)
  obtain ⟨t, ht⟩ := hexists ⟨0, rfl⟩ hcode
  exact ⟨⟨_, eq_ok_getD (by decide +kernel) default, by decide +kernel⟩, t, ht, hends t ht⟩

/-- A fixed program that compares a numeral that is too long to be read. -/
def unreadable : Level where
  id := "unreadable"
  name := "Unreadable"
  architecture := .fixed
  program := .list [.map [(.text "op", .text "BEQ"),
    (.text "args", .list [.text endless, .int 0, .int 1])]]

/-- A numeral that is too long cannot be read where it names no register. -/
theorem not_exists_resolve_endless {r : Registers}
    (hnames : ∀ name ∈ r.names, Numeral.leadingDigits name ≤ Numeral.digitLimit) :
    ¬ ∃ n, r.resolve (.text endless) = .ok n := by
  have hunnamed : r.contains endless = false := by
    refine Bool.eq_false_iff.mpr fun hthere => ?_
    have hle := hnames endless ((r.contains_iff_mem_names endless).mp hthere)
    rw [leadingDigits_endless] at hle
    exact Nat.not_succ_le_self _ hle
  rw [Registers.resolve_of_unnamed fun _ hname => Datum.text.inj hname ▸ hunnamed]
  exact not_exists_lenient_endless

/-- Not every fixed program that only jumps forward ends: here is one that cannot be run. -/
theorem forward_game_fails : ∃ code,
    Program.read unreadable.architecture unreadable.program = .ok (.fixed code) ∧
    (Program.fixed code).IsForward ∧ code.length = 1 ∧
    ¬ ∃ t, (fresh unreadable .null >>= fun s => s.run 2) = .ok t := by
  refine ⟨[⟨"BEQ", [.text endless, .int 0, .int 1]⟩], rfl, by decide, rfl, ?_⟩
  rintro ⟨t, ht⟩
  obtain ⟨s, hs, ht⟩ := bind_eq_ok ht
  have ht : s.advance 2 = .ok t := (run_eq_advance (by decide) s).symm.trans ht
  obtain ⟨u, hu, -⟩ := bind_eq_ok ht
  obtain ⟨r, p, hr, hp, rfl⟩ := fresh_eq_ok hs
  cases hr
  cases hp
  obtain ⟨⟨left, -, hleft, -⟩, -⟩ :=
    Machine.exists_step_iff_legible.mp ((exists_step_iff rfl).mp ⟨u, hu⟩)
  exact not_exists_resolve_endless (by decide +kernel) ⟨left, hleft⟩

end Session

end Defusal
