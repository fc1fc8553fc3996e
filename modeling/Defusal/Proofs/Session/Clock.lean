import Defusal.Proofs.Session.Provenance
import Defusal.Proofs.Session.Recording

/-!
# A clock that is never turned back

Every step advances the clock by one, and only an addition into the clock's own register or a
journey in time can move it otherwise. A program without such additions never gets any, whatever it
copies, and then the journeys lead nowhere either: each step records a time that is later than all
before it, so the time that a journey looks up is always one that was never recorded.

`Ticking T₀ n s` is what a game that began at the time `T₀` is like after `n` steps: the clock has
counted them, and the recorded times are zero, where every history begins, and one time for each
step (`ticks`). A step keeps it (`Ticking.step`), a journey in time is one more idle step
(`Ticking.step_travel`), and `clock_unturned` says so of whole runs. The first time must not be
negative, or a later step would come upon the record at zero.
-/

namespace Defusal

/-- Whether an instruction is an addition into the clock. -/
def Instruction.setsClock (i : Instruction) : Bool :=
  i.op == "ADD" && i.operands[2]?.any fun d => d.shown.toOption == some clockName

namespace Machine

/-- Executing an instruction leaves the clock alone unless it is an addition into the clock or a
journey to a record that shows another time. -/
theorem Effect.time_eq {a : Architecture} {m after : Machine} {i : Instruction} {origin : Int}
    {h : History} (he : Effect m i origin h (a.operation i.op) after) (hi : i.setsClock = false)
    (hrecord : ∀ r, h.lookup m.registers.time = some r → r.time = m.registers.time) :
    after.registers.time = m.registers.time := by
  generalize hop : a.operation i.op = op at he
  cases he with
  | @sum left right target rest x y name hops _ _ hname =>
    refine m.registers.time_put_of_ne (x + y) fun hclock => ?_
    have hsets : i.setsClock = true := by
      unfold Instruction.setsClock
      rw [Architecture.operation_eq_add_iff.mp hop, hops]
      show (target.shown.toOption == some clockName) = true
      rw [hname, hclock]
      rfl
    exact absurd (hi.symm.trans hsets) Bool.false_ne_true
  | compareJump => split <;> rfl
  | travelled hr => exact hrecord _ hr
  | _ => rfl

end Machine

namespace Session

/-! ## The times that are recorded -/

/-- The times that are recorded in `n` steps from a time on: zero, and one for each step. -/
def ticks (T₀ : Int) (n : Nat) : List Int := 0 :: (List.range n).map fun k : Nat => T₀ + 1 + k

variable {T₀ : Int} {n : Nat}

theorem ticks_succ (T₀ : Int) (n : Nat) : ticks T₀ (n + 1) = ticks T₀ n ++ [T₀ + 1 + n] := by
  unfold ticks
  rw [List.range_succ, List.map_append]
  rfl

theorem le_of_mem_ticks (hT : 0 ≤ T₀) {k : Int} (hk : k ∈ ticks T₀ n) : k ≤ T₀ + n := by
  rcases List.mem_cons.mp hk with rfl | hk
  · omega
  · obtain ⟨j, hj, rfl⟩ := List.mem_map.mp hk
    have hj := List.mem_range.mp hj
    omega

/-- The recorded times are in ascending order already. -/
theorem pairwise_ticks (hT : 0 ≤ T₀) (n : Nat) : (ticks T₀ n).Pairwise (· ≤ ·) := by
  induction n with
  | zero => exact List.pairwise_singleton _ 0
  | succ n ih =>
    rw [ticks_succ]
    refine List.pairwise_append.mpr ⟨ih, List.pairwise_singleton _ _, fun k hk l hl => ?_⟩
    have hle := le_of_mem_ticks hT hk
    have hl := List.mem_singleton.mp hl
    omega

/-! ## Steps -/

/-- What a game that began at the time `T₀`, on a program without additions into the clock, is like
after `n` steps. -/
structure Ticking (T₀ : Int) (n : Nat) (s : Session) : Prop where
  program : s.program.Consists fun i => i.setsClock = false
  time : s.registers.time = T₀ + n
  recorded : s.history.recorded = ticks T₀ n

variable {s s' : Session}

/-- The time to which the next step advances is not recorded yet. -/
theorem Ticking.next_notMem (hs : Ticking T₀ n s) (hT : 0 ≤ T₀) :
    s.registers.time + 1 ∉ s.history.recorded := by
  rw [hs.time, hs.recorded]
  intro hmem
  have hle := le_of_mem_ticks hT hmem
  omega

/-- **A step of a ticking game is a tick.** -/
theorem Ticking.step (hs : Ticking T₀ n s) (hT : 0 ≤ T₀) (hlive : s.isTerminal = false)
    (h : s.step = .ok s') : Ticking T₀ (n + 1) s' := by
  have hprogram := step_consists (Q := fun i => i.setsClock = false) rfl hs.program h
  obtain ⟨snap, hsnap, rfl⟩ := exists_stepped hlive h
  have hnew := hs.next_notMem hT
  have hquiet : (s.machine.fetch s.architecture).setsClock = false :=
    Machine.fetch_of_consists s.architecture hs.program rfl rfl
  have htime : snap.machine.registers.time = s.registers.time + 1 := by
    rw [hsnap.effect.time_eq hquiet, Machine.time_advanced]
    · rfl
    · rw [Machine.time_advanced]
      intro r hr
      exact nomatch (History.lookup_eq_none_iff.mpr hnew).symm.trans hr
  refine ⟨hprogram, ?_, ?_⟩
  · show snap.machine.registers.time = _
    rw [htime, hs.time]
    omega
  · show snap.history.recorded = _
    rw [hsnap.history, htime, History.recorded_record_of_notMem _ hnew, hs.recorded, hs.time,
      ticks_succ, Int.add_right_comm]

/-- A journey in time of a ticking game is an idle step. -/
theorem Ticking.step_travel (hs : Ticking T₀ n s) (hT : 0 ≤ T₀) (hx : s.executes "TTRAVEL" = true)
    (h : s.step = .ok s') : s'.machine = s.machine.advanced .idle := by
  obtain ⟨hlive, hname⟩ := executes_iff.mp hx
  obtain ⟨snap, hsnap, rfl⟩ := exists_stepped hlive h
  have heffect := hsnap.effect
  rw [hname] at heffect
  cases ha : s.architecture with
  | sparse =>
    rw [ha] at heffect
    have hnone : s.history.lookup (s.machine.registers.time + 1) = none :=
      History.lookup_eq_none_iff.mpr (hs.next_notMem hT)
    have htravel := Machine.Effect.travel_eq heffect
    rw [Machine.time_advanced, hnone] at htravel
    exact htravel
  | fixed =>
    -- A fixed machine does not know journeys in time.
    rw [ha] at heffect
    exact Machine.Effect.idle_eq heffect

/-! ## Runs -/

variable {u : Nat → Session}

/-- A run of a ticking game ticks at every step. -/
theorem IsRun.ticking (hT : 0 ≤ T₀) (h₀ : Ticking T₀ 0 (u 0)) : ∀ {n : Nat}, IsRun u n →
    (∀ k < n, (u k).isTerminal = false) → Ticking T₀ n (u n) := by
  intro n
  induction n with
  | zero => intro _ _; exact h₀
  | succ n ih =>
    intro hrun hlive
    have hn := ih hrun.of_succ fun k hk => hlive k (Nat.lt_succ_of_lt hk)
    exact hn.step hT (hlive n (Nat.lt_succ_self n)) hrun.last

/-- **Time travel needs a clock that is turned back.** Take a game that begins at a time `T₀` that is
not negative, on a program without additions into the clock. After `n` steps the clock is at
`T₀ + n` and the history has `n + 1` entries, at zero and at the times of the steps; and a journey in
time does what the idle instruction does: it advances the clock by one and moves on by one line. -/
theorem clock_unturned {level : Level} {value : Datum} (h₀ : fresh level value = .ok (u 0))
    (hrun : IsRun u n) (hlive : ∀ k < n, (u k).isTerminal = false)
    (hT : 0 ≤ (u 0).registers.time)
    (hp : (u 0).program.Consists fun i => i.setsClock = false) :
    let T₀ := (u 0).registers.time
    (u n).registers.time = T₀ + n ∧
    (u n).history.size = n + 1 ∧
    (u n).history.times = 0 :: (List.range n).map (fun k : Nat => T₀ + 1 + k) ∧
    ∀ k < n, (u k).executes "TTRAVEL" = true →
      (u (k + 1)).registers = (u k).registers.put clockName ((u k).registers.time + 1) ∧
      (u (k + 1)).machine = (u k).machine.advanced .idle := by
  intro T₀
  have hfirst : Ticking T₀ 0 (u 0) := by
    refine ⟨hp, (Int.add_zero T₀).symm, ?_⟩
    obtain ⟨r, p, -, -, hu₀⟩ := fresh_eq_ok h₀
    rw [hu₀]
    rfl
  have hticking : ∀ {k}, k ≤ n → Ticking T₀ k (u k) := fun hk =>
    (hrun.of_le hk).ticking hT hfirst fun j hj => hlive j (Nat.lt_of_lt_of_le hj hk)
  have hn := hticking (Nat.le_refl n)
  refine ⟨hn.time, ?_, ?_, fun k hk hx => ?_⟩
  · rw [History.size_eq_length, hn.recorded]
    unfold ticks
    rw [List.length_cons, List.length_map, List.length_range]
  · unfold History.times
    rw [hn.recorded, List.mergeSort_of_pairwise]
    · rfl
    · exact (pairwise_ticks hT n).imp decide_eq_true
  · have hmachine := (hticking (Nat.le_of_lt hk)).step_travel hT hx (hrun k hk)
    exact ⟨congrArg Machine.registers hmachine, hmachine⟩

/-- Counts, and tries to travel after each count; it begins at the time three. -/
def homesick : Level where
  id := "homesick"
  name := "Homesick"
  program := .list [.text "ADD A, T, A", .text "TTRAVEL", .text "COPY 2", .text "JUMP 1"]
  registers := .ofList [("A", 0), ("T", 3)]

/-- The second and the fourth step of `homesick` travel, the fourth on a copied line, and neither
gets anywhere. -/
theorem clock_unturned_homesick : ∃ u : Nat → Session,
    fresh homesick .null = .ok (u 0) ∧ IsRun u 4 ∧ (u 0).registers.time = 3 ∧
    (u 3).executes "TTRAVEL" = true ∧ (u 4).registers = (u 3).registers.put clockName 7 ∧
    (u 4).history.times = [0, 4, 5, 6, 7] := by
  let u := (reached homesick []).along
  have h₀ : fresh homesick .null = .ok (u 0) :=
    eq_ok_getD (x := fresh homesick .null) (by decide +kernel) default
  have hrun : IsRun u 4 := isRun_along (by decide +kernel)
  have htime : (u 0).registers.time = 3 := by decide +kernel
  have hx : (u 3).executes "TTRAVEL" = true := by decide +kernel
  have hp : (u 0).program.Consists fun i => i.setsClock = false :=
    Program.consists_of_entries (by decide +kernel)
  obtain ⟨-, -, htimes, htravel⟩ :=
    clock_unturned h₀ hrun (by decide +kernel) (by decide +kernel) hp
  rw [htime] at htimes
  have hregisters := (htravel 3 (by decide) hx).1
  have hlast : (u 3).registers.time + 1 = 7 := by decide +kernel
  rw [hlast] at hregisters
  exact ⟨u, h₀, hrun, htime, hx, hregisters, htimes⟩

end Session

end Defusal
