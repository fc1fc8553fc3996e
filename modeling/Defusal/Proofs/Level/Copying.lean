import Defusal.Level.Bundled
import Defusal.Proofs.Session.Ending
import Defusal.Proofs.Session.Provenance

/-!
# The bombs that copy themselves

The bundled levels `copying` and `moreCopying` have one program but for the copying line and the
first number in B. Line 3 defuses, and no jump leads there: the targets are 4 and 5. So the bomb is
defused only if an insertion moves or copies line 3 to where the machine comes by.

A program is `Sealed` as long as that has not happened: outside of line 3 stands nothing that
defuses, and line 1 still jumps over it. A copy keeps the seal if it does not read line 3 and
inserts below it (`Sealed.insertAt`); where the registers are such that every copy is of this kind
(`CopiesHarmlessly`), a machine that is past line 3 stays past it for ever, however the program
grows (`Guarded.effect`).

In `copying` B is `1 + k * a` after `k` additions of the player's number, and only 1 and 2 ever make
that 3. In `moreCopying` the first copy goes to line `a + 2`: from 5 on that is far enough below,
and up to 2 it moves an explosion to line 5, to which the program jumps next.
-/

namespace Defusal

/-! ## Sealed programs -/

namespace Level

/-- The jump back to the addition. -/
def jumpBack : Instruction := ⟨"JUMP", [.int 5]⟩

/-- The addition to B. -/
def addition : Instruction := ⟨"ADD", [.text "A", .text "B", .text "B"]⟩

/-- The jump to an explosion when the time is over. -/
def deadline : Instruction := ⟨"CJUMP", [.text "T", .text ">", .text "15", .int 4]⟩

/-- The copying line of `copying`. -/
def copyAfter : Instruction := ⟨"COPY", [.text "B"]⟩

/-- The copying line of `moreCopying`. -/
def copyInto : Instruction := ⟨"COPY", [.text "A", .text "B"]⟩

/-- The program of both levels with a copying line. -/
def copyingCode (copy : Instruction) : SparseProgram := .ofList [
  (1, jumpBack), (2, .explosion), (3, ⟨"DEFUSE", []⟩), (4, .explosion), (5, addition), (6, copy),
  (7, deadline), (8, jumpBack)]

/-- The instructions of the program that defuse nothing, and the idle one. -/
def harmless (copy : Instruction) : List Instruction :=
  [jumpBack, .explosion, addition, copy, deadline, .idle]

theorem op_ne_defuse_of_harmless {copy : Instruction} (hcopy : copy.op = "COPY") :
    ∀ i ∈ harmless copy, i.op ≠ "DEFUSE" := by
  unfold harmless
  simp only [List.forall_mem_cons]
  exact ⟨by decide, by decide, by decide, by rw [hcopy]; decide, by decide, by decide, nofun⟩

theorem read_copying :
    Program.read .sparse copying.program = .ok (.sparse (copyingCode copyAfter)) := (rfl)

theorem read_moreCopying :
    Program.read .sparse moreCopying.program = .ok (.sparse (copyingCode copyInto)) := (rfl)

end Level

open Level

/-- Outside of line 3 a program has only such instructions of the copying levels as defuse nothing,
and line 1 jumps over line 3. -/
structure Program.Sealed (copy : Instruction) (p : Program) : Prop where
  first : p.get 1 = jumpBack
  rest : ∀ line ≠ 3, p.get line ∈ harmless copy

namespace Program

variable {copy : Instruction} {p : Program}

theorem get_copyingCode (copy : Instruction) (line : Int) : (sparse (copyingCode copy)).get line =
    if line = 8 then jumpBack else if line = 7 then deadline else if line = 6 then copy
    else if line = 5 then addition else if line = 4 then .explosion
    else if line = 3 then ⟨"DEFUSE", []⟩ else if line = 2 then .explosion
    else if line = 1 then jumpBack else .idle := by
  show ((copyingCode copy).get? line).getD .idle = _
  simp only [copyingCode, SparseProgram.ofList, List.foldl_cons, List.foldl_nil,
    SparseProgram.get?_put]
  split_ifs <;> rfl

theorem sealed_copyingCode (copy : Instruction) : Sealed copy (.sparse (copyingCode copy)) where
  first := by rw [get_copyingCode]; rfl
  rest := by
    intro line hline
    rw [get_copyingCode]
    unfold harmless
    split_ifs <;> simp

/-- An insertion below line 3 of what is not on line 3 keeps the seal. -/
theorem Sealed.insertAt (hp : Sealed copy p) {source target : Int} (hsource : source ≠ 3)
    (htarget : 4 ≤ target) : Sealed copy (p.insertAt target (p.get source)) := by
  cases p with
  | fixed code => exact hp
  | sparse p =>
    refine ⟨?_, fun line hline => ?_⟩
    · rw [get_insertAt_sparse, if_pos (by omega)]
      exact hp.first
    · rw [get_insertAt_sparse]
      -- What moves down comes from line 4 or below, so it is not what stands on line 3.
      split_ifs with hbelow hat
      · exact hp.rest line hline
      · exact hp.rest source hsource
      · exact hp.rest (line - 1) (by omega)

end Program

/-! ## Machines that never reach the defusing line -/

theorem Registers.eq_of_resolve {r : Registers} {name : String} {n x : Int}
    (h : r.get? name = some n) (hx : r.resolve (.text name) = .ok x) : x = n := by
  rw [resolve_of_get? h] at hx
  exact (Except.ok.inj hx).symm

namespace Machine

/-- A property of registers that counting the time and adding to B keep, and under which a copying
line neither reads line 3 nor inserts at it or above. -/
structure CopiesHarmlessly (copy : Instruction) (R : Registers → Prop) : Prop where
  op : copy.op = "COPY"
  tick : ∀ {r}, R r → ∀ v, R (r.put clockName v)
  sum : ∀ {r x y}, R r → r.resolve (.text "A") = .ok x → r.resolve (.text "B") = .ok y →
    R (r.put "B" (x + y))
  source : ∀ {r line}, R r → r.resolve (copy.operand 0) = .ok line → line ≠ 3
  target : ∀ {r d line}, R r → copy.operands[1]? = some d → r.resolve d = .ok line → 4 ≤ line

/-- A machine on a sealed program that is past line 3 or jumps over it next. -/
structure Guarded (copy : Instruction) (R : Registers → Prop) (m : Machine) : Prop where
  program : m.program.Sealed copy
  pc : m.pc = 1 ∨ 4 ≤ m.pc
  registers : R m.registers

variable {copy : Instruction} {R : Registers → Prop} {m : Machine} {h : History} {snap : Snapshot}

/-- What one of the harmless instructions past line 3 makes of a guarded machine is guarded. -/
theorem Guarded.effect {i : Instruction} {after : Machine} (hm : Guarded copy R m)
    (hc : CopiesHarmlessly copy R) (hpc : 4 ≤ m.pc)
    (hi : i ∈ harmless copy) (he : Effect (m.advanced (Architecture.sparse.operation i.op)) i m.pc h
      (Architecture.sparse.operation i.op) after) : Guarded copy R after := by
  have htick := hc.tick hm.registers (m.registers.time + 1)
  have hnext : 4 ≤ m.pc + 1 := by omega
  have hjump : (4 : Int) ≤ 5 := by decide
  simp only [harmless, List.mem_cons, List.not_mem_nil, or_false] at hi
  -- Of the six instructions only the copying line changes the program.
  rcases hi with rfl | rfl | rfl | rfl | rfl | rfl
  · have he : Effect (m.advanced .jump) jumpBack m.pc h .jump after := he
    cases he with
    | jump hline => cases hline; exact ⟨hm.program, .inr hjump, htick⟩
  · have he : Effect (m.advanced .explode) .explosion m.pc h .explode after := he
    cases he
    exact ⟨hm.program, .inr hpc, htick⟩
  · have he : Effect (m.advanced .add) addition m.pc h .add after := he
    cases he with
    | unwritten hshort => exact absurd hshort (by decide)
    | sum hops hx hy hname =>
      cases hops
      cases hname
      exact ⟨hm.program, .inr hnext, hc.sum htick hx hy⟩
  · rw [hc.op] at he
    have he : Effect (m.advanced .copy) i m.pc h .copy after := he
    cases he with
    | copyInto hop hsource htarget =>
      have hsealed := hm.program.insertAt (hc.source htick hsource) (hc.target htick hop htarget)
      refine ⟨hsealed, ?_, htick⟩
      -- The machine moves down with the lines if the insertion is above it.
      right
      split
      · exact Int.le_add_one hnext
      · exact hnext
    | copyAfter hop hsource =>
      exact ⟨hm.program.insertAt (hc.source htick hsource) hnext, .inr hnext, htick⟩
  · have he : Effect (m.advanced .compareJump) deadline m.pc h .compareJump after := he
    cases he with
    | compareJump hleft hsymbol hright hline =>
      cases hline
      split
      · exact ⟨hm.program, .inr (Int.le_refl 4), htick⟩
      · exact ⟨hm.program, .inr hnext, htick⟩
  · have he : Effect (m.advanced .idle) .idle m.pc h .idle after := he
    cases he
    exact ⟨hm.program, .inr hnext, htick⟩

/-- **A guarded machine stays guarded, and its step does not win.** -/
theorem Guarded.stepped (hm : Guarded copy R m) (hc : CopiesHarmlessly copy R)
    (hs : Stepped .sparse m h snap) :
    Guarded copy R snap.machine ∧ snap.machine.outcome ≠ some .won := by
  rw [hs.outcome, Ne, Operation.ending_eq_won_iff, Architecture.operation_eq_defuse_iff]
  have he := hs.effect
  rcases hm.pc with hpc | hpc
  · -- Line 1 jumps to line 5.
    have hfetch : m.fetch .sparse = jumpBack := by rw [fetch, hpc]; exact hm.program.first
    rw [hfetch] at he ⊢
    have he : Effect (m.advanced .jump) jumpBack m.pc h .jump snap.machine := he
    generalize snap.machine = after at he
    cases he with
    | jump hline =>
      cases hline
      have hjump : (4 : Int) ≤ 5 := by decide
      exact ⟨⟨hm.program, .inr hjump, hc.tick hm.registers _⟩, by decide⟩
  · have hi := hm.program.rest m.pc (by omega)
    exact ⟨hm.effect hc hpc hi he, op_ne_defuse_of_harmless hc.op _ hi⟩

/-! ## Single steps -/

/-- A copying bomb on a line, with the player's number in A, a number in B, and a time. -/
def stage (line a b time : Int) (p : Program) : Machine where
  registers := .ofList [("A", a), ("B", b), ("T", time)]
  pc := line
  program := p
  outcome := none

variable {line a b time : Int} {p : Program}

theorem executed_stage (op : Operation) (hi : p.get line = i)
    (hop : Architecture.sparse.operation i.op = op) : (stage line a b time p).executed .sparse h
      = ((stage line a b time p).advanced op).execute op i line h := by
  subst hi
  subst hop
  rfl

theorem executed_jumpBack (hi : p.get line = jumpBack) :
    (stage line a b time p).executed .sparse h = .ok (stage 5 a b (time + 1) p) :=
  executed_stage _ hi rfl

theorem executed_explosion (hi : p.get line = .explosion) :
    (stage line a b time p).executed .sparse h
      = .ok { stage line a b (time + 1) p with outcome := some .lost } :=
  executed_stage _ hi rfl

theorem executed_addition (hi : p.get line = addition) :
    (stage line a b time p).executed .sparse h
      = .ok (stage (line + 1) a (a + b) (time + 1) p) :=
  executed_stage _ hi rfl

theorem executed_deadline (hi : p.get line = deadline) (htime : time + 1 ≤ 15) :
    (stage line a b time p).executed .sparse h = .ok (stage (line + 1) a b (time + 1) p) := by
  refine (executed_stage .compareJump hi rfl).trans ?_
  have hnot : ¬ (Comparison.greater.holds (time + 1) 15 = true) := by
    unfold Comparison.holds
    rw [decide_eq_true_iff]
    omega
  exact congrArg Except.ok (if_neg hnot)

theorem executed_copyInto (hi : p.get line = copyInto) (hb : b ≤ line) :
    (stage line a b time p).executed .sparse h
      = .ok (stage (line + 2) a b (time + 1) (p.insertAt b (p.get a))) := by
  refine (executed_stage .copy hi rfl).trans ?_
  have hline : (if b ≤ line then line + 1 + 1 else line + 1) = line + 2 := by
    rw [if_pos hb, Int.add_assoc]
    rfl
  exact congrArg (fun l => Except.ok (stage l a b (time + 1) (p.insertAt b (p.get a)))) hline

end Machine

/-! ## Games -/

namespace Session

open Machine

variable {copy : Instruction} {R : Registers → Prop} {m m' : Machine} {s s' : Session} {a : Int}

/-- A game on a guarded machine cannot be won. -/
theorem not_winnable_of_guarded (hc : CopiesHarmlessly copy R) (ha : s.architecture = .sparse)
    (hm : s.machine.Guarded copy R) (hs : s.status ≠ .won) : ¬ Winnable s := by
  let P (t : Session) : Prop :=
    t.architecture = .sparse ∧ t.machine.Guarded copy R ∧ t.status ≠ .won
  refine not_winnable_of_invariant (P := P) ?_ (fun ht => ht.2.2) ⟨ha, hm, hs⟩
  rintro t t' ⟨hta, htm, ht⟩ hstep
  refine ⟨(step_architecture hstep).trans hta, ?_⟩
  rcases step_cases hstep with ⟨-, rfl⟩ | ⟨-, snap, hsnap, rfl⟩
  · exact ⟨htm, ht⟩
  · rw [hta] at hsnap
    obtain ⟨hnext, hout⟩ := htm.stepped hc hsnap
    refine ⟨hnext, fun hwon => hout ?_⟩
    exact ofOutcome_inj hwon

/-- A game on a sparse machine that is not over. -/
structure Plays (m : Machine) (s : Session) : Prop where
  sparse : s.architecture = .sparse
  machine : s.machine = m
  live : s.isTerminal = false

theorem Plays.status_ne_won (h : Plays m s) : s.status ≠ .won := by
  intro hwon
  have hlive := h.live
  unfold isTerminal at hlive
  rw [hwon] at hlive
  cases hlive

theorem Plays.not_winnable_of_guarded (h : Plays m s) (hc : CopiesHarmlessly copy R)
    (hm : m.Guarded copy R) : ¬ Winnable s :=
  Session.not_winnable_of_guarded hc h.sparse (h.machine ▸ hm) h.status_ne_won

theorem Plays.step (h : Plays m s) (hx : ∀ {h}, m.executed .sparse h = .ok m')
    (hs : s.step = .ok s') : s'.machine = m' ∧ s'.status = .ofOutcome m'.outcome := by
  obtain ⟨hexec, hstatus⟩ := executed_of_step h.live hs
  rw [h.sparse, h.machine, hx] at hexec
  obtain rfl := Except.ok.inj hexec
  exact ⟨rfl, hstatus⟩

/-- A game that goes on cannot be won if it cannot be won from there. -/
theorem Plays.not_winnable (h : Plays m s) (hx : ∀ {h}, m.executed .sparse h = .ok m')
    (hout : m'.outcome = none) (hnext : ∀ s', Plays m' s' → ¬ Winnable s') : ¬ Winnable s := by
  refine not_winnable_of_step h.status_ne_won fun s' hs => hnext s' ?_
  obtain ⟨hmachine, hstatus⟩ := h.step hx hs
  refine ⟨(step_architecture hs).trans h.sparse, hmachine, ?_⟩
  unfold isTerminal
  rw [hstatus, hout]
  rfl

theorem Plays.not_winnable_of_lost (h : Plays m s) (hx : ∀ {h}, m.executed .sparse h = .ok m')
    (hout : m'.outcome = some .lost) : ¬ Winnable s := by
  refine not_winnable_of_step h.status_ne_won fun s' hs => Session.not_winnable_of_lost ?_
  rw [(h.step hx hs).2, hout]
  rfl

/-- What so many steps of a game come to, where that can be computed. -/
theorem exists_advance_of_played {level : Level} {cs : List Command} (n : Nat) (status : Status)
    (hs : played level cs = .ok s)
    (h : (played level cs >>= advance n).toOption.map Session.status = some status) :
    ∃ s', s.advance n = .ok s' ∧ s'.status = status := by
  rw [hs] at h
  have h : (s.advance n).toOption.map Session.status = some status := h
  cases hn : s.advance n with
  | error f => rw [hn] at h; cases h
  | ok s' => rw [hn] at h; exact ⟨s', rfl, Option.some.inj h⟩

/-! ## The numbers in the registers -/

/-- The player's number is in A, and in B is a number of some kind. -/
def Holds (a : Int) (Q : Int → Prop) (r : Registers) : Prop :=
  r.get? "A" = some a ∧ ∃ b, Q b ∧ r.get? "B" = some b

variable {Q : Int → Prop} {r : Registers}

theorem Holds.tick (h : Holds a Q r) (time : Int) : Holds a Q (r.put clockName time) := by
  obtain ⟨hA, b, hb, hB⟩ := h
  refine ⟨?_, b, hb, ?_⟩
  · rw [Registers.get?_put, if_neg (by decide), hA]
  · rw [Registers.get?_put, if_neg (by decide), hB]

/-- Adding to B keeps the kind of number in it if adding the player's number does. -/
theorem Holds.sum {x y : Int} (h : Holds a Q r) (hQ : ∀ b, Q b → Q (a + b))
    (hx : r.resolve (.text "A") = .ok x) (hy : r.resolve (.text "B") = .ok y) :
    Holds a Q (r.put "B" (x + y)) := by
  obtain ⟨hA, b, hb, hB⟩ := h
  rw [Registers.eq_of_resolve hA hx, Registers.eq_of_resolve hB hy]
  refine ⟨?_, a + b, hQ b hb, ?_⟩
  · rw [Registers.get?_put, if_neg (by decide), hA]
  · rw [Registers.get?_put, if_pos rfl]

/-! ## The first level -/

/-- A number that comes of 1 when the player's is added some number of times. -/
def CountsBy (a b : Int) : Prop := ∃ k : Nat, b = 1 + k * a

theorem CountsBy.add {b : Int} : CountsBy a b → CountsBy a (a + b) := by
  rintro ⟨k, rfl⟩
  refine ⟨k + 1, ?_⟩
  rw [Int.natCast_succ, Int.add_mul]
  omega

/-- Only 1 and 2 divide 2. -/
theorem CountsBy.ne_three {b : Int} (h₁ : a ≠ 1) (h₂ : a ≠ 2) : CountsBy a b → b ≠ 3 := by
  rintro ⟨k, rfl⟩ h
  have hdvd : a ∣ 2 := ⟨k, by rw [Int.mul_comm]; omega⟩
  have hle : a ≤ 2 := Int.le_of_dvd (by decide) hdvd
  have hpos : 0 < a := by
    by_contra hneg
    have hle := Int.mul_nonpos_of_nonneg_of_nonpos (Int.natCast_nonneg k) (Int.not_lt.mp hneg)
    omega
  omega

theorem copiesHarmlessly_copyAfter (h₁ : a ≠ 1) (h₂ : a ≠ 2) :
    CopiesHarmlessly copyAfter (Holds a (CountsBy a)) where
  op := rfl
  tick := Holds.tick
  sum := fun h => h.sum fun _ => CountsBy.add
  source := by
    rintro r line ⟨-, b, hb, hB⟩ hline
    rw [Registers.eq_of_resolve hB hline]
    exact hb.ne_three h₁ h₂
  target := nofun

theorem plays_copying (hs : played .copying [.reset (.int a)] = .ok s) :
    Plays (stage 1 a 1 0 (.sparse (copyingCode copyAfter))) s := by
  rw [played_reset read_copying, fresh_of_read rfl read_copying] at hs
  cases hs
  exact ⟨rfl, rfl, rfl⟩

theorem winnable_copying_iff (hs : played .copying [.reset (.int a)] = .ok s) :
    Winnable s ↔ a = 2 := by
  constructor
  · intro hwin
    by_contra h₂
    by_cases h₁ : a = 1
    · -- The second copy is one of line 3, but it comes to stand where the explosions have come to.
      subst h₁
      obtain ⟨t, ht, hlost⟩ := exists_advance_of_played 4 .lost hs (by decide +kernel)
      exact not_winnable_of_advance ht hlost hwin
    · refine (plays_copying hs).not_winnable_of_guarded (copiesHarmlessly_copyAfter h₁ h₂) ?_ hwin
      have hone : CountsBy a 1 := ⟨0, by rw [Int.natCast_zero, Int.zero_mul, Int.add_zero]⟩
      exact ⟨Program.sealed_copyingCode copyAfter, .inl rfl, rfl, 1, hone, rfl⟩
  · rintro rfl
    exact ⟨4, exists_advance_of_played 4 .won hs (by decide +kernel)⟩

/-! ## The second level -/

/-- If the number in B leads past line 4, so it does after every addition. -/
theorem copiesHarmlessly_copyInto (ha : 5 ≤ a) : CopiesHarmlessly copyInto (Holds a (5 ≤ ·)) where
  op := rfl
  tick := Holds.tick
  sum := fun h => h.sum fun _ hb => Int.le_trans hb (Int.le_add_of_nonneg_left (by omega))
  source := by
    rintro r line ⟨hA, -⟩ hline
    rw [Registers.eq_of_resolve hA hline]
    omega
  target := by
    rintro r d line ⟨-, b, hb, hB⟩ hd hline
    cases hd
    rw [Registers.eq_of_resolve hB hline]
    omega

theorem plays_moreCopying (hs : played .moreCopying [.reset (.int a)] = .ok s) :
    Plays (stage 1 a 2 0 (.sparse (copyingCode copyInto))) s := by
  rw [played_reset read_moreCopying, fresh_of_read rfl read_moreCopying] at hs
  cases hs
  exact ⟨rfl, rfl, rfl⟩

/-- After two steps the program is to copy line `a` to line `a + 2`. -/
theorem not_winnable_moreCopying (hs : played .moreCopying [.reset (.int a)] = .ok s)
    (hnext : ∀ s', Plays (stage 6 a (a + 2) 2 (.sparse (copyingCode copyInto))) s' →
      ¬ Winnable s') : ¬ Winnable s := by
  refine (plays_moreCopying hs).not_winnable (executed_jumpBack rfl) rfl fun s' hs' => ?_
  exact hs'.not_winnable (executed_addition rfl) rfl hnext

/-- From 5 on the copies come to stand below line 4, and are none of line 3. -/
theorem not_winnable_of_large (ha : 5 ≤ a)
    (h : Plays (stage 6 a (a + 2) 2 (.sparse (copyingCode copyInto))) s) : ¬ Winnable s := by
  refine h.not_winnable_of_guarded (copiesHarmlessly_copyInto ha) ?_
  have hline : (4 : Int) ≤ 6 := by decide
  exact ⟨Program.sealed_copyingCode copyInto, .inr hline, rfl, a + 2, by omega, rfl⟩

/-- Up to 2 the copy comes to stand above line 5, and moves the explosion there to which the program
jumps back. -/
theorem not_winnable_of_small (ha : a ≤ 2)
    (h : Plays (stage 6 a (a + 2) 2 (.sparse (copyingCode copyInto))) s) : ¬ Winnable s := by
  have hbelow (line : Int) (hline : a + 2 < line) :
      ((Program.sparse (copyingCode copyInto)).insertAt (a + 2)
        ((Program.sparse (copyingCode copyInto)).get a)).get line
        = (Program.sparse (copyingCode copyInto)).get (line - 1) := by
    rw [Program.get_insertAt_sparse, if_neg (by omega), if_neg (by omega)]
  refine h.not_winnable (executed_copyInto rfl (by omega)) rfl fun s₃ h₃ => ?_
  refine h₃.not_winnable (executed_deadline (hbelow 8 (by omega)) (by decide)) rfl fun s₄ h₄ => ?_
  refine h₄.not_winnable (executed_jumpBack (hbelow 9 (by omega))) rfl fun s₅ h₅ => ?_
  exact h₅.not_winnable_of_lost (executed_explosion (hbelow 5 (by omega))) rfl

theorem winnable_moreCopying_iff (hs : played .moreCopying [.reset (.int a)] = .ok s) :
    Winnable s ↔ a = 3 := by
  constructor
  · intro hwin
    by_contra h₃
    by_cases h₄ : a = 4
    · -- The explosion on line 4 is copied to line 6, which comes next after a round.
      subst h₄
      obtain ⟨t, ht, hlost⟩ := exists_advance_of_played 7 .lost hs (by decide +kernel)
      exact not_winnable_of_advance ht hlost hwin
    · refine not_winnable_moreCopying hs (fun s' hs' => ?_) hwin
      rcases Int.lt_or_le a 3 with hsmall | hlarge
      · exact not_winnable_of_small (by omega) hs'
      · exact not_winnable_of_large (by omega) hs'
  · rintro rfl
    exact ⟨6, exists_advance_of_played 6 .won hs (by decide +kernel)⟩

/-- **Each of the two bombs has one solution.** On every number of the player the games of both
levels can be played, and they are won by some number of steps, or by any other commands than a
reset, if and only if the number is 2 for the one and 3 for the other. -/
theorem copying_bombs_solved (a : Int) :
    (∃ s, played .copying [.reset (.int a)] = .ok s ∧
      ((∃ n s', s.advance n = .ok s' ∧ s'.status = .won) ↔ a = 2) ∧
      ((∃ (cs : List Command) (s' : Session), (∀ c ∈ cs, ∀ v, c ≠ .reset v) ∧
        cs.foldlM apply s = .ok s' ∧ s'.status = .won) ↔ a = 2)) ∧
    (∃ s, played .moreCopying [.reset (.int a)] = .ok s ∧
      ((∃ n s', s.advance n = .ok s' ∧ s'.status = .won) ↔ a = 3) ∧
      ((∃ (cs : List Command) (s' : Session), (∀ c ∈ cs, ∀ v, c ≠ .reset v) ∧
        cs.foldlM apply s = .ok s' ∧ s'.status = .won) ↔ a = 3)) := by
  constructor
  · have hs : played .copying [.reset (.int a)] = .ok _ :=
      (played_reset read_copying).trans (fresh_of_read rfl read_copying)
    have hwin := winnable_copying_iff hs
    exact ⟨_, hs, hwin, winnable_iff_commands.symm.trans hwin⟩
  · have hs : played .moreCopying [.reset (.int a)] = .ok _ :=
      (played_reset read_moreCopying).trans (fresh_of_read rfl read_moreCopying)
    have hwin := winnable_moreCopying_iff hs
    exact ⟨_, hs, hwin, winnable_iff_commands.symm.trans hwin⟩

end Session

end Defusal
