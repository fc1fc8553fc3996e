import Defusal.Level.Bundled
import Defusal.Proofs.Program.Insertion
import Defusal.Proofs.Session.Run

/-!
# Programs that change themselves keep their instructions

An insertion pushes lines up and forgets none. `Program.Embeds p q c φ` says so for any number of
insertions: `φ` sends every line of `p` to the line of `q` where its instruction went, in the same
order and at most `c` lines up, and `q` stores `c` lines more. One insertion is such an embedding
(`embeds_insertAt`), embeddings compose (`Embeds.trans`), and a step of a session is one of as many
insertions as it executes copies (`Session.step_embeds`).

So along every run of a sparse level the first program lies embedded in the present one, with as
many lines more as copies were executed, and a fixed level never changes its program at all
(`Session.program_kept`).
-/

namespace Defusal

namespace Program

/-- The instructions of `p` are found again in `q`: the one on a line of `p` went to the line that
`φ` gives, without overtaking another and at most `c` lines up, and `q` stores `c` lines more. -/
structure Embeds (p q : Program) (c : Nat) (φ : Int → Int) : Prop where
  mono : ∀ {k l : Int}, k < l → φ k < φ l
  get?_eq : ∀ line, q.get? (φ line) = p.get? line
  ge : ∀ line, line ≤ φ line
  le : ∀ line, φ line ≤ line + c
  size_eq : q.size = p.size + c

theorem Embeds.refl (p : Program) : Embeds p p 0 id where
  mono h := h
  get?_eq _ := rfl
  ge _ := Int.le_refl _
  le line := by show line ≤ line + 0; omega
  size_eq := rfl

theorem Embeds.trans {p q r : Program} {c d : Nat} {φ ψ : Int → Int} (h₁ : Embeds p q c φ)
    (h₂ : Embeds q r d ψ) : Embeds p r (c + d) (ψ ∘ φ) where
  mono h := h₂.mono (h₁.mono h)
  get?_eq line := (h₂.get?_eq (φ line)).trans (h₁.get?_eq line)
  ge line := Int.le_trans (h₁.ge line) (h₂.ge (φ line))
  le line := by
    have h := h₁.le line
    have h' := h₂.le (φ line)
    show ψ (φ line) ≤ line + (c + d : Nat)
    omega
  size_eq := by rw [h₂.size_eq, h₁.size_eq, Nat.add_assoc]

/-- Stored lines go to stored lines, and the instructions on them are the same. -/
theorem Embeds.of_mem_lines {p q : Program} {c : Nat} {φ : Int → Int} (h : Embeds p q c φ)
    {line : Int} (hline : line ∈ p.lines) : φ line ∈ q.lines ∧ q.get (φ line) = p.get line := by
  constructor
  · rw [mem_lines_iff] at hline ⊢
    unfold contains at hline ⊢
    rw [h.get?_eq]
    exact hline
  · unfold get
    rw [h.get?_eq]

/-- **An insertion embeds** the program before it into the one after it, wherever the target is. -/
theorem embeds_insertAt (p : SparseProgram) (target : Int) (i : Instruction) :
    Embeds (sparse p) (sparse (p.insertAt target i)) 1 (displaced target) where
  mono := displaced_lt
  get?_eq line := get?_displaced p target line i
  ge line := by
    unfold displaced
    split <;> omega
  le line := by
    unfold displaced
    split <;> omega
  size_eq := size_insertAt p target i

/-- Programs that are read for a sparse machine are sparse. -/
theorem eq_sparse_of_read {d : Datum} {p : Program} (h : read .sparse d = .ok p) :
    ∃ lines, p = sparse lines := by
  unfold read at h
  split at h
  next ha _ => cases ha
  next ha _ => cases ha
  next =>
    obtain ⟨entries, -, h⟩ := bind_eq_ok h
    cases h
    exact ⟨_, rfl⟩
  next => cases h
  next => cases h
  next =>
    obtain ⟨code, -, h⟩ := bind_eq_ok h
    cases h
    exact ⟨_, rfl⟩

end Program

namespace Session

variable {s s' : Session} {level : Level}

/-- How many of the first `n` steps execute an instruction with some opcode. -/
def timesExecuted (op : String) (s : Nat → Session) (n : Nat) : Nat :=
  (List.range n).countP fun i => (s i).executes op

theorem timesExecuted_succ (op : String) (s : Nat → Session) (n : Nat) :
    timesExecuted op s (n + 1) = timesExecuted op s n + if (s n).executes op then 1 else 0 := by
  unfold timesExecuted
  rw [List.range_succ, List.countP_append, List.countP_singleton]

/-- A step that does not execute a copy keeps the program. -/
theorem step_program (h : s.step = .ok s')
    (hop : s.architecture.operation (s.machine.fetch s.architecture).op ≠ .copy) :
    s'.program = s.program := by
  rcases step_cases h with ⟨-, rfl⟩ | ⟨-, snap, hsnap, rfl⟩
  · rfl
  · exact hsnap.effect.program_eq hop

theorem step_program_of_fixed (h : s.step = .ok s') (ha : s.architecture = .fixed) :
    s'.program = s.program := by
  refine step_program h ?_
  rw [ha]
  exact Architecture.operation_fixed_ne_copy _

/-- A step of a sparse session changes the program by as many insertions as it executes copies. -/
theorem step_embeds {p : SparseProgram} (h : s.step = .ok s') (ha : s.architecture = .sparse)
    (hp : s.program = .sparse p) :
    ∃ q φ, s'.program = .sparse q ∧
      Program.Embeds s.program s'.program (if s.executes "COPY" then 1 else 0) φ := by
  by_cases hx : s.executes "COPY" = true
  · rw [if_pos hx]
    obtain ⟨hlive, hname⟩ := executes_iff.mp hx
    obtain ⟨snap, hsnap, rfl⟩ := exists_stepped hlive h
    have hop : s.architecture.operation (s.machine.fetch s.architecture).op = .copy := by
      rw [ha] at hname ⊢
      exact Architecture.operation_eq_copy_iff.mpr ⟨rfl, hname⟩
    obtain ⟨target, copied, hcopy⟩ := (hop ▸ hsnap.effect).program_copy
    have hcopy : (s.after snap).program = s.program.insertAt target copied := hcopy
    rw [hcopy, hp]
    exact ⟨_, _, rfl, Program.embeds_insertAt p target copied⟩
  · -- Either the game is over or what is executed is no copy.
    rw [if_neg hx]
    have hkept : s'.program = s.program := by
      rcases step_cases h with ⟨-, rfl⟩ | ⟨hlive, -⟩
      · rfl
      refine step_program h fun hop => hx ?_
      exact executes_iff.mpr ⟨hlive, (Architecture.operation_eq_copy_iff.mp hop).2⟩
    rw [hkept]
    exact ⟨p, id, hp, .refl _⟩

/-- Along a run of a sparse session the first program lies embedded in the present one. -/
theorem IsRun.embeds {s : Nat → Session} (ha : (s 0).architecture = .sparse) {p : SparseProgram}
    (hp : (s 0).program = .sparse p) : ∀ {n : Nat}, IsRun s n →
      ∃ q φ, (s n).program = .sparse q ∧
        Program.Embeds (s 0).program (s n).program (timesExecuted "COPY" s n) φ := by
  intro n
  induction n with
  | zero => intro _; exact ⟨p, id, hp, .refl _⟩
  | succ n ih =>
    intro hrun
    obtain ⟨q, φ, hq, hφ⟩ := ih hrun.of_succ
    have han : (s n).architecture = .sparse := hrun.of_succ.architecture_eq.trans ha
    obtain ⟨r, ψ, hr, hψ⟩ := step_embeds hrun.last han hq
    rw [timesExecuted_succ]
    exact ⟨r, _, hr, hφ.trans hψ⟩

/-- The program of a fixed level is the same in every reachable session. -/
theorem Reachable.program_of_fixed (ha : level.architecture = .fixed) {s₀ : Session}
    (h₀ : Session.create level = .ok s₀) (h : Reachable level s) : s.program = s₀.program := by
  obtain ⟨r₀, p, -, hp, rfl⟩ := fresh_eq_ok h₀
  refine (h.induct (P := fun t => t.architecture = .fixed ∧ t.program = p) ?_ ?_ ?_).2.2
  · -- The player's value has no part in reading the program.
    intro v t ht
    obtain ⟨r, q, -, hq, rfl⟩ := fresh_eq_ok ht
    exact ⟨ha, Except.ok.inj (hq.symm.trans hp)⟩
  · intro t ht
    unfold start
    split <;> exact ht
  · intro t t' ht hstep
    exact ⟨(step_architecture hstep).trans ht.1, (step_program_of_fixed hstep ht.1).trans ht.2⟩

/-- A sparse level is played on sparse programs. -/
theorem Reachable.program_of_sparse (ha : level.architecture = .sparse) (h : Reachable level s) :
    ∃ p, s.program = .sparse p := by
  refine (h.induct (P := fun t => t.architecture = .sparse ∧ ∃ p, t.program = .sparse p)
    ?_ ?_ ?_).2.2
  · intro v t ht
    obtain ⟨r, p, -, hp, rfl⟩ := fresh_eq_ok ht
    rw [ha] at hp
    exact ⟨ha, Program.eq_sparse_of_read hp⟩
  · intro t ht
    unfold start
    split <;> exact ht
  · intro t t' ht hstep
    obtain ⟨p, hp⟩ := ht.2
    obtain ⟨q, -, hq, -⟩ := step_embeds hstep ht.1 hp
    exact ⟨(step_architecture hstep).trans ht.1, q, hq⟩

/-- **No instruction is lost, reordered or edited.** On a sparse level the program at the start of
any run lies embedded in the program after it, with as many lines more as copies were executed; a
fixed level has one program in all its sessions. -/
theorem program_kept :
    (level.architecture = .sparse → ∀ (s : Nat → Session) (n : Nat), Reachable level (s 0) →
      IsRun s n → ∃ φ : Int → Int,
        Program.Embeds (s 0).program (s n).program (timesExecuted "COPY" s n) φ ∧
        ∀ line ∈ (s 0).program.lines, φ line ∈ (s n).program.lines ∧
          (s n).program.get (φ line) = (s 0).program.get line) ∧
    (level.architecture = .fixed → ∀ s₀ s : Session, create level = .ok s₀ → Reachable level s →
      s.program = s₀.program) := by
  constructor
  · intro ha s n h₀ hrun
    obtain ⟨p, hp⟩ := h₀.program_of_sparse ha
    have ha₀ : (s 0).architecture = .sparse := (congrArg Level.architecture h₀.level_eq).trans ha
    obtain ⟨q, φ, -, hφ⟩ := hrun.embeds ha₀ hp
    exact ⟨φ, hφ, fun line hline => hφ.of_mem_lines hline⟩
  · intro ha s₀ s h₀ h
    exact h.program_of_fixed ha h₀

/-- A level that copies its own copying line three times in five steps, and a fixed level that
is lost. -/
theorem program_kept_copying :
    (∃ s : Nat → Session, Reachable .copying (s 0) ∧ IsRun s 5 ∧
      timesExecuted "COPY" s 5 = 3 ∧ ∃ φ : Int → Int, Program.Embeds (s 0).program (s 5).program 3 φ ∧
      ∀ line ∈ (s 0).program.lines, φ line ∈ (s 5).program.lines ∧
        (s 5).program.get (φ line) = (s 0).program.get line) ∧
    ∃ s : Session, Reachable .doublingFixed s ∧ s.status = .lost ∧
      s.program = (reached .doublingFixed []).program := by
  constructor
  · let s := (reached .copying [.reset (.int 5)]).along
    have hn : timesExecuted "COPY" s 5 = 3 := by decide +kernel
    have hs : Reachable .copying (s 0) := reachable_reached (by decide +kernel)
    have hrun : IsRun s 5 := isRun_along (by decide +kernel)
    exact ⟨s, hs, hrun, hn, hn ▸ program_kept.1 rfl s 5 hs hrun⟩
  · let s := reached .doublingFixed [.reset (.int 5), .run 9]
    have hs : Reachable .doublingFixed s := reachable_reached (by decide +kernel)
    have h₀ : create .doublingFixed = .ok (reached .doublingFixed []) :=
      eq_ok_getD (x := create .doublingFixed) (by decide +kernel) default
    exact ⟨s, hs, by decide +kernel, program_kept.2 rfl _ s h₀ hs⟩

end Session

end Defusal
