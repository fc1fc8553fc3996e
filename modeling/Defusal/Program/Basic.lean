import Defusal.Architecture
import Defusal.Instruction.Basic

/-!
# Programs

A program gives an instruction for every line: `get` reads the idle instruction where nothing is
stored. A sparse program stores finitely many lines with any numbers, and an insertion pushes the
lines from the target on up by one. A fixed program stores the lines from zero to its length and
ignores insertions. `SparseProgram.get?_insertAt` says what an insertion does to every line.
-/

namespace Defusal

/-! ## Sparse programs -/

/-- The stored lines of a sparse program, in strictly ascending order. -/
structure SparseProgram where
  entries : List (Int × Instruction)
  ascending : entries.Pairwise fun a b => a.1 < b.1

namespace SparseProgram

/-- The program without lines. -/
def empty : SparseProgram := ⟨[], List.Pairwise.nil⟩

instance : Inhabited SparseProgram := ⟨empty⟩

/-- The instruction stored at a line. -/
def get? (p : SparseProgram) (line : Int) : Option Instruction :=
  (p.entries.find? (·.1 == line)).map Prod.snd

/-- The entries before a line. -/
def below (line : Int) (entries : List (Int × Instruction)) : List (Int × Instruction) :=
  entries.filter fun e => decide (e.1 < line)

/-- The entries from a line on. -/
def above (line : Int) (entries : List (Int × Instruction)) : List (Int × Instruction) :=
  entries.filter fun e => decide (line ≤ e.1)

/-- An entry moved up by one line. -/
def pushed (e : Int × Instruction) : Int × Instruction := (e.1 + 1, e.2)

/-- Inserts an instruction at a line: the lines from there on move up by one, and operands that
name lines stay as they are. -/
def insertAt (p : SparseProgram) (target : Int) (i : Instruction) : SparseProgram where
  entries := below target p.entries ++ (target, i) :: (above target p.entries).map pushed
  ascending := by
    refine List.pairwise_append.2 ⟨p.ascending.filter _, List.pairwise_cons.2 ⟨?_, ?_⟩, ?_⟩
    · intro e he
      simp only [above, List.mem_map, List.mem_filter, decide_eq_true_eq] at he
      obtain ⟨e', ⟨_, he'⟩, rfl⟩ := he
      show target < e'.1 + 1
      omega
    · refine List.pairwise_map.2 ((p.ascending.filter _).imp ?_)
      intro a b hab
      show a.1 + 1 < b.1 + 1
      omega
    · intro a ha b hb
      simp only [below, List.mem_filter, decide_eq_true_eq] at ha
      rcases List.mem_cons.1 hb with rfl | hb
      · exact ha.2
      · simp only [above, List.mem_map, List.mem_filter, decide_eq_true_eq] at hb
        obtain ⟨e', ⟨_, he'⟩, rfl⟩ := hb
        show a.1 < e'.1 + 1
        omega

/-- Stores an instruction at a line in place of what was there. -/
def put (p : SparseProgram) (line : Int) (i : Instruction) : SparseProgram where
  entries := below line p.entries ++ (line, i) :: above (line + 1) p.entries
  ascending := by
    refine List.pairwise_append.2 ⟨p.ascending.filter _, List.pairwise_cons.2 ⟨?_, ?_⟩, ?_⟩
    · intro e he
      simp only [above, List.mem_filter, decide_eq_true_eq] at he
      show line < e.1
      omega
    · exact p.ascending.filter _
    · intro a ha b hb
      simp only [below, List.mem_filter, decide_eq_true_eq] at ha
      rcases List.mem_cons.1 hb with rfl | hb
      · exact ha.2
      · simp only [above, List.mem_filter, decide_eq_true_eq] at hb
        omega

/-- The program of some lines; of equal numbers the last one counts. -/
def ofList (entries : List (Int × Instruction)) : SparseProgram :=
  entries.foldl (fun p e => p.put e.1 e.2) empty

/-! ### What the operations do to every line -/

/-- Among the entries that a test of the line keeps, those of the lines that pass it are found. -/
theorem find?_filter_line (keep : Int → Bool) (line : Int) (entries : List (Int × Instruction)) :
    (entries.filter fun e => keep e.1).find? (·.1 == line)
      = if keep line then entries.find? (·.1 == line) else none := by
  have hboth : (fun e : Int × Instruction => decide (keep e.1 = true ∧ (e.1 == line) = true)) =
      fun e => keep line && e.1 == line := by
    funext e
    by_cases hl : e.1 = line <;> simp [hl]
  rw [List.find?_filter, hboth]
  cases keep line <;> simp

theorem find?_map_pushed (line : Int) (entries : List (Int × Instruction)) :
    (entries.map pushed).find? (·.1 == line)
      = (entries.find? (·.1 == line - 1)).map pushed := by
  induction entries with
  | nil => rfl
  | cons e entries ih =>
    rw [List.map_cons, List.find?_cons, List.find?_cons, ih]
    by_cases h : e.1 = line - 1
    · simp [pushed, h]
    · have h₁ : (e.1 == line - 1) = false := by simpa using h
      have h₂ : ((pushed e).1 == line) = false := by simp [pushed]; omega
      simp only [h₁, h₂]

/-- An insertion keeps the lines before the target, stores its instruction at the target, and
moves the lines from there on up by one. -/
theorem get?_insertAt (p : SparseProgram) (target line : Int) (i : Instruction) :
    (p.insertAt target i).get? line
      = if line < target then p.get? line
        else if line = target then some i
        else p.get? (line - 1) := by
  simp only [get?, insertAt, below, above, List.find?_append, List.find?_cons, find?_map_pushed,
    find?_filter_line fun l => decide (l < target), find?_filter_line fun l => decide (target ≤ l),
    decide_eq_true_eq]
  by_cases hlt : line < target
  · have h1 : (target == line) = false := by simp; omega
    have h2 : ¬ target ≤ line - 1 := by omega
    simp [hlt, h1, h2]
  · by_cases heq : line = target
    · subst heq; simp
    · have h1 : (target == line) = false := by simp; omega
      have h2 : target ≤ line - 1 := by omega
      simp only [hlt, if_false, heq, h1, h2, if_true, Option.none_or, Option.map_map]
      cases p.entries.find? (·.1 == line - 1) <;> rfl

/-- A stored instruction is seen at its own line and nowhere else. -/
theorem get?_put (p : SparseProgram) (line other : Int) (i : Instruction) :
    (p.put line i).get? other = if other = line then some i else p.get? other := by
  simp only [get?, put, below, above, List.find?_append, List.find?_cons,
    find?_filter_line fun l => decide (l < line), find?_filter_line fun l => decide (line + 1 ≤ l),
    decide_eq_true_eq]
  by_cases heq : other = line
  · subst heq; simp
  · have h1 : (line == other) = false := by simp; omega
    by_cases hlt : other < line
    · have h2 : ¬ line + 1 ≤ other := by omega
      simp [hlt, heq, h1, h2]
    · have h2 : line + 1 ≤ other := by omega
      simp [hlt, heq, h1, h2]

end SparseProgram

/-! ## Programs of either kind -/

/-- A program. -/
inductive Program where
  | sparse (lines : SparseProgram)
  | fixed (code : List Instruction)

namespace Program

instance : Inhabited Program := ⟨fixed []⟩

/-- The instruction stored at a line. -/
def get? : Program → Int → Option Instruction
  | sparse p, line => p.get? line
  | fixed code, line => if 0 ≤ line then code[line.toNat]? else none

/-- The instruction at a line; where nothing is stored it is the idle one. -/
def get (p : Program) (line : Int) : Instruction := (p.get? line).getD .idle

/-- Whether a line is stored. -/
def contains (p : Program) (line : Int) : Bool := (p.get? line).isSome

/-- The stored lines with their instructions, in ascending order. -/
def entries : Program → List (Int × Instruction)
  | sparse p => p.entries
  | fixed code => code.zipIdx.map fun e => ((e.2 : Int), e.1)

/-- The stored line numbers in ascending order. -/
def lines (p : Program) : List Int := p.entries.map Prod.fst

/-- The number of stored lines. -/
def size : Program → Nat
  | sparse p => p.entries.length
  | fixed code => code.length

/-- Whether insertions change the program. -/
def isWritable : Program → Bool
  | sparse _ => true
  | fixed _ => false

/-- Inserts an instruction at a line; a fixed program stays as it is. -/
def insertAt (p : Program) (target : Int) (i : Instruction) : Program :=
  match p with
  | sparse lines => sparse (lines.insertAt target i)
  | fixed code => fixed code

/-- What an insertion does to the instruction that is read at each line. -/
theorem get_insertAt_sparse (p : SparseProgram) (target line : Int) (i : Instruction) :
    ((sparse p).insertAt target i).get line
      = if line < target then (sparse p).get line
        else if line = target then i
        else (sparse p).get (line - 1) := by
  show ((p.insertAt target i).get? line).getD .idle = _
  rw [SparseProgram.get?_insertAt]
  split
  · rfl
  · split <;> rfl

/-- Whether two programs are of one kind and store equal instructions at the same lines. -/
def same : Program → Program → Bool
  | sparse p, sparse q => sameEntries p.entries q.entries
  | fixed p, fixed q => p.length == q.length && (p.zip q).all fun e => e.1.same e.2
  | _, _ => false
where
  /-- Whether two lists of lines are equal one by one. -/
  sameEntries (xs ys : List (Int × Instruction)) : Bool :=
    xs.length == ys.length && (xs.zip ys).all fun e => e.1.1 == e.2.1 && e.1.2.same e.2.2

/-- The name of a program's kind. -/
def kindName : Program → String
  | sparse _ => "SparseProgramStore"
  | fixed _ => "FixedProgramStore"

/-- One line of the written form of a program. -/
def entryText (e : Int × Instruction) : Except Fault String := do
  return (← Numeral.write e.1) ++ ": " ++ e.2.op ++ " " ++ (← Datum.literal (.list e.2.operands))

/-- The written form of a program. -/
def literal (p : Program) : Except Fault String := do
  let body ← p.entries.mapM entryText
  return p.kindName ++ Datum.bracketed "(\x7b" "\x7d)" body

end Program

end Defusal
