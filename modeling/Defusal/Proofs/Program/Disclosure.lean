import Mathlib.Data.List.Forall2
import Defusal.Proofs.Program.Blocks

/-!
# What a viewport tells of its program

A viewport hides nothing. Who has nothing but its rows knows what is read at every line: `told` looks
the line up in the rows and takes it for idle if it is not there, and that is what is read at the line
(`told_rows`). For a line that is not shown is not stored, since a viewport shows all stored lines; it
lies in a gap or beyond the ends (`skips_of_notMem`).

So programs with the same viewport have the same instruction at every line, whatever their kinds are
and wherever their machines stand (`nothing_hidden`). When two instructions count as the same is left
open: it need not be that they are equal.
-/

namespace Defusal

namespace ViewportRow

/-- The instruction that a row shows at a line, if it shows the line. -/
def shownAt? (line : Int) : ViewportRow → Option Instruction
  | .line number i => if number = line then some i else none
  | gap => none

/-- Two rows of the same line with instructions that count as the same, or two gaps. -/
inductive Matches (Same : Instruction → Instruction → Prop) : ViewportRow → ViewportRow → Prop
  | line (number : Int) {i j : Instruction} (h : Same i j) :
      Matches Same (.line number i) (.line number j)
  | gap : Matches Same .gap .gap

theorem shownAt?_eq_some_iff {row : ViewportRow} {line : Int} {i : Instruction} :
    row.shownAt? line = some i ↔ row = .line line i := by
  cases row with
  | gap => exact iff_of_false nofun nofun
  | line number j =>
    rw [ViewportRow.line.injEq]
    show (if number = line then some j else none) = some i ↔ _
    split
    next h => exact Option.some_inj.trans (and_iff_right h).symm
    next h => exact iff_of_false nofun fun heq => h heq.1

end ViewportRow

namespace Viewport

variable {p : Program} {pc line : Int} {ls : List Int} {rs rs' : List ViewportRow}

/-! ## Lines that are not shown -/

/-- A line that some rows skip: it lies in a gap between two of them, or beyond their ends. -/
inductive Skips (rs : List ViewportRow) (line : Int) : Prop
  | inside {a b : Int} {i j : Instruction} (hgap : [.line a i, .gap, .line b j] <:+: rs)
      (ha : a < line) (hb : line < b)
  | before (h : ∀ l ∈ rs.filterMap ViewportRow.number?, line < l)
  | after (h : ∀ l ∈ rs.filterMap ViewportRow.number?, l < line)

/-- A number that an ascending list lacks lies between two neighbours or beyond the ends. -/
theorem exists_neighbours (hasc : ls.Pairwise (· < ·)) (h : line ∉ ls) :
    (∃ a b, [a, b] <:+: ls ∧ a < line ∧ line < b) ∨ (∀ l ∈ ls, line < l) ∨ ∀ l ∈ ls, l < line := by
  induction ls with
  | nil => exact .inr (.inl fun l hl => nomatch hl)
  | cons a ls ih =>
    obtain ⟨hne, hrest⟩ := not_or.mp (mt List.mem_cons.mpr h)
    rcases Int.lt_or_gt_of_ne hne with hlt | hgt
    · refine .inr (.inl (List.forall_mem_cons.mpr ⟨hlt, fun l hl => ?_⟩))
      exact hlt.trans (List.rel_of_pairwise_cons hasc hl)
    rcases ih hasc.of_cons hrest with ⟨b, c, hbc, hb, hc⟩ | hbefore | hafter
    · exact .inl ⟨b, c, hbc.trans (List.suffix_cons a ls).isInfix, hb, hc⟩
    · -- The number stands right behind `a`.
      cases ls with
      | nil => exact .inr (.inr (List.forall_mem_singleton.mpr hgt))
      | cons b ls =>
        exact .inl ⟨a, b, (List.prefix_append [a, b] ls).isInfix, hgt,
          hbefore b (List.mem_cons_self ..)⟩
    · exact .inr (.inr (List.forall_mem_cons.mpr ⟨hgt, hafter⟩))

/-- **A line that is not shown lies in a gap or beyond the ends.** -/
theorem skips_of_notMem (h : line ∉ visibleLines p pc) : Skips (rows p pc) line := by
  rcases exists_neighbours (pairwise_visibleLines p pc) h with ⟨a, b, hab, ha, hb⟩ | hbefore | hafter
  · have hbetween := between_rowsOf p hab
    have hspacer : spacer a b = [.gap] := if_pos (by omega)
    rw [hspacer] at hbetween
    exact .inside hbetween ha hb
  · exact .before (by rwa [numbers_rows])
  · exact .after (by rwa [numbers_rows])

/-- Nothing is stored at a line that is not shown. -/
theorem get_of_notMem (h : line ∉ visibleLines p pc) : p.get line = .idle := by
  have hstored : ¬ p.contains line = true := fun hstored =>
    h (mem_visibleLines_iff.mpr ⟨line, .inl hstored, .inr (.inl rfl)⟩)
  unfold Program.contains at hstored
  unfold Program.get
  rw [Option.not_isSome_iff_eq_none.mp hstored]
  rfl

/-! ## What is told -/

/-- What some rows tell of a line: the instruction that they show there, and that it is idle if they do
not show it. -/
def told (rs : List ViewportRow) (line : Int) : Instruction :=
  (rs.findSome? (·.shownAt? line)).getD .idle

/-- **The rows of a viewport tell what is read at every line.** -/
theorem told_rows (p : Program) (pc line : Int) : told (rows p pc) line = p.get line := by
  unfold told
  cases hfound : (rows p pc).findSome? (·.shownAt? line) with
  | some i =>
    obtain ⟨row, hrow, hi⟩ := List.exists_of_findSome?_eq_some hfound
    obtain rfl := ViewportRow.shownAt?_eq_some_iff.mp hi
    exact (line_mem_rows_iff.mp hrow).2
  | none =>
    have hskipped : line ∉ visibleLines p pc := by
      intro hline
      have hshown := line_mem_rows_iff.mpr ⟨hline, rfl⟩
      have hnone := List.findSome?_eq_none_iff.mp hfound _ hshown
      exact nomatch hnone.symm.trans (ViewportRow.shownAt?_eq_some_iff.mpr rfl)
    exact (get_of_notMem hskipped).symm

/-- Rows that match tell the same. -/
theorem told_of_matches {Same : Instruction → Instruction → Prop} (hidle : Same .idle .idle)
    (h : List.Forall₂ (ViewportRow.Matches Same) rs rs') (line : Int) :
    Same (told rs line) (told rs' line) := by
  unfold told
  induction h with
  | nil => exact hidle
  | cons hrow _ ih =>
    rw [List.findSome?_cons, List.findSome?_cons]
    cases hrow with
    | gap => exact ih
    | line number hsame =>
      by_cases hline : number = line
      · rw [ViewportRow.shownAt?, ViewportRow.shownAt?, if_pos hline, if_pos hline]
        exact hsame
      · rw [ViewportRow.shownAt?, ViewportRow.shownAt?, if_neg hline, if_neg hline]
        exact ih

/-- **A viewport hides nothing.** If two programs of any kinds have the same viewport, for machines
that stand anywhere, the same instruction is read at every line of both; and this is so for whatever it
means that two instructions are the same. A line that is not shown lies in a gap or beyond the ends,
and the idle instruction is read there. -/
theorem nothing_hidden (p q : Program) (a b : Int) :
    (rows p a = rows q b → ∀ line, p.get line = q.get line) ∧
    (∀ Same : Instruction → Instruction → Prop, Same .idle .idle →
      List.Forall₂ (ViewportRow.Matches Same) (rows p a) (rows q b) →
        ∀ line, Same (p.get line) (q.get line)) ∧
    ∀ line, (∀ i, .line line i ∉ rows p a) → Skips (rows p a) line ∧ p.get line = .idle := by
  refine ⟨fun heq line => ?_, fun Same hidle hmatch line => ?_, fun line hline => ?_⟩
  · rw [← told_rows p a, ← told_rows q b, heq]
  · rw [← told_rows p a, ← told_rows q b]
    exact told_of_matches hidle hmatch line
  · have hnot : line ∉ visibleLines p a := fun hshown =>
      hline _ (line_mem_rows_iff.mpr ⟨hshown, rfl⟩)
    exact ⟨skips_of_notMem hnot, get_of_notMem hnot⟩

/-- The rows can be worked out by insertion sort, which reduces by its recursion alone. -/
theorem rows_eq_insertionSort (p : Program) (pc : Int) : rows p pc =
    rowsOf p (dropRepeats (((p.lines ++ [pc]).flatMap around).insertionSort (· ≤ ·))) := by
  unfold rows visibleLines
  rw [List.mergeSort_eq_insertionSort]

/-- A sparse and two fixed programs of two lines, on which the machines stand on different lines. The
second fixed program jumps by a boolean where the first jumps by the number that it counts as. -/
theorem nothing_hidden_sparse_fixed :
    let p : Program := .sparse (.ofList [(1, ⟨"DEFUSE", []⟩), (0, ⟨"JUMP", [.int 1]⟩)])
    let q : Program := .fixed [⟨"JUMP", [.int 1]⟩, ⟨"DEFUSE", []⟩]
    let r : Program := .fixed [⟨"JUMP", [.bool true]⟩, ⟨"DEFUSE", []⟩]
    let Same : Instruction → Instruction → Prop := fun i j => i.same j = true
    (rows p 0 = rows q 1 ∧ ∀ line, p.get line = q.get line) ∧
    (List.Forall₂ (ViewportRow.Matches Same) (rows p 0) (rows r 1) ∧
      ∀ line, Same (p.get line) (r.get line)) ∧
    Skips (rows p 0) 7 ∧ p.get 7 = .idle := by
  intro p q r Same
  have hrows : rows p 0 = rows q 1 := by
    rw [rows_eq_insertionSort, rows_eq_insertionSort]
    rfl
  have hp : rows p 0 = [.line (-1) .idle, .line 0 ⟨"JUMP", [.int 1]⟩, .line 1 ⟨"DEFUSE", []⟩,
      .line 2 .idle] := by
    rw [rows_eq_insertionSort]
    rfl
  have hr : rows r 1 = [.line (-1) .idle, .line 0 ⟨"JUMP", [.bool true]⟩, .line 1 ⟨"DEFUSE", []⟩,
      .line 2 .idle] := by
    rw [rows_eq_insertionSort]
    rfl
  have hidle : Same .idle .idle := by decide +kernel
  have hmatch : List.Forall₂ (ViewportRow.Matches Same) (rows p 0) (rows r 1) := by
    rw [hp, hr]
    exact .cons (.line _ hidle) (.cons (.line _ (by decide +kernel))
      (.cons (.line _ (by decide +kernel)) (.cons (.line _ hidle) .nil)))
  have hseven : ∀ i, .line 7 i ∉ rows p 0 := by
    rw [hp]
    simp
  obtain ⟨hequal, -, hskipped⟩ := nothing_hidden p q 0 1
  obtain ⟨-, hsame, -⟩ := nothing_hidden p r 0 1
  exact ⟨⟨hrows, hequal hrows⟩, ⟨hmatch, hsame Same hidle hmatch⟩, hskipped 7 hseven⟩

end Viewport

end Defusal
