import Mathlib.Data.List.Sort
import Defusal.Viewport

/-!
# What a viewport shows

The lines of a viewport ascend strictly (`pairwise_visibleLines`), each comes with the instruction
that is read there (`line_mem_rows_iff`), and the line that the machine stands on is one of them. So
exactly one row is the current one, and it is the row of that line (`exists_current`).
-/

namespace Defusal

/-- The line number of a row that is no gap. -/
def ViewportRow.number? : ViewportRow → Option Int
  | line number _ => some number
  | gap => none

theorem ViewportRow.isCurrent_iff {row : ViewportRow} {pc : Int} :
    row.isCurrent pc = true ↔ row.number? = some pc := by
  cases row with
  | line number i => exact beq_iff_eq.trans Option.some_inj.symm
  | gap => exact iff_of_false Bool.false_ne_true nofun

namespace Viewport

variable {p : Program} {pc : Int} {ls : List Int}

/-! ## The lines -/

theorem mem_dropRepeats {line : Int} : line ∈ dropRepeats ls ↔ line ∈ ls := by
  induction ls using dropRepeats.induct with
  | case1 b rest ih =>
    unfold dropRepeats
    rw [if_pos rfl, ih]
    simp only [List.mem_cons, or_self_left]
  | case2 a b rest hne ih =>
    unfold dropRepeats
    rw [if_neg hne, List.mem_cons, List.mem_cons, ih]
  | case3 ls hshort =>
    unfold dropRepeats
    split
    next a b rest => exact absurd rfl (hshort a b rest)
    next => exact Iff.rfl

theorem pairwise_dropRepeats (h : ls.Pairwise (· ≤ ·)) : (dropRepeats ls).Pairwise (· < ·) := by
  induction ls using dropRepeats.induct with
  | case1 b rest ih =>
    unfold dropRepeats
    rw [if_pos rfl]
    exact ih h.of_cons
  | case2 a b rest hne ih =>
    unfold dropRepeats
    rw [if_neg hne, List.pairwise_cons]
    refine ⟨fun line hline => ?_, ih h.of_cons⟩
    -- What follows is not less than `b`, which is greater than `a`.
    have hrest := mem_dropRepeats.mp hline
    have hab := List.rel_of_pairwise_cons h (List.mem_cons_self ..)
    rcases List.mem_cons.mp hrest with rfl | hrest
    · omega
    · have hb := List.rel_of_pairwise_cons h.of_cons hrest
      omega
  | case3 ls hshort =>
    rcases ls with _ | ⟨a, _ | ⟨b, rest⟩⟩
    · exact .nil
    · exact List.pairwise_singleton _ _
    · exact absurd rfl (hshort a b rest)

/-- **The visible lines ascend.** -/
theorem pairwise_visibleLines (p : Program) (pc : Int) : (visibleLines p pc).Pairwise (· < ·) :=
  pairwise_dropRepeats (List.pairwise_mergeSort' (· ≤ ·) _)

theorem mem_visibleLines {line : Int} :
    line ∈ visibleLines p pc ↔ ∃ l, (l ∈ p.lines ∨ l = pc) ∧ line ∈ around l := by
  unfold visibleLines
  rw [mem_dropRepeats, List.mem_mergeSort, List.mem_flatMap]
  simp only [List.mem_append, List.mem_singleton]

theorem pc_mem_visibleLines : pc ∈ visibleLines p pc :=
  mem_visibleLines.mpr ⟨pc, .inr rfl, List.mem_cons_of_mem _ (List.mem_cons_self ..)⟩

/-! ## The rows -/

/-- The rows of some lines begin with the row of the first; a gap may follow it. -/
theorem rowsOf_cons (p : Program) (line : Int) (ls : List Int) :
    ∃ gap, (gap = [] ∨ gap = [.gap]) ∧
      rowsOf p (line :: ls) = .line line (p.get line) :: (gap ++ rowsOf p ls) := by
  cases ls with
  | nil => exact ⟨[], .inl rfl, rfl⟩
  | cons b rest =>
    by_cases hgap : 1 < b - line
    · refine ⟨[.gap], .inr rfl, ?_⟩
      rw [rowsOf]
      exact if_pos hgap
    · refine ⟨[], .inl rfl, ?_⟩
      rw [rowsOf]
      exact if_neg hgap

/-- Without its gaps a viewport is its lines. -/
theorem numbers_rowsOf (p : Program) (ls : List Int) :
    (rowsOf p ls).filterMap ViewportRow.number? = ls := by
  induction ls with
  | nil => rfl
  | cons line ls ih =>
    obtain ⟨gap, hgap, hrows⟩ := rowsOf_cons p line ls
    rw [hrows]
    show line :: (gap ++ rowsOf p ls).filterMap ViewportRow.number? = _
    rw [List.filterMap_append, ih]
    rcases hgap with rfl | rfl <;> rfl

theorem numbers_rows (p : Program) (pc : Int) :
    (rows p pc).filterMap ViewportRow.number? = visibleLines p pc :=
  numbers_rowsOf p (visibleLines p pc)

/-- Each line comes with the instruction that is read there. -/
theorem eq_get_of_mem_rowsOf {line : Int} {i : Instruction}
    (h : ViewportRow.line line i ∈ rowsOf p ls) : i = p.get line := by
  induction ls with
  | nil => cases h
  | cons first ls ih =>
    obtain ⟨gap, hgap, hrows⟩ := rowsOf_cons p first ls
    rw [hrows] at h
    rcases List.mem_cons.mp h with heq | h
    · cases heq
      rfl
    · refine ih ((List.mem_append.mp h).resolve_left fun hmem => ?_)
      rcases hgap with rfl | rfl
      · cases hmem
      · cases List.mem_singleton.mp hmem

/-- **A viewport shows the visible lines** with what is read there. -/
theorem line_mem_rows_iff {line : Int} {i : Instruction} :
    .line line i ∈ rows p pc ↔ line ∈ visibleLines p pc ∧ i = p.get line := by
  constructor
  · intro h
    refine ⟨?_, eq_get_of_mem_rowsOf h⟩
    rw [← numbers_rows]
    exact List.mem_filterMap.mpr ⟨_, h, rfl⟩
  · rintro ⟨hline, rfl⟩
    rw [← numbers_rows] at hline
    obtain ⟨row, hrow, hnumber⟩ := List.mem_filterMap.mp hline
    cases row with
    | gap => cases hnumber
    | line number i =>
      cases hnumber
      rw [← eq_get_of_mem_rowsOf hrow]
      exact hrow

/-- Of two rows of a viewport that are no gaps, the later has the greater line. -/
theorem pairwise_rows (p : Program) (pc : Int) : (rows p pc).Pairwise fun x y =>
    ∀ a, x.number? = some a → ∀ b, y.number? = some b → a < b := by
  rw [← List.pairwise_filterMap, numbers_rows]
  exact pairwise_visibleLines p pc

/-- **Exactly one row of a viewport is the current one**, and it shows the line that the machine
stands on. -/
theorem exists_current (p : Program) (pc : Int) :
    ∃ n : Nat, (rows p pc)[n]? = some (.line pc (p.get pc)) ∧
      ∀ (k : Nat) row, (rows p pc)[k]? = some row → (row.isCurrent pc = true ↔ k = n) := by
  obtain ⟨n, hn⟩ := List.mem_iff_getElem?.mp (line_mem_rows_iff.mpr ⟨pc_mem_visibleLines, rfl⟩)
  refine ⟨n, hn, fun k row hk => ?_⟩
  rw [ViewportRow.isCurrent_iff]
  constructor
  · intro hcurrent
    -- Two rows of the same line would not ascend.
    have hpairwise := List.pairwise_iff_getElem.mp (pairwise_rows p pc)
    obtain ⟨hnlt, hn⟩ := List.getElem?_eq_some_iff.mp hn
    obtain ⟨hklt, hk⟩ := List.getElem?_eq_some_iff.mp hk
    rcases Nat.lt_trichotomy k n with hlt | heq | hgt
    · have hless := hpairwise k n hklt hnlt hlt
      rw [hk, hn] at hless
      exact absurd (hless _ hcurrent _ rfl) (Int.lt_irrefl _)
    · exact heq
    · have hless := hpairwise n k hnlt hklt hgt
      rw [hk, hn] at hless
      exact absurd (hless _ rfl _ hcurrent) (Int.lt_irrefl _)
  · rintro rfl
    cases Option.some.inj (hn.symm.trans hk)
    rfl

end Viewport

end Defusal
