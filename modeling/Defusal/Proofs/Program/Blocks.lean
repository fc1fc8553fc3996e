import Mathlib.Data.List.Infix
import Mathlib.Data.List.Perm.Subperm
import Defusal.Proofs.Program.Entries
import Defusal.Proofs.Program.Viewport

/-!
# Blocks of neighbouring lines

The visible lines fall into blocks of neighbours, and a viewport sets two blocks apart by one gap.

`Spaced p rs` says this of any rows: each line comes with what is read there, what stands between two
consecutive lines is the `spacer` of the two, and gaps stand nowhere else. Rows with ascending lines
are spaced if and only if they are the rows of their lines (`spaced_iff`), so together with the lines
this is all that there is to say about a viewport: `Outlines p pc rs` says it, and the viewport is the
only row of entries that it holds of (`outlines_iff`).

A block begins with a line whose predecessor is not visible. Such a line is the lower neighbour of a
stored line or of the line that the machine stands on (`succ_mem_of_begins`). So there is at most one
block for each of these, and one gap less, however far apart the lines are (`rows_bounded`).
-/

namespace Defusal

/-- Whether a row stands for skipped lines. -/
def ViewportRow.isGap : ViewportRow → Bool
  | line .. => false
  | gap => true

namespace Viewport

variable {p : Program} {pc : Int} {ls : List Int} {rs : List ViewportRow}

/-! ## What stands between two lines -/

/-- What stands between two consecutive lines: one gap if lines are skipped, and nothing if not. -/
def spacer (a b : Int) : List ViewportRow := if 1 < b - a then [.gap] else []

theorem rowsOf_cons_cons (p : Program) (a b : Int) (ls : List Int) : rowsOf p (a :: b :: ls)
    = .line a (p.get a) :: (spacer a b ++ rowsOf p (b :: ls)) := by
  unfold spacer
  rw [rowsOf]
  split <;> rfl

/-- Rows in which gaps stand between lines that are no neighbours, one for each two, and nowhere
else, and in which each line comes with what is read there. -/
structure Spaced (p : Program) (rs : List ViewportRow) : Prop where
  paired : ∀ line i, .line line i ∈ rs → i = p.get line
  /-- Two lines are consecutive if no other line is shown between them. -/
  between : ∀ a b, [a, b] <:+: rs.filterMap ViewportRow.number? →
    .line a (p.get a) :: (spacer a b ++ [.line b (p.get b)]) <:+: rs
  not_first : ¬ [.gap] <+: rs
  not_last : ¬ [.gap] <:+ rs
  not_adjacent : ¬ [.gap, .gap] <:+: rs

/-- A part that begins with something that is not at the front stands behind the front. -/
theorem infix_of_notMem {α : Type} {x : α} {xs back : List α} (front : List α)
    (h : x :: xs <:+: front ++ back) (hx : x ∉ front) : x :: xs <:+: back := by
  induction front with
  | nil => exact h
  | cons y front ih =>
    obtain ⟨hne, hx⟩ := not_or.mp (mt List.mem_cons.mpr hx)
    rcases List.infix_cons_iff.mp h with hfirst | hlater
    · exact absurd (List.cons_prefix_cons.mp hfirst).1 hne
    · exact ih hlater hx

/-! ## The rows of lines are spaced -/

/-- The rows of lines begin with the first line. -/
theorem exists_rowsOf_cons (p : Program) (a : Int) (ls : List Int) :
    ∃ rest, rowsOf p (a :: ls) = .line a (p.get a) :: rest := by
  obtain ⟨gap, -, hrows⟩ := rowsOf_cons p a ls
  exact ⟨_, hrows⟩

theorem not_first_rowsOf (p : Program) (ls : List Int) : ¬ [.gap] <+: rowsOf p ls := by
  cases ls with
  | nil => exact List.cons_ne_nil _ _ ∘ List.prefix_nil.mp
  | cons a ls =>
    obtain ⟨rest, hrest⟩ := exists_rowsOf_cons p a ls
    rw [hrest, List.cons_prefix_cons]
    exact nofun

theorem not_last_rowsOf (p : Program) (ls : List Int) : ¬ [.gap] <:+ rowsOf p ls := by
  induction ls with
  | nil => exact List.cons_ne_nil _ _ ∘ List.suffix_nil.mp
  | cons a ls ih =>
    cases ls with
    | nil =>
      intro h
      rcases List.suffix_cons_iff.mp h with heq | hnil
      · cases heq
      · exact List.cons_ne_nil _ _ (List.suffix_nil.mp hnil)
    | cons b ls =>
      rw [rowsOf_cons_cons]
      intro h
      obtain ⟨rest, hrest⟩ := exists_rowsOf_cons p b ls
      -- Behind the gap, if there is one, there still are the rows of `b` and what follows.
      refine ih (List.suffix_of_suffix_length_le h ?_ ?_)
      · exact (List.suffix_append _ _).trans (List.suffix_cons _ _)
      · rw [hrest]
        exact Nat.le_add_left 1 _

theorem not_adjacent_rowsOf (p : Program) (ls : List Int) : ¬ [.gap, .gap] <:+: rowsOf p ls := by
  induction ls with
  | nil => exact List.cons_ne_nil _ _ ∘ List.infix_nil.mp
  | cons a ls ih =>
    cases ls with
    | nil => exact fun h => absurd h.length_le (by simp [rowsOf])
    | cons b ls =>
      rw [rowsOf_cons_cons]
      intro h
      have h : [.gap, .gap] <:+: spacer a b ++ rowsOf p (b :: ls) := by
        refine infix_of_notMem [ViewportRow.line a (p.get a)] h ?_
        intro hmem
        cases List.mem_singleton.mp hmem
      unfold spacer at h
      split at h
      next =>
        -- What follows a gap is a line.
        rcases List.infix_cons_iff.mp h with hfirst | hlater
        · exact not_first_rowsOf p (b :: ls) (List.cons_prefix_cons.mp hfirst).2
        · exact ih hlater
      next => exact ih h

theorem between_rowsOf (p : Program) {a b : Int} (h : [a, b] <:+: ls) :
    .line a (p.get a) :: (spacer a b ++ [.line b (p.get b)]) <:+: rowsOf p ls := by
  induction ls with
  | nil => exact absurd (List.infix_nil.mp h) (List.cons_ne_nil a [b])
  | cons c ls ih =>
    cases ls with
    | nil => exact absurd h.length_le (Nat.not_succ_le_self 1)
    | cons d ls =>
      rw [rowsOf_cons_cons]
      rcases List.infix_cons_iff.mp h with hfirst | hlater
      · -- The two are the first lines.
        obtain ⟨rfl, hsecond⟩ := List.cons_prefix_cons.mp hfirst
        obtain ⟨rfl, -⟩ := List.cons_prefix_cons.mp hsecond
        obtain ⟨rest, hrest⟩ := exists_rowsOf_cons p b ls
        rw [hrest]
        refine List.IsPrefix.isInfix ⟨rest, ?_⟩
        rw [List.cons_append, List.append_assoc, List.singleton_append]
      · exact (ih hlater).trans
          ((List.suffix_append _ _).isInfix.trans (List.suffix_cons _ _).isInfix)

theorem spaced_rowsOf (p : Program) (ls : List Int) : Spaced p (rowsOf p ls) where
  paired _ _ h := eq_get_of_mem_rowsOf h
  between a b h := by
    rw [numbers_rowsOf] at h
    exact between_rowsOf p h
  not_first := not_first_rowsOf p ls
  not_last := not_last_rowsOf p ls
  not_adjacent := not_adjacent_rowsOf p ls

/-! ## Spaced rows are the rows of their lines -/

theorem number?_spacer (a b : Int) : (spacer a b).filterMap ViewportRow.number? = [] := by
  unfold spacer
  split <;> rfl

theorem line_notMem_spacer (a b line : Int) (i : Instruction) : .line line i ∉ spacer a b := by
  unfold spacer
  split <;> simp

/-- Spaced rows begin with the row of their first line. -/
theorem Spaced.exists_cons {a : Int} (h : Spaced p rs)
    (hls : rs.filterMap ViewportRow.number? = a :: ls) :
    ∃ rest, rs = .line a (p.get a) :: rest ∧ rest.filterMap ViewportRow.number? = ls := by
  cases rs with
  | nil => cases hls
  | cons row rest =>
    cases row with
    | gap => exact absurd ⟨rest, rfl⟩ h.not_first
    | line number i =>
      obtain ⟨rfl, hrest⟩ := List.cons.inj hls
      rw [h.paired number i (List.mem_cons_self ..)]
      exact ⟨rest, rfl, hrest⟩

/-- Rows stay spaced without the first line and what stands between it and the second. -/
theorem Spaced.of_cons {a b : Int} {rest : List ViewportRow}
    (h : Spaced p (.line a (p.get a) :: (spacer a b ++ .line b (p.get b) :: rest)))
    (ha : a ∉ (ViewportRow.line b (p.get b) :: rest).filterMap ViewportRow.number?) :
    Spaced p (.line b (p.get b) :: rest) := by
  have hsuffix := (List.suffix_append (spacer a b) (.line b (p.get b) :: rest)).trans
    (List.suffix_cons (.line a (p.get a)) _)
  constructor
  · exact fun line i hmem => h.paired line i (hsuffix.subset hmem)
  · intro c d hcd
    have hfull := h.between c d (hcd.trans (hsuffix.filterMap _).isInfix)
    have hc : c ≠ a := fun heq => ha (heq ▸ hcd.subset (List.mem_cons_self ..))
    -- The row of `c` is neither the first one nor a gap.
    refine infix_of_notMem (ViewportRow.line a (p.get a) :: spacer a b) hfull ?_
    rw [List.mem_cons, not_or]
    exact ⟨fun heq => hc (ViewportRow.line.inj heq).1, line_notMem_spacer a b c _⟩
  · exact fun hfirst => nomatch (List.cons_prefix_cons.mp hfirst).1
  · exact fun hlast => h.not_last (hlast.trans hsuffix)
  · exact fun htwo => h.not_adjacent (htwo.trans hsuffix.isInfix)

/-- Spaced rows of two or more lines are the row of the first, what stands between it and the second,
and spaced rows that begin with the second. -/
theorem Spaced.exists_cons_cons {a b : Int} (h : Spaced p rs)
    (hls : rs.filterMap ViewportRow.number? = a :: b :: ls) (hasc : (a :: b :: ls).Pairwise (· < ·)) :
    ∃ rest, rs = .line a (p.get a) :: (spacer a b ++ rest) ∧ Spaced p rest ∧
      rest.filterMap ViewportRow.number? = b :: ls := by
  obtain ⟨tail, rfl, htail⟩ := h.exists_cons hls
  have ha : a ∉ b :: ls := fun hmem =>
    Int.lt_irrefl a (List.rel_of_pairwise_cons hasc hmem)
  have hbetween := h.between a b (hls ▸ (List.prefix_append [a, b] ls).isInfix)
  rcases List.infix_cons_iff.mp hbetween with hfirst | hlater
  · obtain ⟨rest, rfl⟩ := (List.cons_prefix_cons.mp hfirst).2
    rw [List.append_assoc, List.singleton_append] at h htail ⊢
    rw [List.filterMap_append, number?_spacer, List.nil_append] at htail
    exact ⟨_, rfl, h.of_cons (htail ▸ ha), htail⟩
  · -- The first line stands nowhere else.
    have hmem := hlater.subset (List.mem_cons_self ..)
    exact absurd (htail ▸ List.mem_filterMap.mpr ⟨_, hmem, rfl⟩) ha

theorem Spaced.eq_rowsOf (h : Spaced p rs) (hls : rs.filterMap ViewportRow.number? = ls)
    (hasc : ls.Pairwise (· < ·)) : rs = rowsOf p ls := by
  induction ls generalizing rs with
  | nil =>
    cases rs with
    | nil => rfl
    | cons row rest =>
      cases row with
      | gap => exact absurd ⟨rest, rfl⟩ h.not_first
      | line number i => cases hls
  | cons a ls ih =>
    cases ls with
    | nil =>
      obtain ⟨rest, rfl, hrest⟩ := h.exists_cons hls
      rcases List.eq_nil_or_concat' rest with rfl | ⟨front, row, rfl⟩
      · rfl
      · -- What follows the only line would be gaps, and one of them would be the last row.
        have hnumber : row.number? = none :=
          List.filterMap_eq_nil_iff.mp hrest row List.mem_concat_self
        cases row with
        | line number i => cases hnumber
        | gap =>
          exact absurd ((List.suffix_append front [.gap]).trans (List.suffix_cons _ _)) h.not_last
    | cons b ls =>
      obtain ⟨rest, rfl, hspaced, hrest⟩ := h.exists_cons_cons hls hasc
      rw [ih hspaced hrest hasc.of_cons, rowsOf_cons_cons]

/-- **Rows with ascending lines are spaced if and only if they are the rows of their lines.** -/
theorem spaced_iff (hasc : (rs.filterMap ViewportRow.number?).Pairwise (· < ·)) :
    Spaced p rs ↔ rs = rowsOf p (rs.filterMap ViewportRow.number?) := by
  constructor
  · exact fun h => h.eq_rowsOf rfl hasc
  · intro h
    rw [h]
    exact spaced_rowsOf p _

/-! ## What a viewport is -/

/-- What a viewport of a program is for a machine that stands on a line. -/
structure Outlines (p : Program) (pc : Int) (rs : List ViewportRow) : Prop extends Spaced p rs where
  ascending : (rs.filterMap ViewportRow.number?).Pairwise (· < ·)
  /-- The lines shown are those stored, the one of the machine, and the neighbours of all of these. -/
  mem_iff : ∀ line, line ∈ rs.filterMap ViewportRow.number? ↔
    ∃ l, (p.contains l = true ∨ l = pc) ∧ (line = l - 1 ∨ line = l ∨ line = l + 1)
  /-- Exactly one row is the current one. -/
  current : ∃ n : Nat, rs[n]? = some (.line pc (p.get pc)) ∧
    ∀ (k : Nat) row, rs[k]? = some row → (row.isCurrent pc = true ↔ k = n)

theorem mem_visibleLines_iff {line : Int} : line ∈ visibleLines p pc ↔
    ∃ l, (p.contains l = true ∨ l = pc) ∧ (line = l - 1 ∨ line = l ∨ line = l + 1) := by
  rw [mem_visibleLines]
  simp only [around, List.mem_cons, List.not_mem_nil, or_false, Program.mem_lines_iff]

theorem outlines_rows (p : Program) (pc : Int) : Outlines p pc (rows p pc) where
  toSpaced := spaced_rowsOf p _
  ascending := by
    rw [numbers_rows]
    exact pairwise_visibleLines p pc
  mem_iff line := by
    rw [numbers_rows]
    exact mem_visibleLines_iff
  current := exists_current p pc

/-- **The viewport of a program** shows the stored lines, the line that the machine stands on and the
neighbours of all of these, ascending and each with what is read there; between two consecutive lines
there is one gap if lines are skipped and none if not, and there are no other gaps; exactly one row is
the current one. Only the viewport is so. -/
theorem outlines_iff (p : Program) (pc : Int) (rs : List ViewportRow) :
    Outlines p pc rs ↔ rs = rows p pc := by
  constructor
  · intro h
    have hlines : rs.filterMap ViewportRow.number? = visibleLines p pc :=
      h.ascending.eq_of_mem_iff (pairwise_visibleLines p pc) fun line =>
        (h.mem_iff line).trans mem_visibleLines_iff.symm
    have hrows := (spaced_iff h.ascending).mp h.toSpaced
    rw [hlines] at hrows
    exact hrows
  · intro h
    rw [h]
    exact outlines_rows p pc

/-! ## How long a viewport is -/

/-- The lines with which a block begins, but the first: those that follow on skipped lines. -/
def breaks : List Int → List Int
  | a :: b :: ls => if 1 < b - a then b :: breaks (b :: ls) else breaks (b :: ls)
  | _ => []

/-- There is one gap for each block but the first. -/
theorem countP_isGap_rowsOf (p : Program) (ls : List Int) :
    (rowsOf p ls).countP ViewportRow.isGap = (breaks ls).length := by
  induction ls with
  | nil => rfl
  | cons a ls ih =>
    cases ls with
    | nil => rfl
    | cons b ls =>
      rw [rowsOf_cons_cons, List.countP_cons_of_neg (by exact Bool.false_ne_true),
        List.countP_append, ih, breaks]
      unfold spacer
      split
      · exact Nat.add_comm _ _
      · exact Nat.zero_add _

theorem breaks_sublist (a : Int) (ls : List Int) : (breaks (a :: ls)).Sublist ls := by
  induction ls generalizing a with
  | nil => exact .slnil
  | cons b ls ih =>
    rw [breaks]
    split
    · exact (ih b).cons_cons b
    · exact (ih b).cons b

/-- Before a block stands a line that is skipped. -/
theorem pred_notMem_of_mem_breaks {b : Int} (hasc : ls.Pairwise (· < ·)) (h : b ∈ breaks ls) :
    b - 1 ∉ ls := by
  induction ls with
  | nil => cases h
  | cons a ls ih =>
    cases ls with
    | nil => cases h
    | cons c ls =>
      have hac : a < c := List.rel_of_pairwise_cons hasc (List.mem_cons_self ..)
      have hcls : ∀ {line}, line ∈ ls → c < line := List.rel_of_pairwise_cons hasc.of_cons
      have hlater : b ∈ breaks (c :: ls) → b - 1 ∉ a :: c :: ls := by
        intro hb
        have hcb : c < b := hcls ((breaks_sublist c ls).subset hb)
        rw [List.mem_cons, not_or]
        exact ⟨by omega, ih hasc.of_cons hb⟩
      rw [breaks] at h
      split at h
      next hgap =>
        rcases List.mem_cons.mp h with rfl | hb
        · -- The line before `c` is after `a`, and nothing from `c` on is before `c`.
          rw [List.mem_cons, List.mem_cons, not_or, not_or]
          refine ⟨by omega, by omega, fun hmem => ?_⟩
          have hbefore := hcls hmem
          omega
        · exact hlater hb
      next => exact hlater h

/-- The lines with which blocks begin, the first line among them, stand behind skipped lines. -/
theorem pred_notMem_of_begins {a b : Int} (hasc : (a :: ls).Pairwise (· < ·))
    (h : b ∈ a :: breaks (a :: ls)) : b - 1 ∉ a :: ls := by
  rcases List.mem_cons.mp h with rfl | hb
  · -- The first line is the least.
    rw [List.mem_cons, not_or]
    refine ⟨by omega, fun hmem => ?_⟩
    have hless := List.rel_of_pairwise_cons hasc hmem
    omega
  · exact pred_notMem_of_mem_breaks hasc hb

/-- A block begins with the lower neighbour of a stored line or of the line that the machine stands
on. -/
theorem succ_mem_of_begins {b : Int} (h : b ∈ visibleLines p pc) (hpred : b - 1 ∉ visibleLines p pc) :
    b + 1 ∈ p.lines ++ [pc] := by
  rw [List.mem_append, List.mem_singleton, Program.mem_lines_iff]
  obtain ⟨l, hl, hb⟩ := mem_visibleLines_iff.mp h
  rcases hb with rfl | rfl | rfl
  · rwa [Int.sub_add_cancel]
  · exact absurd (mem_visibleLines_iff.mpr ⟨b, hl, .inl rfl⟩) hpred
  · exact absurd (mem_visibleLines_iff.mpr ⟨l, hl, .inr (.inl (Int.add_sub_cancel ..))⟩) hpred

/-- There are no more blocks than stored lines and the line that the machine stands on. -/
theorem length_breaks_visibleLines (p : Program) (pc : Int) :
    (breaks (visibleLines p pc)).length ≤ p.size := by
  have hasc := pairwise_visibleLines p pc
  have hbegins := fun b (hb : b ∈ visibleLines p pc) => succ_mem_of_begins (p := p) hb
  cases hls : visibleLines p pc with
  | nil => exact Nat.zero_le _
  | cons a ls =>
    rw [hls] at hasc hbegins
    have hsub : (a :: breaks (a :: ls)).Sublist (a :: ls) := (breaks_sublist a ls).cons_cons a
    have hdistinct : (a :: breaks (a :: ls)).Nodup := (hasc.sublist hsub).imp Int.ne_of_lt
    have hnodup : ((a :: breaks (a :: ls)).map (· + 1)).Nodup :=
      hdistinct.map fun b c (heq : b + 1 = c + 1) => by omega
    have hstored : (a :: breaks (a :: ls)).map (· + 1) ⊆ p.lines ++ [pc] := by
      intro c hc
      obtain ⟨b, hb, rfl⟩ := List.mem_map.mp hc
      exact hbegins b (hsub.subset hb) (pred_notMem_of_begins hasc hb)
    have hle := (hnodup.subperm hstored).length_le
    rw [List.length_map, List.length_cons, List.length_append, List.length_singleton,
      Program.length_lines] at hle
    exact Nat.le_of_succ_le_succ hle

theorem dropRepeats_sublist (ls : List Int) : (dropRepeats ls).Sublist ls := by
  induction ls using dropRepeats.induct with
  | case1 b rest ih =>
    rw [dropRepeats, if_pos rfl]
    exact ih.cons b
  | case2 a b rest hne ih =>
    rw [dropRepeats, if_neg hne]
    exact ih.cons_cons a
  | case3 ls hshort => rw [dropRepeats.eq_2 ls hshort]

theorem length_visibleLines_le (p : Program) (pc : Int) :
    (visibleLines p pc).length ≤ 3 * (p.size + 1) := by
  refine (dropRepeats_sublist _).length_le.trans_eq ?_
  rw [List.length_mergeSort, List.length_flatMap]
  have haround : (p.lines ++ [pc]).map (fun l => (around l).length)
      = List.replicate (p.size + 1) 3 := by
    rw [List.eq_replicate_iff, List.length_map, List.length_append, Program.length_lines]
    refine ⟨rfl, fun n hn => ?_⟩
    obtain ⟨l, -, rfl⟩ := List.mem_map.mp hn
    rfl
  rw [haround, List.sum_replicate_nat, Nat.mul_comm]

/-- A row is a line or a gap. -/
theorem length_eq (rs : List ViewportRow) : rs.length
    = (rs.filterMap ViewportRow.number?).length + rs.countP ViewportRow.isGap := by
  induction rs with
  | nil => rfl
  | cons row rs ih =>
    cases row with
    | line number i =>
      rw [List.length_cons, ih, List.countP_cons_of_neg (by exact Bool.false_ne_true)]
      exact Nat.add_right_comm _ _ _
    | gap =>
      rw [List.length_cons, ih, List.countP_cons_of_pos rfl]
      rfl

/-- **The length of a viewport is bounded by the number of stored lines**, wherever they and the
machine are: each line and the one that the machine stands on is shown with at most two neighbours,
and there is at most one gap for each stored line. -/
theorem rows_bounded (p : Program) (pc : Int) :
    ((rows p pc).filterMap ViewportRow.number?).length ≤ 3 * p.size + 3 ∧
    (rows p pc).countP ViewportRow.isGap ≤ p.size ∧
    (rows p pc).length ≤ 4 * p.size + 3 := by
  have hlines : ((rows p pc).filterMap ViewportRow.number?).length ≤ 3 * p.size + 3 := by
    rw [numbers_rows]
    exact length_visibleLines_le p pc
  have hgaps : (rows p pc).countP ViewportRow.isGap ≤ p.size := by
    unfold rows
    rw [countP_isGap_rowsOf]
    exact length_breaks_visibleLines p pc
  have hlength := length_eq (rows p pc)
  exact ⟨hlines, hgaps, by omega⟩

/-- Lines that are far apart take up all that is allowed. -/
example : (rows (.sparse (.ofList [(1000000, .idle), (-5, .idle)])) 7).length = 4 * 2 + 3 := by
  cbv

end Viewport

end Defusal
