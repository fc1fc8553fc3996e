import Defusal.Proofs.Program.Entries

/-!
# What an insertion makes of a program

An insertion moves the lines from its target on up by one, which is `Program.displaced`, and stores
its instruction on the line that is left free. So every line of the new program is either the target
or where some line was moved (`exists_displaced`), and what is stored there is what was stored before
the move (`get?_displaced`).

The rest follows line by line. The program has one line more (`size_insertAt`). Building it entry by
entry gives the same program in whatever order the entries are kept, as no entry is moved to the line
of another (`ofList_map_moved`). Two insertions exchange if the upper target moves with the lower
insertion (`insertAt_comm`).
-/

namespace Defusal.Program

/-- Where an insertion moves a line. -/
def displaced (target line : Int) : Int := if line < target then line else line + 1

theorem displaced_lt {target k l : Int} (h : k < l) : displaced target k < displaced target l := by
  unfold displaced
  split <;> split <;> omega

/-- Different lines are moved to different lines. -/
theorem displaced_injective (target : Int) : Function.Injective (displaced target) := by
  intro k l heq
  rcases Int.lt_trichotomy k l with hlt | rfl | hgt
  · exact absurd heq (Int.ne_of_lt (displaced_lt hlt))
  · rfl
  · exact absurd heq.symm (Int.ne_of_lt (displaced_lt hgt))

/-- A line that is not the target is where some line was moved. -/
theorem exists_displaced {target line : Int} (h : line ≠ target) : ∃ l, displaced target l = line := by
  rcases Int.lt_or_gt_of_ne h with hbefore | hafter
  · exact ⟨line, if_pos hbefore⟩
  · refine ⟨line - 1, ?_⟩
    unfold displaced
    rw [if_neg (by omega), Int.sub_add_cancel]

/-- What is stored on a line moves with it. -/
theorem get?_displaced (p : SparseProgram) (target line : Int) (i : Instruction) :
    (p.insertAt target i).get? (displaced target line) = p.get? line := by
  rw [SparseProgram.get?_insertAt]
  unfold displaced
  -- A line from the target on is found one line up, which is neither before nor at the target.
  split
  next => rfl
  next hge => rw [if_neg (by omega), if_neg (by omega), Int.add_sub_cancel]

theorem get?_insertAt_self (p : SparseProgram) (target : Int) (i : Instruction) :
    (p.insertAt target i).get? target = some i := by
  rw [SparseProgram.get?_insertAt, if_neg (Int.lt_irrefl target), if_pos rfl]

theorem size_insertAt (p : SparseProgram) (target : Int) (i : Instruction) :
    (p.insertAt target i).entries.length = p.entries.length + 1 := by
  -- Every entry stands either before the target or from it on.
  have hsplit : p.entries.length
      = (SparseProgram.below target p.entries).length
        + (SparseProgram.above target p.entries).length := by
    unfold SparseProgram.below SparseProgram.above
    rw [← List.countP_eq_length_filter, ← List.countP_eq_length_filter,
      List.length_eq_countP_add_countP fun e => decide (e.1 < target)]
    congr 1
    refine List.countP_congr fun e _ => ?_
    simp only [decide_eq_true_eq, Int.not_lt]
  unfold SparseProgram.insertAt
  rw [List.length_append, List.length_cons, List.length_map]
  omega

/-! ## Entry by entry -/

/-- An entry on the line to which an insertion moves it. -/
def moved (target : Int) (e : Int × Instruction) : Int × Instruction := (displaced target e.1, e.2)

/-- Entries of different lines are moved to different lines. -/
theorem nodup_map_moved {entries : List (Int × Instruction)} (h : (entries.map Prod.fst).Nodup)
    (target : Int) : ((entries.map (moved target)).map Prod.fst).Nodup := by
  have hlines : (entries.map (moved target)).map Prod.fst
      = (entries.map Prod.fst).map (displaced target) := by
    rw [List.map_map, List.map_map]
    rfl
  rw [hlines]
  exact h.map (displaced_injective target)

/-- What is stored of moved entries is found where it was moved. -/
theorem get?_ofList_map_moved {entries : List (Int × Instruction)}
    (h : (entries.map Prod.fst).Nodup) (target line : Int) :
    (SparseProgram.ofList (entries.map (moved target))).get? (displaced target line)
      = (SparseProgram.ofList entries).get? line := by
  refine Option.ext fun i => ?_
  rw [get?_ofList_iff, get?_ofList_iff, lastAt_iff_mem (nodup_map_moved h target), lastAt_iff_mem h,
    List.mem_map]
  constructor
  · intro ⟨⟨l, j⟩, hmem, heq⟩
    obtain ⟨hl, rfl⟩ := Prod.mk.inj heq
    exact displaced_injective target hl ▸ hmem
  · exact fun hmem => ⟨_, hmem, rfl⟩

/-- **An insertion can be carried out entry by entry**, in whatever order the entries are kept: the
program of the moved entries and the new one is the program after the insertion. -/
theorem ofList_map_moved {entries : List (Int × Instruction)} (h : (entries.map Prod.fst).Nodup)
    (target : Int) (i : Instruction) :
    SparseProgram.ofList (entries.map (moved target) ++ [(target, i)])
      = (SparseProgram.ofList entries).insertAt target i := by
  refine sparse_ext fun line => ?_
  rw [ofList_concat, SparseProgram.get?_put]
  by_cases hline : line = target
  · rw [if_pos hline, hline, get?_insertAt_self]
  · obtain ⟨l, rfl⟩ := exists_displaced hline
    rw [if_neg hline, get?_ofList_map_moved h, get?_displaced]

/-! ## Two insertions -/

/-- Where two insertions move a line, in either order. -/
theorem displaced_displaced {lower upper : Int} (h : lower ≤ upper) (line : Int) :
    displaced (upper + 1) (displaced lower line) = displaced lower (displaced upper line) := by
  unfold displaced
  split_ifs <;> omega

/-- **Two insertions exchange**: the one with the upper target can be made first, or last at a target
that is moved up by the other. -/
theorem insertAt_comm (p : SparseProgram) {lower upper : Int} (h : lower ≤ upper)
    (i j : Instruction) : (p.insertAt upper j).insertAt lower i
      = (p.insertAt lower i).insertAt (upper + 1) j := by
  have hupper : displaced lower upper = upper + 1 := if_neg (by omega)
  have hlower : displaced (upper + 1) lower = lower := if_pos (by omega)
  refine sparse_ext fun line => ?_
  by_cases hline : line = lower
  · rw [hline, get?_insertAt_self, ← hlower, get?_displaced, hlower, get?_insertAt_self]
  · obtain ⟨k, rfl⟩ := exists_displaced hline
    rw [get?_displaced]
    by_cases hk : k = upper
    · rw [hk, get?_insertAt_self, hupper, get?_insertAt_self]
    · -- Every other line was moved by both.
      obtain ⟨l, rfl⟩ := exists_displaced hk
      rw [get?_displaced, ← displaced_displaced h, get?_displaced, get?_displaced]

/-- **The law of insertion.** An insertion keeps the lines before its target, stores its instruction
at the target, and moves every line from there on up by one, stored or not. The program then has one
line more, its lines ascend strictly, and it is what one builds from the moved entries and the new
one, in whatever order they are kept. An insertion with an upper target exchanges with it. -/
theorem insertion_law (p : SparseProgram) (target : Int) (i : Instruction) :
    (∀ line, (p.insertAt target i).get? line =
      if line < target then p.get? line
      else if line = target then some i
      else p.get? (line - 1)) ∧
    (sparse (p.insertAt target i)).size = (sparse p).size + 1 ∧
    (sparse (p.insertAt target i)).lines.Pairwise (· < ·) ∧
    (∀ entries : List (Int × Instruction), (entries.map Prod.fst).Nodup →
      SparseProgram.ofList entries = p →
      p.insertAt target i = .ofList (entries.map (moved target) ++ [(target, i)])) ∧
    ∀ upper ≥ target, ∀ j, (p.insertAt upper j).insertAt target i
      = (p.insertAt target i).insertAt (upper + 1) j := by
  refine ⟨fun line => p.get?_insertAt target line i, size_insertAt p target i, ?_, ?_, ?_⟩
  · exact List.pairwise_map.mpr (p.insertAt target i).ascending
  · intro entries hnodup hp
    rw [← hp]
    exact (ofList_map_moved hnodup target i).symm
  · exact fun upper h j => insertAt_comm p h i j

/-- Lines that are kept out of order, next to one another at the target and below zero elsewhere: an
insertion at the lower of the two neighbours, and one at the upper after or before it. -/
theorem insertion_law_neighbours :
    let entries : List (Int × Instruction) :=
      [(3, ⟨"DEFUSE", []⟩), (-1, ⟨"EXPLODE", []⟩), (2, ⟨"TTRAVEL", []⟩)]
    let p := SparseProgram.ofList entries
    (entries.map Prod.fst).Nodup ∧
    p.insertAt 2 ⟨"COPY", []⟩ = .ofList
      [(4, ⟨"DEFUSE", []⟩), (-1, ⟨"EXPLODE", []⟩), (3, ⟨"TTRAVEL", []⟩), (2, ⟨"COPY", []⟩)] ∧
    (p.insertAt 3 .idle).insertAt 2 ⟨"COPY", []⟩ = (p.insertAt 2 ⟨"COPY", []⟩).insertAt 4 .idle := by
  intro entries p
  have hnodup : (entries.map Prod.fst).Nodup := by decide
  obtain ⟨-, -, -, hmoved, hcomm⟩ := insertion_law p 2 ⟨"COPY", []⟩
  exact ⟨hnodup, hmoved entries hnodup rfl, hcomm 3 (by decide) .idle⟩

end Defusal.Program
