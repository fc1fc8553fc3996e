import Mathlib.Data.List.Forall2
import Defusal.Proofs.Instruction.Assembly

/-!
# Listings that are written and read again

A line of a listing is a number, a colon and the text of an instruction (`listingLine`). Reading cuts
it where writing put it together, whatever the text holds: the number ends at the first colon, and
the blanks around the text do not matter to its instruction (`Listed.of_listingLine`).

A text that is cut into such lines is read as their instructions under their numbers
(`assembleText_eq_ok`), and the lines of a text that is put together from lines are these lines
(`Text.splitLines_intercalate`).
-/

namespace Defusal

/-! ## Lines of a text -/

namespace Text

variable {c : Char} {cs line : List Char}

theorem splitLinesFrom_cons (h : isLineEnd c = false) (rest : List Char) :
    splitLinesFrom line (c :: rest) = splitLinesFrom (c :: line) rest := by
  conv_lhs => unfold splitLinesFrom
  split
  next heq => cases heq
  next heq =>
    obtain ⟨rfl, -⟩ := List.cons.inj heq
    cases h
  next heq =>
    obtain ⟨rfl, rfl⟩ := List.cons.inj heq
    rw [h]
    rfl

/-- Characters that end no line are added to the line. -/
theorem splitLinesFrom_append (h : ∀ c ∈ cs, isLineEnd c = false) (rest : List Char) :
    splitLinesFrom line (cs ++ rest) = splitLinesFrom (cs.reverse ++ line) rest := by
  induction cs generalizing line with
  | nil => rfl
  | cons c cs ih =>
    obtain ⟨hc, hcs⟩ := List.forall_mem_cons.mp h
    rw [List.cons_append, splitLinesFrom_cons hc, ih hcs, List.reverse_cons, List.append_assoc]
    rfl

/-- A text that is put together from lines is cut into these lines. -/
theorem splitLines_intercalate {lines : List (List Char)} (hne : ∀ cs ∈ lines, cs ≠ [])
    (h : ∀ cs ∈ lines, ∀ c ∈ cs, isLineEnd c = false) :
    splitLines (['\n'].intercalate lines) = lines := by
  -- An empty line at the end would be lost, so none may be empty.
  unfold splitLines
  induction lines with
  | nil => rfl
  | cons cs lines ih =>
    obtain ⟨hcs, hlines⟩ := List.forall_mem_cons.mp h
    obtain ⟨hne, hnes⟩ := List.forall_mem_cons.mp hne
    cases lines with
    | nil =>
      show splitLinesFrom [] (cs ++ []) = [cs]
      rw [splitLinesFrom_append hcs, List.append_nil]
      unfold splitLinesFrom
      rw [if_neg (by rwa [List.isEmpty_iff, List.reverse_eq_nil_iff]), List.reverse_reverse]
    | cons cs' lines =>
      rw [List.intercalate_cons_cons, List.append_assoc, splitLinesFrom_append hcs, List.append_nil]
      show cs.reverse.reverse :: splitLinesFrom [] (['\n'].intercalate (cs' :: lines)) = _
      rw [ih hnes hlines, List.reverse_reverse]

end Text

namespace Instruction

/-! ## Lines of a listing -/

/-- The line of a listing that gives the text of an instruction a number. A number that is too long
to be written has none. -/
def listingLine (e : String × Nat) : Except Fault String := do
  return (← Numeral.write e.2) ++ ": " ++ e.1

theorem listingLine_eq_ok {s line : String} {n : Nat} (h : listingLine (s, n) = .ok line) :
    n < Numeral.writeLimit ∧ line.toList = Nat.toDigits 10 n ++ ':' :: ' ' :: s.toList := by
  obtain ⟨numeral, hnumeral, h⟩ := bind_eq_ok h
  have hn : n < Numeral.writeLimit := Numeral.exists_write_iff.mp ⟨numeral, hnumeral⟩
  cases (Numeral.write_of_lt (n := n) hn).symm.trans hnumeral
  cases h
  have hdigits : (Numeral.digits n).toList = Nat.toDigits 10 n := Nat.toList_repr
  refine ⟨hn, ?_⟩
  rw [String.toList_append, String.toList_append, hdigits, List.append_assoc]
  rfl

/-- A line of a listing that gives an instruction a number. -/
def Listed (line : String) (e : Int × Instruction) : Prop :=
  ∃ body, splitLineNumber line.toList = .ok (some e.1, body) ∧ ofChars? body = .ok (some e.2)

/-- **A line of a listing is cut where it was put together.** -/
theorem Listed.of_listingLine {s line : String} {n : Nat} {i : Instruction}
    (hline : listingLine (s, n) = .ok line) (hs : '\n' ∉ s.toList)
    (hi : ofLine? s = .ok (some i)) : Listed line (n, i) := by
  obtain ⟨hn, hchars⟩ := listingLine_eq_ok hline
  have hnumbered : Numbered line.toList (Nat.toDigits 10 n) (' ' :: s.toList) := by
    rw [hchars]
    exact .of_spells (Numeral.spells_toDigits n) _
  have hend : '\n' ∉ ' ' :: s.toList := List.not_mem_cons_of_ne_of_not_mem (by decide) hs
  have hsize : ¬ Numeral.digitLimit < (Nat.toDigits 10 n).countP Text.isDigit := by
    rw [(Numeral.isRow_toDigits n).countP, Nat.not_lt]
    exact Numeral.length_toDigits_le_digitLimit_iff.mpr hn
  have hblank : Text.trimStart (' ' :: s.toList) = Text.trimStart s.toList :=
    List.dropWhile_cons_of_pos (by decide)
  refine ⟨Text.trimStart s.toList, ?_, (ofChars?_trimStart _).trans hi⟩
  rw [splitLineNumber_of_numbered hnumbered (Numeral.spells_toDigits n) hend, if_neg hsize, hblank]

theorem listed_of_mapM {parse : String → Instruction} {rows : List (String × Nat)}
    {lines : List String} (h : rows.mapM listingLine = .ok lines)
    (hrows : ∀ e ∈ rows, '\n' ∉ e.1.toList ∧ ofLine? e.1 = .ok (some (parse e.1))) :
    List.Forall₂ Listed lines (rows.map fun e => ((e.2 : Int), parse e.1)) := by
  induction rows generalizing lines with
  | nil => cases h; exact .nil
  | cons e rows ih =>
    obtain ⟨⟨hend, hparse⟩, hrows⟩ := List.forall_mem_cons.mp hrows
    rw [List.mapM_cons] at h
    obtain ⟨line, hline, h⟩ := bind_eq_ok h
    obtain ⟨rest, hrest, h⟩ := bind_eq_ok h
    cases h
    exact .cons (.of_listingLine hline hend hparse) (ih hrest hrows)

/-- The lines of a listing have no line ends, and none is empty. -/
theorem isLineEnd_of_listingLine {s line : String} {n : Nat} (h : listingLine (s, n) = .ok line)
    (hs : ∀ c ∈ s.toList, Text.isLineEnd c = false) :
    line.toList ≠ [] ∧ ∀ c ∈ line.toList, Text.isLineEnd c = false := by
  obtain ⟨-, hchars⟩ := listingLine_eq_ok h
  rw [hchars]
  refine ⟨List.append_ne_nil_of_left_ne_nil Nat.toDigits_ne_nil _, fun c hc => ?_⟩
  rcases List.mem_append.mp hc with hdigit | hrest
  · exact Text.isLineEnd_of_isDigit (Numeral.isDigit_of_mem_toDigits hdigit)
  · rw [List.mem_cons, List.mem_cons] at hrest
    rcases hrest with rfl | rfl | htext
    · decide
    · decide
    · exact hs c htext

/-! ## Listings -/

theorem Listed.readLine_eq {line : String} {e : Int × Instruction} (h : Listed line e) :
    readLine line.toList = .ok (some e.1, some e.2) := by
  obtain ⟨body, hsplit, hbody⟩ := h
  unfold readLine
  rw [hsplit, ok_bind]
  dsimp only
  rw [hbody]
  rfl

/-- Lines with different numbers are all kept. -/
theorem assemble_eq_ok {lines : List String} {entries : List (Int × Instruction)}
    (h : List.Forall₂ Listed lines entries) (hkeys : (entries.map Prod.fst).Nodup) :
    assemble lines = .ok (.ofList entries) := by
  have hlines : (∀ l ∈ lines, IsListable l) ∧ lines.filterMap entry? = entries := by
    clear hkeys
    induction h with
    | nil => exact ⟨List.forall_mem_nil _, rfl⟩
    | cons hline _ ih =>
      have hread := hline.readLine_eq
      rw [List.filterMap_cons_some (entry?_eq_some_iff.mpr hread), ih.2]
      exact ⟨List.forall_mem_cons.mpr ⟨⟨_, _, hread, nofun⟩, ih.1⟩, rfl⟩
  obtain ⟨hlist, rfl⟩ := hlines
  exact assemble_eq_ok_iff.mpr ⟨hlist, hkeys, rfl⟩

/-- A text is a block of lines: these are the lines that it is cut into. -/
def IsBlock (lines : List String) (block : String) : Prop :=
  Text.splitLines block.toList = lines.map String.toList

instance (lines : List String) (block : String) : Decidable (IsBlock lines block) :=
  inferInstanceAs (Decidable (_ = _))

/-- **A block of lines with different numbers is read as the table of their instructions.** -/
theorem assembleText_eq_ok {lines : List String} {block : String}
    {entries : List (Int × Instruction)} (hblock : IsBlock lines block)
    (h : List.Forall₂ Listed lines entries) (hkeys : (entries.map Prod.fst).Nodup) :
    assembleText block = .ok (.ofList entries) := by
  have hlines : (lines.map String.toList).map String.ofList = lines := by
    rw [List.map_map]
    exact (List.map_congr_left fun _ _ => String.ofList_toList).trans (List.map_id _)
  unfold assembleText
  rw [hblock, hlines]
  exact assemble_eq_ok h hkeys

/-- Lines that a line feed separates are a block of these lines. -/
theorem isBlock_intercalate {rows : List (String × Nat)} {lines : List String}
    (h : rows.mapM listingLine = .ok lines)
    (hrows : ∀ e ∈ rows, ∀ c ∈ e.1.toList, Text.isLineEnd c = false) :
    IsBlock lines ("\n".intercalate lines) := by
  have hlines : ∀ cs ∈ lines.map String.toList,
      cs ≠ [] ∧ ∀ c ∈ cs, Text.isLineEnd c = false := by
    intro cs hcs
    obtain ⟨line, hline, rfl⟩ := List.mem_map.mp hcs
    obtain ⟨e, he, hline⟩ := exists_of_mem_mapM h hline
    exact isLineEnd_of_listingLine hline (hrows e he)
  unfold IsBlock
  rw [String.toList_intercalate]
  exact Text.splitLines_intercalate (fun cs hcs => (hlines cs hcs).1) fun cs hcs => (hlines cs hcs).2

end Instruction

end Defusal
