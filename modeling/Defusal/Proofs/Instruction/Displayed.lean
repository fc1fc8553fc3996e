import Defusal.Instruction.Display
import Defusal.Proofs.Instruction.Rendering
import Defusal.Proofs.Machine.Effect

/-!
# Displays that are read back

The line that the program table shows for an instruction is again the instruction as one may write
it. Each opcode with a layout of its own puts its operands into it one after the other, with blanks,
commas or arrows between them (`Separates`, `exists_layout`), so the display is a rendering of the
instruction and is read as renderings are. Trimming a display at its end changes nothing, since
blanks at the end of a line do not matter (`ofChars?_trimEnd`).

This goes as far as operands can be told from their displays (`IsClean`), the layout has room for
all of them (`HasRoom`), and the numbers among them can be written (`displays_read_back`).
-/

namespace Defusal

namespace Text

/-- Capital letters begin the letters, so what comes before the small ones is its own capital. -/
theorem capital_of_lt {c : Char} (h : c.toNat < 'a'.toNat) : capital c = [c] := by
  have hsequences : ∀ s ∈ capitalSequences, 'a'.toNat ≤ s.1 := by decide +kernel
  have hruns : ∀ r ∈ capitalRuns, 'a'.toNat ≤ r.first := by decide +kernel
  have hsequence : capitalSequences.find? (·.1 == c.toNat) = none := by
    refine List.find?_eq_none.mpr fun s hs heq => ?_
    have := hsequences s hs
    rw [beq_iff_eq] at heq
    omega
  have hrun : capitalRuns.find? (·.holds c.toNat) = none := by
    refine List.find?_eq_none.mpr fun r hr hholds => ?_
    have := hruns r hr
    unfold CapitalRun.holds at hholds
    rw [Bool.and_eq_true, Bool.and_eq_true, decide_eq_true_eq] at hholds
    omega
  unfold capital
  dsimp only
  rw [hsequence]
  dsimp only
  rw [hrun]

end Text

namespace Instruction

open Text (isBlank StartsBlank trimEnd)

variable {i : Instruction} {a : Architecture} {s : List Char} {ts : List (List Char)}
  {texts : List String} {d : Datum}

/-! ## Opcodes -/

/-- A word of capital letters and digits. -/
structure IsOpcode (op : String) : Prop where
  ne_nil : op.toList ≠ []
  chars : ∀ c ∈ op.toList, c.isUpper = true ∨ c.isDigit = true

theorem isUpper_iff_toNat {c : Char} :
    c.isUpper = true ↔ 'A'.toNat ≤ c.toNat ∧ c.toNat ≤ 'Z'.toNat := by
  unfold Char.isUpper
  exact decide_eq_true_iff

theorem IsOpcode.toNat {op : String} (h : IsOpcode op) : ∀ c ∈ op.toList,
    ('A'.toNat ≤ c.toNat ∧ c.toNat ≤ 'Z'.toNat) ∨ ('0'.toNat ≤ c.toNat ∧ c.toNat ≤ '9'.toNat) := by
  intro c hc
  rw [← isUpper_iff_toNat, ← Char.isDigit_iff_toNat]
  exact h.chars c hc

/-- No blank is one of the characters of an opcode, nor is a semicolon. -/
theorem IsOpcode.plain {op : String} (h : IsOpcode op) :
    ∀ c ∈ op.toList, isBlank c = false ∧ c ≠ ';' := by
  intro c hc
  have hchar := h.toNat c hc
  constructor
  · have hapart : ∀ r ∈ Text.blankRanges, r.2 < '0'.toNat ∨ 'Z'.toNat < r.1 := by decide
    have hascii : 'A'.toNat = 65 ∧ 'Z'.toNat = 90 ∧ '0'.toNat = 48 ∧ '9'.toNat = 57 := by decide
    unfold isBlank
    rw [List.any_eq_false]
    intro r hr
    rw [Bool.and_eq_true, decide_eq_true_eq, decide_eq_true_eq]
    have := hapart r hr
    omega
  · rintro rfl
    exact absurd hchar (by decide)

/-- An opcode is in capital letters. -/
theorem IsOpcode.capitals {op : String} (h : IsOpcode op) : Text.capitals op = op := by
  have hself : ∀ c ∈ op.toList, Text.capital c = [c] := by
    intro c hc
    have hchar := h.toNat c hc
    have hascii : 'Z'.toNat < 'a'.toNat ∧ '9'.toNat < 'a'.toNat := by decide
    exact Text.capital_of_lt (by omega)
  unfold Text.capitals
  rw [List.flatMap_congr hself, List.flatMap_singleton', String.ofList_toList]

/-! ## Layouts -/

/-- Separators of the displays. -/
theorem isSpacing_blank : IsSpacing [' '] := .blank (by decide) .nil

theorem isSpacing_comma : IsSpacing [',', ' '] := .comma isSpacing_blank

theorem isSpacing_arrow : IsSpacing [' ', '→', ' '] := .blank (by decide) (.arrow isSpacing_blank)

/-- Tokens in a row with a comma and a blank between them. -/
theorem separated_intercalate (h : ∀ t ∈ ts, IsToken t) (hs : IsSpacing s) (hne : s ≠ []) :
    Separated (s ++ [',', ' '].intercalate ts) ts := by
  induction ts generalizing s with
  | nil =>
    rw [List.intercalate_nil, List.append_nil]
    exact .ending hs
  | cons t ts ih =>
    obtain ⟨ht, hts⟩ := List.forall_mem_cons.mp h
    cases ts with
    | nil =>
      rw [List.intercalate_singleton]
      exact .last hs hne ht
    | cons t' ts =>
      rw [List.intercalate_cons_cons, List.append_assoc]
      exact .token hs hne ht (ih hts isSpacing_comma (by decide))

/-- Whether the display of an instruction has room for all its operands, and for no more where it has
a layout of its own. -/
def HasRoom : Architecture → Instruction → Prop
  | .sparse, i =>
    match i.op with
    | "JUMP" => i.operands.length ≤ 1
    | "CJUMP" => i.operands.length = 4
    | "COPY" => i.operands.length ≤ 2
    | "EMPTY" | "TTRAVEL" | "DEFUSE" | "EXPLODE" => i.operands.length = 0
    | _ => True
  | .fixed, i =>
    match i.op with
    | "JMP" => i.operands.length ≤ 1
    | "BEQ" | "BNE" | "BGT" | "BLT" => i.operands.length = 3
    | _ => True

/-- A layout of the operands of an instruction separates them, up to blanks at the end. -/
def Separates (i : Instruction) (layout : List String → String) : Prop :=
  ∀ texts : List String, texts.length = i.operands.length → (∀ t ∈ texts, IsToken t.toList) →
    ∃ tail, trimEnd (layout texts).toList = trimEnd (i.op.toList ++ tail) ∧ StartsBlank tail ∧
      Separated tail (texts.map String.toList)

variable {layout : List String → String}

theorem Separates.trimmedEnd (h : i.Separates layout) :
    i.Separates fun texts => trimmedEnd (layout texts) := by
  intro texts hlength htexts
  obtain ⟨tail, htail, hrest⟩ := h texts hlength htexts
  refine ⟨tail, ?_, hrest⟩
  unfold Instruction.trimmedEnd
  rw [String.toList_ofList, Text.trimEnd_trimEnd, htail]

theorem separates_plainFormat (i : Instruction) : i.Separates i.plainFormat := by
  refine Separates.trimmedEnd fun texts _ htexts => ?_
  refine ⟨' ' :: [',', ' '].intercalate (texts.map String.toList), ?_,
    Text.startsBlank_cons (by decide) _,
    separated_intercalate (List.forall_mem_map.mpr htexts) isSpacing_blank (by decide)⟩
  simp only [String.toList_append, String.toList_intercalate, List.append_assoc]
  rfl

/-- Nothing but the opcode. -/
theorem separates_op (h : i.operands.length = 0) : i.Separates fun _ => i.op := by
  intro texts hlength _
  obtain rfl := List.length_eq_zero_iff.mp (hlength.trans h)
  exact ⟨[], by rw [List.append_nil], by decide, .ending .nil⟩

/-- The opcode and one operand, if there is one. -/
theorem separates_single (h : i.operands.length ≤ 1) :
    i.Separates fun texts => i.op ++ " " ++ texts.getD 0 "" := by
  intro texts hlength htexts
  rw [← hlength] at h
  match texts with
  | [] =>
    refine ⟨[' '], ?_, by decide, .ending isSpacing_blank⟩
    simp only [String.toList_append, List.append_assoc]
    rfl
  | [s] =>
    rw [List.forall_mem_singleton] at htexts
    refine ⟨' ' :: s.toList, ?_, Text.startsBlank_cons (by decide) _,
      .last isSpacing_blank (by decide) htexts⟩
    simp only [String.toList_append, List.append_assoc]
    rfl

/-- The layout of a copy, which has an arrow before the second of two operands. -/
theorem separates_copy (h : i.operands.length ≤ 2) : i.Separates fun texts =>
    i.op ++ " " ++
      if texts.length = 2 then texts.getD 0 "" ++ " → " ++ texts.getD 1 "" else texts.getD 0 "" := by
  intro texts hlength htexts
  dsimp only
  by_cases hone : i.operands.length ≤ 1
  · rw [if_neg (by omega)]
    exact separates_single hone texts hlength htexts
  have htwo : texts.length = 2 := by omega
  rw [if_pos htwo]
  match texts with
  | [s, t] =>
    obtain ⟨hs, ht⟩ := List.forall_mem_cons.mp htexts
    rw [List.forall_mem_singleton] at ht
    refine ⟨' ' :: (s.toList ++ ([' ', '→', ' '] ++ t.toList)), ?_,
      Text.startsBlank_cons (by decide) _, .token isSpacing_blank (by decide) hs <|
        .last isSpacing_arrow (by decide) ht⟩
    simp only [String.toList_append, List.append_assoc]
    rfl

/-- The layout of a conditional jump, which has an arrow before the last of four operands. -/
theorem separates_compareJump (h : i.operands.length = 4) : i.Separates fun texts =>
    i.op ++ " " ++ texts.getD 0 "" ++ " " ++ texts.getD 1 "" ++ " " ++ texts.getD 2 "" ++ " → "
      ++ texts.getD 3 "" := by
  intro texts hlength htexts
  rw [h] at hlength
  match texts with
  | [s, t, u, v] =>
    simp only [List.forall_mem_cons] at htexts
    obtain ⟨hs, ht, hu, hv, -⟩ := htexts
    refine ⟨' ' :: (s.toList ++ ([' '] ++ (t.toList ++ ([' '] ++ (u.toList ++ ([' ', '→', ' '] ++
      v.toList)))))), ?_, Text.startsBlank_cons (by decide) _,
      .token isSpacing_blank (by decide) hs <| .token isSpacing_blank (by decide) ht <|
        .token isSpacing_blank (by decide) hu <| .last isSpacing_arrow (by decide) hv⟩
    simp only [String.toList_append, List.append_assoc]
    rfl

/-- The layout of a branch, which has an arrow before the last of three operands. -/
theorem separates_branch (h : i.operands.length = 3) : i.Separates fun texts =>
    i.op ++ " " ++ texts.getD 0 "" ++ ", " ++ texts.getD 1 "" ++ " → " ++ texts.getD 2 "" := by
  intro texts hlength htexts
  rw [h] at hlength
  match texts with
  | [s, t, u] =>
    simp only [List.forall_mem_cons] at htexts
    obtain ⟨hs, ht, hu, -⟩ := htexts
    refine ⟨' ' :: (s.toList ++ ([',', ' '] ++ (t.toList ++ ([' ', '→', ' '] ++ u.toList)))), ?_,
      Text.startsBlank_cons (by decide) _,
      .token isSpacing_blank (by decide) hs <| .token isSpacing_comma (by decide) ht <|
        .last isSpacing_arrow (by decide) hu⟩
    simp only [String.toList_append, List.append_assoc]
    rfl

/-- An instruction without operands shows none. -/
theorem allShown_of_length (h : i.operands.length = 0) : i.allShown = .ok [] := by
  unfold allShown
  rw [List.length_eq_zero_iff.mp h]
  rfl

/-- The display of an instruction on a sparse machine lays out its operands, if it has room. -/
theorem exists_layout_sparse (hadd : i.op ≠ "ADD") (hroom : i.HasRoom .sparse) :
    ∃ layout, i.Separates layout ∧
      Architecture.formatSparse i = do return layout (← i.allShown) := by
  obtain ⟨op, operands⟩ := i
  unfold HasRoom at hroom
  dsimp only at hroom
  split at hroom
  next => exact ⟨_, separates_single hroom, rfl⟩
  next => exact ⟨_, separates_compareJump hroom, rfl⟩
  next => exact ⟨_, separates_copy hroom, rfl⟩
  case h_8 hjump hcompareJump hcopy hempty htravel hdefuse hexplode =>
    have hidle : Architecture.sparse.operation op = .idle := by
      unfold Architecture.operation
      dsimp only
      split <;> first | rfl | contradiction
    unfold Architecture.formatSparse
    rw [hidle]
    exact ⟨_, separates_plainFormat _, if_neg hempty⟩
  -- What stands alone has no operands.
  all_goals
    refine ⟨_, separates_op hroom, ?_⟩
    rw [allShown_of_length hroom]
    rfl

/-- So does the display on a fixed machine. -/
theorem exists_layout_fixed (hadd : i.op ≠ "ADD") (hroom : i.HasRoom .fixed) :
    ∃ layout, i.Separates layout ∧
      Architecture.formatFixed i = do return layout (← i.allShown) := by
  refine ⟨_, ?_, rfl⟩
  obtain ⟨op, operands⟩ := i
  unfold HasRoom at hroom
  dsimp only at hroom
  split at hroom
  next => exact (separates_single hroom).trimmedEnd
  case h_6 hjump hequal hunequal hgreater hless =>
    -- All other operations have one layout.
    have hplain : Architecture.fixed.operation op ∈ [.idle, .defuse, .explode] := by
      unfold Architecture.operation
      dsimp only
      split <;> first | contradiction | decide
    rw [List.mem_cons, List.mem_cons, List.mem_singleton] at hplain
    rcases hplain with hoperation | hoperation | hoperation
    all_goals
      rw [hoperation]
      exact separates_plainFormat _
  all_goals exact separates_branch hroom

theorem exists_layout (hadd : i.op ≠ "ADD") (hroom : i.HasRoom a) :
    ∃ layout, i.Separates layout ∧ a.format i = do return layout (← i.allShown) := by
  cases a with
  | sparse => exact exists_layout_sparse hadd hroom
  | fixed => exact exists_layout_fixed hadd hroom

/-! ## Clean operands -/

/-- Operands that can be told from their display: numbers, and texts that are tokens but no
numerals. -/
inductive IsClean : Datum → Prop
  | number (n : Int) : IsClean (.int n)
  | text {s : String} (ht : IsToken s.toList) (h : ∀ n, ¬ Numeral.Spells s.toList n) :
      IsClean (.text s)

/-- A value that is too long to be written. -/
def IsTooLong (d : Datum) : Prop := ∃ n, d = .int n ∧ Numeral.writeLimit ≤ n.natAbs

theorem isTooLong_writeLimit : IsTooLong (.int Numeral.writeLimit) :=
  ⟨_, rfl, Nat.le_of_eq (Int.natAbs_natCast _).symm⟩

/-- A text that is read as an operand. -/
structure IsReadable (s : String) : Prop where
  isToken : IsToken s.toList
  not_isOversized : ¬ Numeral.IsOversized s.toList

theorem shown_of_isTooLong (h : IsTooLong d) : d.shown = .error .tooLongToWrite := by
  obtain ⟨n, rfl, hn⟩ := h
  exact Numeral.write_of_le hn

/-- The display of a clean operand is read as the operand. -/
theorem IsClean.exists_shown (h : IsClean d) (hshort : ¬ IsTooLong d) :
    ∃ s, d.shown = .ok s ∧ IsReadable s ∧ Denotes s.toList d := by
  cases h with
  | number n =>
    have hn : n.natAbs < Numeral.writeLimit := Nat.lt_of_not_le fun hle => hshort ⟨n, rfl, hle⟩
    have hspells := Numeral.spells_digits n
    exact ⟨Numeral.digits n, Numeral.write_of_lt hn, ⟨isToken_of_spells hspells,
      fun hover => Nat.not_le.mpr hn (Numeral.isOversized_digits_iff.mp hover)⟩, .number hspells⟩
  | @text s ht hnone =>
    have hdenotes := Denotes.text hnone
    rw [String.ofList_toList] at hdenotes
    exact ⟨s, rfl, ⟨ht, fun hover => hover.spells.elim hnone⟩, hdenotes⟩

theorem IsClean.failsOnly_shown (h : IsClean d) :
    FailsOnly (· = .tooLongToWrite) d.shown := by
  by_cases hlong : IsTooLong d
  · rw [shown_of_isTooLong hlong]
    exact failsOnly_error rfl
  · obtain ⟨s, hs, -⟩ := h.exists_shown hlong
    rw [hs]
    exact failsOnly_ok s

/-- Clean operands are shown one by one. -/
theorem exists_mapM_shown {ds : List Datum} (hclean : ∀ d ∈ ds, IsClean d)
    (hshort : ∀ d ∈ ds, ¬ IsTooLong d) : ∃ texts, ds.mapM Datum.shown = .ok texts ∧
      (∀ s ∈ texts, IsReadable s) ∧ List.Forall₂ (fun s d => Denotes s.toList d) texts ds := by
  induction ds with
  | nil => exact ⟨[], rfl, List.forall_mem_nil _, .nil⟩
  | cons d ds ih =>
    obtain ⟨hd, hds⟩ := List.forall_mem_cons.mp hclean
    obtain ⟨hdshort, hdsshort⟩ := List.forall_mem_cons.mp hshort
    obtain ⟨s, hs, hread, hdenotes⟩ := hd.exists_shown hdshort
    obtain ⟨texts, htexts, hreads, hall⟩ := ih hds hdsshort
    refine ⟨s :: texts, ?_, List.forall_mem_cons.mpr ⟨hread, hreads⟩, .cons hdenotes hall⟩
    rw [List.mapM_cons, hs, htexts]
    rfl

theorem allShown_eq_error (hclean : ∀ d ∈ i.operands, IsClean d)
    (hlong : ∃ d ∈ i.operands, IsTooLong d) : i.allShown = .error .tooLongToWrite := by
  obtain ⟨d, hd, hlong⟩ := hlong
  obtain ⟨f, rfl, hf⟩ := exists_mapM_eq_error (fun d hd => (hclean d hd).failsOnly_shown)
    ⟨d, hd, _, shown_of_isTooLong hlong⟩
  exact hf

/-! ## Reading displays -/

/-- An opcode and separated operands are read as an instruction. -/
theorem ofChars?_separated {tail : List Char} (hop : IsOpcode i.op)
    (htexts : ∀ s ∈ texts, IsReadable s)
    (hdenotes : List.Forall₂ (fun s d => Denotes s.toList d) texts i.operands)
    (hstart : StartsBlank tail) (hseparated : Separated tail (texts.map String.toList)) :
    ofChars? (i.op.toList ++ tail) = .ok (some i) := by
  let r : Rendering :=
    { margin := []
      mnemonic := i.op.toList
      tail := tail
      tokens := texts.map String.toList
      comment := []
      isBlank_margin := by decide
      mnemonic_ne_nil := hop.ne_nil
      mnemonic_plain := hop.plain
      separated := hseparated
      startsBlank := hstart
      isComment := by decide }
  have hline : r.line = i.op.toList ++ tail := List.append_nil _
  have hrenders : r.Renders i :=
    { op := by rw [String.ofList_toList, hop.capitals]
      operands := List.forall₂_map_left_iff.mpr hdenotes }
  rw [← hline]
  exact Rendering.ofChars?_eq_ok hrenders
    (List.forall_mem_map.mpr fun s hs => (htexts s hs).not_isOversized)

/-- **Displays are read back.** An instruction that the program table shows with all its operands, of
which each can be told from its display, is read from this line again, on either machine. The only
other thing that can happen is that a number among them is too long to be written; then there is no
display at all. -/
theorem displays_read_back (a : Architecture) (i : Instruction) (hop : IsOpcode i.op)
    (hadd : i.op ≠ "ADD") (hroom : i.HasRoom a) (hclean : ∀ d ∈ i.operands, IsClean d) :
    ((∀ d ∈ i.operands, ¬ IsTooLong d) →
      ∃ text, a.format i = .ok text ∧ ofLine? text = .ok (some i)) ∧
    ((∃ d ∈ i.operands, IsTooLong d) → a.format i = .error .tooLongToWrite) := by
  obtain ⟨layout, hlayout, hformat⟩ := exists_layout hadd hroom
  rw [hformat]
  constructor
  · intro hshort
    obtain ⟨texts, hshown, htexts, hdenotes⟩ := exists_mapM_shown hclean hshort
    obtain ⟨tail, htrim, hstart, hseparated⟩ := hlayout texts hdenotes.length_eq fun s hs =>
      (htexts s hs).isToken
    refine ⟨layout texts, by rw [show i.allShown = _ from hshown]; rfl, ?_⟩
    unfold ofLine?
    rw [← ofChars?_trimEnd, htrim, ofChars?_trimEnd]
    exact ofChars?_separated hop htexts hdenotes hstart hseparated
  · intro hlong
    rw [allShown_eq_error hclean hlong]
    rfl

/-- A comparison of signs that could be halves of an arrow, and a branch that is too long. -/
theorem displays_read_back_signs :
    let i : Instruction := ⟨"CJUMP", [.text "-", .text "<", .int (-5), .text ">"]⟩
    let j : Instruction := ⟨"BEQ", [.text "A", .int 0, .int Numeral.writeLimit]⟩
    (∃ text, Architecture.sparse.format i = .ok text ∧ ofLine? text = .ok (some i)) ∧
      Architecture.fixed.format j = .error .tooLongToWrite := by
  intro i j
  have hnone : ∀ s : String, Numeral.ofToken? s.toList = none → IsToken s.toList →
      IsClean (.text s) := fun s hs ht => .text ht (Numeral.ofToken?_eq_none_iff.mp hs)
  have hi : ∀ d ∈ i.operands, IsClean d := List.forall_mem_cons.mpr
    ⟨hnone _ (by decide) (by decide), List.forall_mem_cons.mpr
      ⟨hnone _ (by decide) (by decide), List.forall_mem_cons.mpr
        ⟨.number _, List.forall_mem_singleton.mpr (hnone _ (by decide) (by decide))⟩⟩⟩
  have hj : ∀ d ∈ j.operands, IsClean d := List.forall_mem_cons.mpr
    ⟨hnone _ (by decide) (by decide), List.forall_mem_cons.mpr
      ⟨.number _, List.forall_mem_singleton.mpr (.number _)⟩⟩
  have hshort : ∀ d ∈ i.operands, ¬ IsTooLong d := by
    rintro d hd ⟨n, rfl, hn⟩
    obtain rfl : n = -5 := by simpa [i] using hd
    exact Nat.not_le.mpr (Numeral.exists_write_iff.mp ⟨"-5", by decide⟩) hn
  exact ⟨(displays_read_back .sparse i ⟨by decide, by decide⟩ (by decide) rfl hi).1 hshort,
    (displays_read_back .fixed j ⟨by decide, by decide⟩ (by decide) rfl hj).2
      ⟨_, List.mem_of_getElem? (i := 2) rfl, isTooLong_writeLimit⟩⟩

/-- A jump to a line of too many digits has no display that could be read back. -/
theorem displays_unwritten :
    let i : Instruction := ⟨"JUMP", [.int Numeral.writeLimit]⟩
    IsOpcode i.op ∧ i.op ≠ "ADD" ∧ i.HasRoom .sparse ∧ (∀ d ∈ i.operands, IsClean d) ∧
      ¬ ∃ text, Architecture.sparse.format i = .ok text ∧ ofLine? text = .ok (some i) := by
  intro i
  have hclean : ∀ d ∈ i.operands, IsClean d := List.forall_mem_singleton.mpr (.number _)
  refine ⟨⟨by decide, by decide⟩, by decide, Nat.le_refl 1, hclean, ?_⟩
  rintro ⟨text, hformat, -⟩
  have hlong : i.allShown = .error .tooLongToWrite := allShown_eq_error hclean
    ⟨_, List.mem_singleton_self _, isTooLong_writeLimit⟩
  obtain ⟨texts, hshown, -⟩ := bind_eq_ok (x := i.allShown) hformat
  exact nomatch hlong.symm.trans hshown

end Instruction

end Defusal
