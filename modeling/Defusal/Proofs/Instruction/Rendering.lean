import Mathlib.Data.List.Forall2
import Mathlib.Data.List.Infix
import Defusal.Instruction.Reading
import Defusal.Proofs.Fault.Chain
import Defusal.Proofs.Number.Token
import Defusal.Proofs.Text.Trimming

/-!
# Lines that an instruction may be written as

A line of an instruction is a `Rendering`: a mnemonic, the tokens of the operands with separators
before each, and around these blanks, more separators and a comment. Separators are any blanks, commas
and arrows in a row (`IsSpacing`); a token holds none of them (`IsToken`), but it may end in the first
or begin with the second half of an arrow.

Reading a rendering finds its mnemonic and its tokens (`ofChars?_line`). Arrows are blanked before the
tokens are cut, and what carries the proof is that this can be done piece by piece
(`IsSpacing.blankArrows_append`, `blankArrows_append`): no arrow reaches over the end of a token,
because what follows it does not begin with a tip. So an instruction is read in whatever way it is
written, and a line without an instruction is told from those that have one (`renderings_read`).

Nothing else is ever read: a line that is not blank up to its comment is a rendering
(`exists_rendering`), so that it can only be refused for a numeral of too many digits in it
(`ofChars?_eq_error_iff`).
-/

namespace Defusal

namespace Instruction

open Text (isBlank StartsBlank trimStart trimEnd)

/-! ## Separators and tokens -/

/-- Separators in a row: blanks, commas and arrows of both kinds. -/
inductive IsSpacing : List Char → Prop
  | nil : IsSpacing []
  | blank {c : Char} {cs : List Char} (hc : isBlank c = true) (h : IsSpacing cs) : IsSpacing (c :: cs)
  | comma {cs : List Char} (h : IsSpacing cs) : IsSpacing (',' :: cs)
  | arrow {cs : List Char} (h : IsSpacing cs) : IsSpacing ('→' :: cs)
  | longArrow {cs : List Char} (h : IsSpacing cs) : IsSpacing ('-' :: '>' :: cs)

/-- A token of an operand: it holds no separators and starts no comment. -/
structure IsToken (cs : List Char) : Prop where
  ne_nil : cs ≠ []
  plain : ∀ c ∈ cs, isBlank c = false ∧ c ≠ ',' ∧ c ≠ ';' ∧ c ≠ '→'
  no_arrow : ¬ ['-', '>'] <:+: cs

instance (cs : List Char) : Decidable (IsToken cs) :=
  decidable_of_iff (cs ≠ [] ∧ (∀ c ∈ cs, isBlank c = false ∧ c ≠ ',' ∧ c ≠ ';' ∧ c ≠ '→') ∧
    ¬ ['-', '>'] <:+: cs) ⟨fun ⟨hne, hplain, harrow⟩ => ⟨hne, hplain, harrow⟩,
      fun h => ⟨h.ne_nil, h.plain, h.no_arrow⟩⟩

variable {c : Char} {cs s token gap x y rest : List Char}

theorem ne_of_isBlank (hc : isBlank c = true) : c ≠ ';' ∧ c ≠ '→' ∧ c ≠ '-' ∧ c ≠ '>' := by
  have hplain : isBlank ';' = false ∧ isBlank '→' = false ∧ isBlank '-' = false ∧
      isBlank '>' = false := by decide
  refine ⟨?_, ?_, ?_, ?_⟩
  all_goals
    rintro rfl
    simp_all

theorem IsSpacing.ne_semicolon (h : IsSpacing s) : ∀ c ∈ s, c ≠ ';' := by
  induction h with
  | nil => exact fun c hc => nomatch hc
  | blank hc _ ih => exact List.forall_mem_cons.mpr ⟨(ne_of_isBlank hc).1, ih⟩
  | comma _ ih => exact List.forall_mem_cons.mpr ⟨by decide, ih⟩
  | arrow _ ih => exact List.forall_mem_cons.mpr ⟨by decide, ih⟩
  | longArrow _ ih =>
    exact List.forall_mem_cons.mpr ⟨by decide, List.forall_mem_cons.mpr ⟨by decide, ih⟩⟩

/-- No separator begins with the tip of an arrow. -/
theorem IsSpacing.head?_ne (h : IsSpacing s) : s.head? ≠ some '>' := by
  cases h with
  | nil => exact nofun
  | blank hc _ => exact fun heq => (ne_of_isBlank hc).2.2.2 (Option.some.inj heq)
  | comma | arrow | longArrow => exact fun heq => absurd (Option.some.inj heq) (by decide)

/-! ### Blanked arrows -/

/-- A character that begins no arrow stays. -/
theorem blankArrows_cons (hc : c ≠ '→') (harrow : c = '-' → rest.head? ≠ some '>') :
    blankArrows (c :: rest) = c :: blankArrows rest := by
  rw [blankArrows]
  · exact hc
  · rintro rest' hdash rfl
    exact harrow hdash rfl

/-- Arrows are blanked piece by piece if no arrow reaches from one piece into the next. -/
theorem blankArrows_append (h : y.head? ≠ some '>') (x : List Char) :
    blankArrows (x ++ y) = blankArrows x ++ blankArrows y := by
  induction x using blankArrows.induct with
  | case1 => rfl
  | case2 rest ih => exact congrArg (' ' :: ·) ih
  | case3 rest ih => exact congrArg (' ' :: ·) ih
  | case4 c rest hc harrow ih =>
    have hself : c = '-' → rest.head? ≠ some '>' := by
      intro hdash htip
      cases rest with
      | nil => cases htip
      | cons d rest => exact harrow rest hdash (Option.some.inj htip ▸ rfl)
    have hjoined : c = '-' → (rest ++ y).head? ≠ some '>' := by
      cases rest with
      | nil => exact fun _ => h
      | cons d rest => exact hself
    rw [List.cons_append, blankArrows_cons hc hjoined, ih, blankArrows_cons hc hself]
    rfl

/-- A token has no arrows to blank. -/
theorem IsToken.blankArrows (h : IsToken token) : blankArrows token = token := by
  obtain ⟨-, hplain, harrow⟩ := h
  induction token with
  | nil => rfl
  | cons c token ih =>
    obtain ⟨⟨-, -, -, hc⟩, hplain⟩ := List.forall_mem_cons.mp hplain
    rw [blankArrows_cons hc, ih hplain fun hmem => harrow (hmem.trans (List.suffix_cons ..).isInfix)]
    rintro rfl htip
    cases token with
    | nil => cases htip
    | cons d token =>
      cases htip
      exact harrow (List.prefix_append ['-', '>'] token).isInfix

theorem IsToken.isSeparator (h : IsToken token) : ∀ c ∈ token, isSeparator c = false := by
  intro c hc
  obtain ⟨hblank, hcomma, -, -⟩ := h.plain c hc
  unfold Instruction.isSeparator
  rw [hblank, Bool.false_or, beq_eq_false_iff_ne]
  exact hcomma

/-- A numeral is a token. -/
theorem isToken_of_spells {n : Int} (h : Numeral.Spells token n) : IsToken token where
  ne_nil := h.ne_nil
  plain c hc := by
    rcases h.isDigit_or_sign c hc with hdigit | rfl | rfl
    · refine ⟨Text.isBlank_of_isDigit hdigit, ?_, ?_, ?_⟩
      all_goals
        rintro rfl
        exact absurd hdigit (by decide)
    · decide
    · decide
  no_arrow hmem := by
    have htip := hmem.subset (List.mem_cons_of_mem '-' (List.mem_singleton_self '>'))
    rcases h.isDigit_or_sign _ htip with hdigit | hsign | hsign
    · exact absurd hdigit (by decide)
    · exact absurd hsign (by decide)
    · exact absurd hsign (by decide)

/-- Only the empty text is blanked to nothing. -/
theorem blankArrows_ne_nil (h : cs ≠ []) : blankArrows cs ≠ [] := by
  unfold blankArrows
  split
  · exact absurd rfl h
  all_goals exact List.cons_ne_nil _ _

theorem IsSpacing.blankArrows_cons (hc : isBlank c = true) (rest : List Char) :
    blankArrows (c :: rest) = c :: blankArrows rest := by
  obtain ⟨-, harrow, hdash, -⟩ := ne_of_isBlank hc
  exact Instruction.blankArrows_cons harrow fun heq => absurd heq hdash

/-- Separators end with no first half of an arrow, so they are blanked on their own. -/
theorem IsSpacing.blankArrows_append (h : IsSpacing s) (rest : List Char) :
    blankArrows (s ++ rest) = blankArrows s ++ blankArrows rest := by
  induction h with
  | nil => rfl
  | blank hc _ ih =>
    rw [List.cons_append, blankArrows_cons hc, blankArrows_cons hc, ih, List.cons_append]
  | comma _ ih => exact congrArg (',' :: ·) ih
  | arrow _ ih => exact congrArg (' ' :: ·) ih
  | longArrow _ ih => exact congrArg (' ' :: ·) ih

theorem isSeparator_of_isBlank (hc : isBlank c = true) : isSeparator c = true := by
  unfold isSeparator
  rw [hc]
  rfl

/-- Blanked separators separate tokens, character by character. -/
theorem IsSpacing.isSeparator (h : IsSpacing s) : ∀ c ∈ blankArrows s, isSeparator c = true := by
  induction h with
  | nil => exact fun c hc => nomatch hc
  | blank hc _ ih =>
    rw [blankArrows_cons hc]
    exact List.forall_mem_cons.mpr ⟨isSeparator_of_isBlank hc, ih⟩
  | comma _ ih => exact List.forall_mem_cons.mpr ⟨by decide, ih⟩
  | arrow _ ih => exact List.forall_mem_cons.mpr ⟨by decide, ih⟩
  | longArrow _ ih => exact List.forall_mem_cons.mpr ⟨by decide, ih⟩

/-! ### Cutting at separators -/

theorem tokensFrom_cons_of_separator (hc : isSeparator c = true) (rest : List Char) :
    tokensFrom token (c :: rest)
      = if token.isEmpty then tokensFrom [] rest else token.reverse :: tokensFrom [] rest := by
  rw [tokensFrom, if_pos hc]

theorem tokensFrom_cons_of_plain (hc : isSeparator c = false) (rest : List Char) :
    tokensFrom token (c :: rest) = tokensFrom (c :: token) rest := by
  rw [tokensFrom, if_neg (Bool.eq_false_iff.mp hc)]

/-- Characters that separate tokens are skipped before a token. -/
theorem tokensFrom_gap (h : ∀ c ∈ gap, isSeparator c = true) (rest : List Char) :
    tokensFrom [] (gap ++ rest) = tokensFrom [] rest := by
  induction gap with
  | nil => rfl
  | cons c gap ih =>
    obtain ⟨hc, hgap⟩ := List.forall_mem_cons.mp h
    rw [List.cons_append, tokensFrom_cons_of_separator hc]
    exact ih hgap

/-- Other characters are added to the token. -/
theorem tokensFrom_word (h : ∀ c ∈ cs, isSeparator c = false) (rest : List Char) :
    tokensFrom token (cs ++ rest) = tokensFrom (cs.reverse ++ token) rest := by
  induction cs generalizing token with
  | nil => rfl
  | cons c cs ih =>
    obtain ⟨hc, hcs⟩ := List.forall_mem_cons.mp h
    rw [List.cons_append, tokensFrom_cons_of_plain hc, ih hcs, List.reverse_cons, List.append_assoc]
    rfl

/-- A token ends where nothing follows, or a character that separates. -/
theorem tokensFrom_end (hne : token ≠ []) (h : ∀ c ∈ rest.head?, isSeparator c = true) :
    tokensFrom token rest = token.reverse :: tokensFrom [] rest := by
  have hempty : ¬ token.isEmpty = true := by rwa [List.isEmpty_iff]
  cases rest with
  | nil => exact if_neg hempty
  | cons c rest =>
    have hc := h c rfl
    rw [tokensFrom_cons_of_separator hc, if_neg hempty, tokensFrom_cons_of_separator hc]
    rfl

/-- Characters that separate tokens do not matter at the end. -/
theorem tokensFrom_append_gap (h : ∀ c ∈ gap, isSeparator c = true) (cs : List Char) :
    tokensFrom token (cs ++ gap) = tokensFrom token cs := by
  have hgap : tokensFrom [] gap = [] := by
    have hskip := tokensFrom_gap h []
    rwa [List.append_nil] at hskip
  induction cs generalizing token with
  | nil =>
    by_cases hne : token = []
    · rw [hne, List.nil_append, hgap]
      rfl
    · rw [List.nil_append, tokensFrom_end hne fun c hc => h c (List.mem_of_mem_head? hc), hgap]
      exact (if_neg (by rwa [List.isEmpty_iff])).symm
  | cons c cs ih =>
    rw [List.cons_append, tokensFrom, tokensFrom, ih, ih]

theorem isSpacing_of_isBlank (h : ∀ c ∈ cs, isBlank c = true) : IsSpacing cs := by
  induction cs with
  | nil => exact .nil
  | cons c cs ih =>
    obtain ⟨hc, hcs⟩ := List.forall_mem_cons.mp h
    exact .blank hc (ih hcs)

/-- Separators before operands do not matter. -/
theorem tokens_spacing_append (h : IsSpacing s) (rest : List Char) :
    tokens (s ++ rest) = tokens rest := by
  unfold tokens
  rw [h.blankArrows_append, tokensFrom_gap h.isSeparator]

/-- Separators after operands do not matter. -/
theorem tokens_append_spacing (h : IsSpacing s) (cs : List Char) : tokens (cs ++ s) = tokens cs := by
  unfold tokens
  rw [blankArrows_append h.head?_ne, tokensFrom_append_gap h.isSeparator]

/-- A token is cut off at the separators behind it. -/
theorem tokens_token_append (h : IsToken token) (hs : IsSpacing s)
    (hend : s = [] → rest = []) : tokens (token ++ (s ++ rest)) = token :: tokens (s ++ rest) := by
  have htip : (s ++ rest).head? ≠ some '>' := by
    cases s with
    | nil => rw [hend rfl]; exact nofun
    | cons c s => exact hs.head?_ne
  have hseparator : ∀ c ∈ (blankArrows (s ++ rest)).head?, isSeparator c = true := by
    rw [hs.blankArrows_append]
    cases hblanked : blankArrows s with
    | nil =>
      rw [hend (not_imp_not.mp blankArrows_ne_nil hblanked)]
      exact fun c hc => nomatch hc
    | cons d ds =>
      have hd := hs.isSeparator d (hblanked ▸ List.mem_cons_self ..)
      rintro _ ⟨rfl⟩
      exact hd
  unfold tokens
  rw [blankArrows_append htip, h.blankArrows, tokensFrom_word h.isSeparator, List.append_nil,
    tokensFrom_end (List.reverse_ne_nil_iff.mpr h.ne_nil) hseparator, List.reverse_reverse]

/-- Blanks around operands do not matter. -/
theorem tokens_trimStart (cs : List Char) : tokens (trimStart cs) = tokens cs := by
  obtain ⟨blanks, hblanks, hcs⟩ := Text.exists_trimStart cs
  conv_rhs => rw [hcs]
  exact (tokens_spacing_append (isSpacing_of_isBlank hblanks) _).symm

theorem tokens_trimEnd (cs : List Char) : tokens (trimEnd cs) = tokens cs := by
  obtain ⟨blanks, hblanks, hcs⟩ := Text.exists_trimEnd cs
  conv_rhs => rw [hcs]
  exact (tokens_append_spacing (isSpacing_of_isBlank hblanks) _).symm

/-! ## Comments -/

/-- Nothing, or a semicolon with any text after it. -/
def IsComment (cs : List Char) : Prop := ∀ c ∈ cs.head?, c = ';'

instance (cs : List Char) : Decidable (IsComment cs) :=
  inferInstanceAs (Decidable (∀ c ∈ cs.head?, c = ';'))

/-- A line with nothing but blanks before its comment. -/
def IsBlankLine (line : List Char) : Prop :=
  ∃ margin comment, line = margin ++ comment ∧ (∀ c ∈ margin, isBlank c = true) ∧ IsComment comment

theorem dropComment_append (h : ∀ c ∈ cs, c ≠ ';') (hrest : IsComment rest) :
    dropComment (cs ++ rest) = cs :=
  Text.takeWhile_append (fun c hc => bne_iff_ne.mpr (h c hc)) fun c hc => by
    rw [hrest c hc, bne_self_eq_false]

/-- A line is blank if and only if it is blank up to its first semicolon. -/
theorem isBlankLine_iff {line : List Char} :
    IsBlankLine line ↔ ∀ c ∈ dropComment line, isBlank c = true := by
  constructor
  · rintro ⟨margin, comment, rfl, hmargin, hcomment⟩
    rwa [dropComment_append (fun c hc => (ne_of_isBlank (hmargin c hc)).1) hcomment]
  · intro h
    refine ⟨dropComment line, line.dropWhile (· != ';'), List.takeWhile_append_dropWhile.symm, h, ?_⟩
    exact fun c hc => bne_eq_false_iff_eq.mp (Text.head?_dropWhile _ line c hc)

theorem ofChars?_eq_none_iff {line : List Char} : ofChars? line = .ok none ↔ IsBlankLine line := by
  rw [isBlankLine_iff, ← Text.trim_eq_nil_iff]
  unfold ofChars?
  split
  next hbody => exact iff_of_true rfl hbody
  next hne =>
    refine iff_of_false (fun h => ?_) hne
    obtain ⟨operands, -, h⟩ := bind_eq_ok h
    cases h

/-! ## Blanks around a line -/

/-- The blanks before an instruction do not matter to it, nor to where its comment starts. -/
theorem trimStart_dropComment (cs : List Char) :
    trimStart (dropComment (trimStart cs)) = trimStart (dropComment cs) := by
  induction cs with
  | nil => rfl
  | cons c cs ih =>
    by_cases hc : isBlank c = true
    · -- A semicolon is no blank, so both cuts leave the blank out of the comment.
      have hskip : trimStart (c :: cs) = trimStart cs := List.dropWhile_cons_of_pos hc
      have hkept : dropComment (c :: cs) = c :: dropComment cs :=
        List.takeWhile_cons_of_pos (bne_iff_ne.mpr (ne_of_isBlank hc).1)
      rw [hskip, ih, hkept]
      exact (List.dropWhile_cons_of_pos hc).symm
    · have hstay : trimStart (c :: cs) = c :: cs := List.dropWhile_cons_of_neg hc
      rw [hstay]

theorem ofChars?_trimStart (cs : List Char) : ofChars? (trimStart cs) = ofChars? cs := by
  unfold ofChars? Text.trim
  rw [trimStart_dropComment]

theorem exists_dropComment_append {blanks : List Char} (h : ∀ c ∈ blanks, isBlank c = true)
    (cs : List Char) : ∃ rest, (∀ c ∈ rest, isBlank c = true) ∧
      dropComment (cs ++ blanks) = dropComment cs ++ rest := by
  unfold dropComment
  rw [List.takeWhile_append]
  split
  next hwhole =>
    refine ⟨blanks.takeWhile (· != ';'), fun c hc => h c ((List.takeWhile_sublist _).subset hc), ?_⟩
    rw [(List.takeWhile_prefix _).eq_of_length hwhole]
  next => exact ⟨[], fun c hc => (nomatch hc), (List.append_nil _).symm⟩

/-- Nor do the blanks after it. -/
theorem ofChars?_trimEnd (cs : List Char) : ofChars? (trimEnd cs) = ofChars? cs := by
  obtain ⟨blanks, hblanks, hcs⟩ := Text.exists_trimEnd cs
  obtain ⟨rest, hrest, hcut⟩ := exists_dropComment_append hblanks (trimEnd cs)
  rw [← hcs] at hcut
  unfold ofChars?
  rw [hcut, Text.trim_append_blanks hrest]

/-! ## Renderings -/

/-- A text consists of tokens with separators before each of them, and maybe after the last. -/
inductive Separated : List Char → List (List Char) → Prop
  | ending {s : List Char} (hs : IsSpacing s) : Separated s []
  | token {s t rest : List Char} {ts : List (List Char)} (hs : IsSpacing s) (hne : s ≠ [])
      (ht : IsToken t) (h : Separated rest ts) : Separated (s ++ (t ++ rest)) (t :: ts)

/-- The last token, with nothing after it. -/
theorem Separated.last (hs : IsSpacing s) (hne : s ≠ []) (ht : IsToken token) :
    Separated (s ++ token) [token] := by
  have hlast := Separated.token hs hne ht (.ending .nil)
  rwa [List.append_nil] at hlast

/-- An instruction as it is written. A blank has to stand between the mnemonic and what follows it, as
other separators would be taken for a part of the mnemonic. -/
structure Rendering where
  margin : List Char
  mnemonic : List Char
  tail : List Char
  tokens : List (List Char)
  comment : List Char
  isBlank_margin : ∀ c ∈ margin, isBlank c = true
  mnemonic_ne_nil : mnemonic ≠ []
  mnemonic_plain : ∀ c ∈ mnemonic, isBlank c = false ∧ c ≠ ';'
  separated : Separated tail tokens
  startsBlank : StartsBlank tail
  isComment : IsComment comment

/-- A token of the decimal digits of a number stands for the number, any other one for itself. -/
inductive Denotes : List Char → Datum → Prop
  | number {token : List Char} {n : Int} (h : Numeral.Spells token n) : Denotes token (.int n)
  | text {token : List Char} (h : ∀ n, ¬ Numeral.Spells token n) :
      Denotes token (.text (String.ofList token))

namespace Rendering

/-- A mnemonic and one operand, with a blank between them. -/
def single (mnemonic token : List Char) (hne : mnemonic ≠ [])
    (hplain : ∀ c ∈ mnemonic, isBlank c = false ∧ c ≠ ';') (htoken : IsToken token) : Rendering where
  margin := []
  mnemonic := mnemonic
  tail := ' ' :: token
  tokens := [token]
  comment := []
  isBlank_margin := List.forall_mem_nil _
  mnemonic_ne_nil := hne
  mnemonic_plain := hplain
  separated := .last (s := [' ']) (.blank (by decide) .nil) (by decide) htoken
  startsBlank := Text.startsBlank_cons (by decide) _
  isComment := by decide

/-- The line. -/
def line (r : Rendering) : List Char := r.margin ++ (r.mnemonic ++ r.tail) ++ r.comment

theorem line_single {mnemonic token : List Char} (hne : mnemonic ≠ [])
    (hplain : ∀ c ∈ mnemonic, isBlank c = false ∧ c ≠ ';') (htoken : IsToken token) :
    (single mnemonic token hne hplain htoken).line = mnemonic ++ ' ' :: token :=
  List.append_nil _

/-- A rendering is one of an instruction. -/
structure Renders (r : Rendering) (i : Instruction) : Prop where
  op : i.op = Text.capitals (String.ofList r.mnemonic)
  operands : List.Forall₂ Denotes r.tokens i.operands

end Rendering

variable {ts : List (List Char)}

/-- Whatever follows an operand begins with separators. -/
theorem Separated.exists_spacing (h : Separated cs ts) :
    ∃ s rest, cs = s ++ rest ∧ IsSpacing s ∧ (s = [] → rest = []) := by
  cases h with
  | ending hs => exact ⟨cs, [], (List.append_nil cs).symm, hs, fun _ => rfl⟩
  | token hs hne => exact ⟨_, _, rfl, hs, fun hnil => absurd hnil hne⟩

/-- Separated tokens are cut apart. -/
theorem Separated.tokens_eq (h : Separated cs ts) : tokens cs = ts := by
  induction h with
  | ending hs => exact tokens_append_spacing hs []
  | token hs hne ht hrest ih =>
    obtain ⟨s, rest, rfl, hs', hend⟩ := hrest.exists_spacing
    rw [tokens_spacing_append hs, tokens_token_append ht hs' hend, ih]

theorem Separated.ne_semicolon (h : Separated cs ts) : ∀ c ∈ cs, c ≠ ';' := by
  induction h with
  | ending hs => exact hs.ne_semicolon
  | token hs hne ht _ ih =>
    refine List.forall_mem_append.mpr ⟨hs.ne_semicolon, List.forall_mem_append.mpr ⟨?_, ih⟩⟩
    exact fun c hc => (ht.plain c hc).2.2.1

/-- **Reading a rendering finds its mnemonic and its tokens.** -/
theorem ofChars?_line (r : Rendering) : ofChars? r.line = do
    return some ⟨Text.capitals (String.ofList r.mnemonic), ← r.tokens.mapM operandOf⟩ := by
  have hplain : ∀ c ∈ r.mnemonic, isBlank c = false := fun c hc => (r.mnemonic_plain c hc).1
  have hbody : Text.trim (dropComment r.line) = r.mnemonic ++ trimEnd r.tail := by
    unfold Rendering.line
    rw [dropComment_append _ r.isComment, Text.trim_word r.isBlank_margin r.mnemonic_ne_nil hplain]
    exact List.forall_mem_append.mpr ⟨fun c hc => (ne_of_isBlank (r.isBlank_margin c hc)).1,
      List.forall_mem_append.mpr ⟨fun c hc => (r.mnemonic_plain c hc).2, r.separated.ne_semicolon⟩⟩
  have htokens : tokens (trimStart (trimEnd r.tail)) = r.tokens := by
    rw [tokens_trimStart, tokens_trimEnd, r.separated.tokens_eq]
  unfold ofChars?
  rw [hbody]
  split
  next hnil => exact absurd (List.append_eq_nil_iff.mp hnil).1 r.mnemonic_ne_nil
  next =>
    rw [Text.takeWhile_word hplain r.startsBlank.trimEnd,
      Text.dropWhile_word hplain r.startsBlank.trimEnd]
    show (tokens (trimStart (trimEnd _))).mapM operandOf >>= _ = _
    rw [htokens]

/-! ## Every line is a rendering -/

theorem IsSpacing.append (h : IsSpacing s) (hcs : IsSpacing cs) : IsSpacing (s ++ cs) := by
  induction h with
  | nil => exact hcs
  | blank hc _ ih => exact .blank hc ih
  | comma _ ih => exact .comma ih
  | arrow _ ih => exact .arrow ih
  | longArrow _ ih => exact .longArrow ih

theorem Separated.prepend (hs : IsSpacing s) (h : Separated cs ts) : Separated (s ++ cs) ts := by
  cases h with
  | ending hcs => exact .ending (hs.append hcs)
  | token hs' hne ht hrest =>
    rw [← List.append_assoc]
    exact .token (hs.append hs') (List.append_ne_nil_of_right_ne_nil s hne) ht hrest

/-- A text that begins with a token, which its first separators end, or that has none before these. -/
def IsCutAfter (word cs : List Char) : Prop :=
  (word = [] ∨ IsToken word) ∧ ∃ rest ts, cs = word ++ rest ∧ Separated rest ts

/-- Separators before such a text separate its tokens. -/
theorem IsCutAfter.prepend {word : List Char} (h : IsCutAfter word cs) (hs : IsSpacing s)
    (hne : s ≠ []) : IsCutAfter [] (s ++ cs) := by
  obtain ⟨rfl | hword, rest, ts, rfl, hrest⟩ := h
  · exact ⟨.inl rfl, _, ts, rfl, hrest.prepend hs⟩
  · exact ⟨.inl rfl, _, word :: ts, rfl, .token hs hne hword hrest⟩

/-- One more character of a token. -/
theorem IsToken.cons {word : List Char} {c : Char}
    (hc : isBlank c = false ∧ c ≠ ',' ∧ c ≠ ';' ∧ c ≠ '→') (harrow : c = '-' → word.head? ≠ some '>')
    (h : word = [] ∨ IsToken word) : IsToken (c :: word) where
  ne_nil := List.cons_ne_nil c word
  plain := by
    refine List.forall_mem_cons.mpr ⟨hc, ?_⟩
    obtain rfl | hword := h
    · exact List.forall_mem_nil _
    · exact hword.plain
  no_arrow hmem := by
    obtain hprefix | hinfix := List.infix_cons_iff.mp hmem
    · obtain ⟨rfl, hword⟩ := List.cons_prefix_cons.mp hprefix
      obtain ⟨after, rfl⟩ := hword
      exact harrow rfl rfl
    · obtain rfl | hword := h
      · cases List.infix_nil.mp hinfix
      · exact hword.no_arrow hinfix

/-- **Any text without a comment can be cut into tokens**, the first of which may be missing. -/
theorem exists_isCutAfter (h : ∀ c ∈ cs, c ≠ ';') : ∃ word, IsCutAfter word cs := by
  -- The cut is found along with the arrows, which take two characters at once.
  induction cs using blankArrows.induct with
  | case1 => exact ⟨[], .inl rfl, [], [], rfl, .ending .nil⟩
  | case2 rest ih =>
    obtain ⟨-, hrest⟩ := List.forall_mem_cons.mp h
    obtain ⟨word, hword⟩ := ih hrest
    exact ⟨[], hword.prepend (s := ['→']) (.arrow .nil) (List.cons_ne_nil _ _)⟩
  | case3 rest ih =>
    obtain ⟨-, hrest⟩ := List.forall_mem_cons.mp h
    obtain ⟨word, hword⟩ := ih (List.forall_mem_cons.mp hrest).2
    exact ⟨[], hword.prepend (s := ['-', '>']) (.longArrow .nil) (List.cons_ne_nil _ _)⟩
  | case4 c rest hc harrow ih =>
    obtain ⟨hsemicolon, hrest⟩ := List.forall_mem_cons.mp h
    obtain ⟨word, hword⟩ := ih hrest
    by_cases hblank : isBlank c = true
    · exact ⟨[], hword.prepend (s := [c]) (.blank hblank .nil) (List.cons_ne_nil _ _)⟩
    by_cases hcomma : c = ','
    · subst hcomma
      exact ⟨[], hword.prepend (s := [',']) (.comma .nil) (List.cons_ne_nil _ _)⟩
    obtain ⟨htoken, rest', ts, rfl, hseparated⟩ := hword
    have htip : c = '-' → word.head? ≠ some '>' := by
      intro hdash hhead
      obtain ⟨after, rfl⟩ := List.head?_eq_some_iff.mp hhead
      exact harrow (after ++ rest') hdash rfl
    have hcut : IsToken (c :: word) :=
      .cons ⟨Bool.eq_false_iff.mpr hblank, hcomma, hsemicolon, hc⟩ htip htoken
    exact ⟨c :: word, .inr hcut, rest', ts, rfl, hseparated⟩

/-- What begins with a blank begins with no token. -/
theorem exists_separated (h : ∀ c ∈ cs, c ≠ ';') (hblank : StartsBlank cs) :
    ∃ ts, Separated cs ts := by
  obtain ⟨word, hword, rest, ts, rfl, hrest⟩ := exists_isCutAfter h
  obtain rfl | hword := hword
  · exact ⟨ts, hrest⟩
  · obtain ⟨c, word, rfl⟩ := List.exists_cons_of_ne_nil hword.ne_nil
    exact absurd (hblank c rfl) (Bool.eq_false_iff.mp (hword.plain c (List.mem_cons_self ..)).1)

/-- **A line that is not blank up to its comment is a rendering.** -/
theorem exists_rendering {line : List Char} (h : ¬ IsBlankLine line) :
    ∃ r : Rendering, r.line = line := by
  rw [isBlankLine_iff] at h
  obtain ⟨margin, mnemonic, tail, hbody, hmargin, hne, hplain, hblank⟩ := Text.exists_word h
  have hcomment : ∀ c ∈ margin ++ (mnemonic ++ tail), c ≠ ';' := fun c hc =>
    bne_iff_ne.mp (List.all_eq_true.mp List.all_takeWhile c (hbody ▸ hc))
  obtain ⟨-, hcomment⟩ := List.forall_mem_append.mp hcomment
  obtain ⟨hmnemonic, htail⟩ := List.forall_mem_append.mp hcomment
  obtain ⟨ts, hseparated⟩ := exists_separated htail hblank
  refine ⟨{
    margin := margin
    mnemonic := mnemonic
    tail := tail
    tokens := ts
    comment := line.dropWhile (· != ';')
    isBlank_margin := hmargin
    mnemonic_ne_nil := hne
    mnemonic_plain := fun c hc => ⟨hplain c hc, hmnemonic c hc⟩
    separated := hseparated
    startsBlank := hblank
    isComment := fun c hc => bne_eq_false_iff_eq.mp (Text.head?_dropWhile _ line c hc) }, ?_⟩
  unfold Rendering.line
  rw [← hbody]
  exact List.takeWhile_append_dropWhile

/-! ## What is read -/

theorem exists_denotes (token : List Char) : ∃ d, Denotes token d := by
  by_cases h : ∃ n, Numeral.Spells token n
  · obtain ⟨n, hn⟩ := h
    exact ⟨_, .number hn⟩
  · exact ⟨_, .text (not_exists.mp h)⟩

/-- A token is read as what it stands for, unless it is a numeral of too many digits. -/
theorem operandOf_eq_ok {d : Datum} (h : Denotes token d) (hsize : ¬ Numeral.IsOversized token) :
    operandOf token = .ok d := by
  unfold operandOf
  cases h with
  | number hn =>
    rw [Numeral.ofToken?_of_spells hn, if_neg fun hlimit => hsize ⟨⟨_, hn⟩, hlimit⟩]
    rfl
  | text hnone => rw [Numeral.ofToken?_eq_none_iff.mpr hnone]

theorem operandOf_eq_error (h : Numeral.IsOversized token) :
    operandOf token = .error (.tooManyDigits (token.countP Text.isDigit)) := by
  obtain ⟨⟨n, hn⟩, hlimit⟩ := h
  unfold operandOf
  rw [Numeral.ofToken?_of_spells hn, if_pos hlimit]
  rfl

/-- Tokens of which none has too many digits are read as what they stand for. -/
theorem mapM_operandOf_eq_ok {ts : List (List Char)} {ds : List Datum}
    (h : List.Forall₂ Denotes ts ds) (hsize : ∀ t ∈ ts, ¬ Numeral.IsOversized t) :
    ts.mapM operandOf = .ok ds := by
  induction h with
  | nil => rfl
  | cons hd _ ih =>
    obtain ⟨ht, hts⟩ := List.forall_mem_cons.mp hsize
    rw [List.mapM_cons, operandOf_eq_ok hd ht, ih hts]
    rfl

/-- Numerals of too many digits are the only tokens that cannot be read. -/
theorem failsOnly_operandOf (token : List Char) :
    FailsOnly (fun f => ∃ n, f = .tooManyDigits n) (operandOf token) := by
  by_cases h : Numeral.IsOversized token
  · rw [operandOf_eq_error h]
    exact failsOnly_error ⟨_, rfl⟩
  · obtain ⟨d, hd⟩ := exists_denotes token
    rw [operandOf_eq_ok hd h]
    exact failsOnly_ok d

/-- One numeral of too many digits keeps all tokens from being read. -/
theorem mapM_operandOf_eq_error {ts : List (List Char)} (h : ∃ t ∈ ts, Numeral.IsOversized t) :
    ∃ n, ts.mapM operandOf = .error (.tooManyDigits n) := by
  obtain ⟨t, ht, hsize⟩ := h
  obtain ⟨f, ⟨n, rfl⟩, hf⟩ := exists_mapM_eq_error (fun t _ => failsOnly_operandOf t)
    ⟨t, ht, _, operandOf_eq_error hsize⟩
  exact ⟨n, hf⟩

theorem exists_renders (r : Rendering) : ∃ i, r.Renders i := by
  have hoperands : ∀ ts, ∃ ds, List.Forall₂ Denotes ts ds := by
    intro ts
    induction ts with
    | nil => exact ⟨[], .nil⟩
    | cons t ts ih =>
      obtain ⟨d, hd⟩ := exists_denotes t
      obtain ⟨ds, hds⟩ := ih
      exact ⟨d :: ds, .cons hd hds⟩
  obtain ⟨ds, hds⟩ := hoperands r.tokens
  exact ⟨⟨_, ds⟩, rfl, hds⟩

theorem Rendering.ofChars?_eq_ok {r : Rendering} {i : Instruction} (h : r.Renders i)
    (hsize : ∀ t ∈ r.tokens, ¬ Numeral.IsOversized t) : ofChars? r.line = .ok (some i) := by
  obtain ⟨op, operands⟩ := i
  obtain ⟨rfl, hoperands⟩ := h
  rw [ofChars?_line, mapM_operandOf_eq_ok hoperands hsize]
  rfl

theorem Rendering.ofChars?_eq_error {r : Rendering} (h : ∃ t ∈ r.tokens, Numeral.IsOversized t) :
    ∃ n, ofChars? r.line = .error (.tooManyDigits n) := by
  obtain ⟨n, hn⟩ := mapM_operandOf_eq_error h
  exact ⟨n, by rw [ofChars?_line, hn]; rfl⟩

/-- **A line cannot be read only for a numeral of too many digits** among its operands. -/
theorem ofChars?_eq_error_iff {line : List Char} : (∃ f, ofChars? line = .error f) ↔
    ∃ r : Rendering, r.line = line ∧ ∃ t ∈ r.tokens, Numeral.IsOversized t := by
  constructor
  · rintro ⟨f, hread⟩
    have hblank : ¬ IsBlankLine line := fun hblank =>
      nomatch hread.symm.trans (ofChars?_eq_none_iff.mpr hblank)
    obtain ⟨r, rfl⟩ := exists_rendering hblank
    obtain ⟨i, hi⟩ := exists_renders r
    refine ⟨r, rfl, by_contra fun hsize => ?_⟩
    push Not at hsize
    exact nomatch hread.symm.trans (Rendering.ofChars?_eq_ok hi hsize)
  · rintro ⟨r, rfl, hsize⟩
    obtain ⟨n, hn⟩ := Rendering.ofChars?_eq_error hsize
    exact ⟨_, hn⟩

/-- **An instruction is read in whatever way it is written.** Every rendering is one of an
instruction, and this is what is read, unless an operand is a numeral of too many digits: then nothing
is. A line is read as none if and only if it is blank up to its comment. -/
theorem renderings_read (r : Rendering) (line : String) :
    ((∃ i, r.Renders i) ∧
      ((∀ t ∈ r.tokens, ¬ Numeral.IsOversized t) →
        ∀ i, r.Renders i → ofLine? (String.ofList r.line) = .ok (some i)) ∧
      ((∃ t ∈ r.tokens, Numeral.IsOversized t) →
        ∃ n, ofLine? (String.ofList r.line) = .error (.tooManyDigits n))) ∧
    (ofLine? line = .ok none ↔ IsBlankLine line.toList) := by
  refine ⟨⟨exists_renders r, fun hsize i hi => ?_, fun hsize => ?_⟩, ofChars?_eq_none_iff⟩
  all_goals
    unfold ofLine?
    rw [String.toList_ofList]
  · exact Rendering.ofChars?_eq_ok hi hsize
  · exact Rendering.ofChars?_eq_error hsize

/-- A line with an arrow behind a dash, a token that begins with a tip, and a comment; a line with no
more than a comment; and a jump to a zero of too many digits. -/
theorem renderings_read_comparison :
    ofLine? "  cJump A-->\t,>b→+07 , x->; JUMP → 5"
      = .ok (some ⟨"CJUMP", [.text "A-", .text ">b", .int 7, .text "x"]⟩) ∧
    ofLine? "\t; JUMP → 5" = .ok none ∧
    ∃ n, ofLine? (String.ofList ("JUMP ".toList ++ List.replicate 4301 '0'))
      = .error (.tooManyDigits n) := by
  let r : Rendering :=
    { margin := [' ', ' ']
      mnemonic := "cJump".toList
      tail := " A-->\t,>b→+07 , x->".toList
      tokens := [['A', '-'], ['>', 'b'], ['+', '0', '7'], ['x']]
      comment := "; JUMP → 5".toList
      isBlank_margin := by decide
      mnemonic_ne_nil := by decide
      mnemonic_plain := by decide
      separated :=
        .token (s := [' ']) (t := ['A', '-']) (.blank (by decide) .nil) (by decide) (by decide) <|
        .token (s := ['-', '>', '\t', ',']) (t := ['>', 'b'])
          (.longArrow (.blank (by decide) (.comma .nil))) (by decide) (by decide) <|
        .token (s := ['→']) (t := ['+', '0', '7']) (.arrow .nil) (by decide) (by decide) <|
        .token (s := [' ', ',', ' ']) (t := ['x'])
          (.blank (by decide) (.comma (.blank (by decide) .nil))) (by decide) (by decide) <|
        .ending (.longArrow .nil)
      startsBlank := by decide
      isComment := by decide }
  have hnone : ∀ t : List Char, Numeral.ofToken? t = none → Denotes t (.text (String.ofList t)) :=
    fun t ht => .text (Numeral.ofToken?_eq_none_iff.mp ht)
  have hrow : Numeral.IsRow ['0', '7'] := ⟨by decide, by decide⟩
  have hseven : Denotes ['+', '0', '7'] (.int 7) := .number (.plus hrow)
  have hrenders : r.Renders ⟨"CJUMP", [.text "A-", .text ">b", .int 7, .text "x"]⟩ :=
    ⟨by decide +kernel, .cons (hnone _ (by decide)) (.cons (hnone _ (by decide)) (.cons hseven
      (.cons (hnone _ (by decide)) .nil)))⟩
  have hsize : ∀ t ∈ r.tokens, ¬ Numeral.digitLimit < t.countP Text.isDigit := by decide
  have hline : String.ofList r.line = "  cJump A-->\t,>b→+07 , x->; JUMP → 5" := by decide
  let jump := Rendering.single "JUMP".toList (List.replicate 4301 '0') (by decide) (by decide)
    (isToken_of_spells (Numeral.spells_zeros 4300))
  have hjump : jump.line = "JUMP ".toList ++ List.replicate 4301 '0' := by
    rw [Rendering.line_single, List.append_cons]
    rfl
  obtain ⟨⟨-, hread, -⟩, hblank⟩ := renderings_read r "\t; JUMP → 5"
  obtain ⟨⟨-, -, hunread⟩, -⟩ := renderings_read jump ""
  refine ⟨?_, hblank.mpr ⟨['\t'], "; JUMP → 5".toList, by decide, by decide, by decide⟩, ?_⟩
  · rw [← hline]
    exact hread (fun t ht hover => hsize t ht hover.digitLimit_lt) _ hrenders
  · rw [← hjump]
    exact hunread ⟨_, List.mem_singleton_self _, Numeral.isOversized_zeros (Nat.le_refl _)⟩

/-- A jump to a zero of too many digits is not read as a jump to zero. -/
theorem renderings_unread :
    let r := Rendering.single "JUMP".toList (List.replicate 4301 '0') (by decide) (by decide)
      (isToken_of_spells (Numeral.spells_zeros 4300))
    r.Renders ⟨"JUMP", [.int 0]⟩ ∧
      ofLine? (String.ofList r.line) ≠ .ok (some ⟨"JUMP", [.int 0]⟩) := by
  intro r
  have hover : ∃ t ∈ r.tokens, Numeral.IsOversized t :=
    ⟨_, List.mem_singleton_self _, Numeral.isOversized_zeros (Nat.le_refl _)⟩
  refine ⟨⟨by decide +kernel, .cons (.number (Numeral.spells_zeros 4300)) .nil⟩, fun hread => ?_⟩
  unfold ofLine? at hread
  rw [String.toList_ofList] at hread
  obtain ⟨n, hn⟩ := Rendering.ofChars?_eq_error hover
  cases hn.symm.trans hread

end Instruction

end Defusal
