import Defusal.Text.Blank

/-!
# Texts that are trimmed and cut

Reading cuts a text where the characters of one sort end. Two texts with nothing of this sort at the
border are cut apart there (`takeWhile_append`, `dropWhile_append`). Trimming is such a cut at either
end: it takes away the blanks and stops at a word (`trim_word`), and blanks that are added make no
difference to it (`trim_append_blanks`).
-/

namespace Defusal.Text

variable {c : Char} {cs word rest margin blanks : List Char}

/-! ## Cuts -/

/-- What is of one sort is taken up to the first character that is not. -/
theorem takeWhile_append {sort : Char → Bool} (h : ∀ c ∈ word, sort c = true)
    (hrest : ∀ c ∈ rest.head?, sort c = false) : (word ++ rest).takeWhile sort = word := by
  rw [List.takeWhile_append_of_pos h]
  cases rest with
  | nil => exact List.append_nil word
  | cons c rest =>
    rw [List.takeWhile_cons_of_neg (Bool.eq_false_iff.mp (hrest c rfl)), List.append_nil]

theorem dropWhile_append {sort : Char → Bool} (h : ∀ c ∈ word, sort c = true)
    (hrest : ∀ c ∈ rest.head?, sort c = false) : (word ++ rest).dropWhile sort = rest := by
  have hwhole := List.takeWhile_append_dropWhile (p := sort) (l := word ++ rest)
  rw [takeWhile_append h hrest] at hwhole
  exact List.append_cancel_left hwhole

/-- What is left begins with no character of the sort. -/
theorem head?_dropWhile (sort : Char → Bool) (cs : List Char) :
    ∀ c ∈ (cs.dropWhile sort).head?, sort c = false := by
  intro c hc
  have hhead := List.head?_dropWhile_not sort cs
  rw [Option.mem_def.mp hc] at hhead
  exact hhead

/-- What holds of all characters of a text is found out from the text, and not by going through all
characters that there are. -/
instance (priority := high) decidableForallMem (p : Char → Prop) [DecidablePred p] (cs : List Char) :
    Decidable (∀ c ∈ cs, p c) :=
  List.decidableBAll p cs

instance (priority := high) decidableForallHead (p : Char → Prop) [DecidablePred p] (cs : List Char) :
    Decidable (∀ c ∈ cs.head?, p c) :=
  match cs with
  | [] => isTrue nofun
  | c :: _ => decidable_of_iff (p c) ⟨fun h _ hd => Option.some.inj hd ▸ h, fun h => h c rfl⟩

/-- A text that is empty or begins with a blank. -/
def StartsBlank (cs : List Char) : Prop := ∀ c ∈ cs.head?, isBlank c = true

instance (cs : List Char) : Decidable (StartsBlank cs) :=
  inferInstanceAs (Decidable (∀ c ∈ cs.head?, isBlank c = true))

theorem startsBlank_cons (h : isBlank c = true) (cs : List Char) : StartsBlank (c :: cs) :=
  fun _ hd => Option.some.inj hd ▸ h

/-- A word is cut off at the blank behind it. -/
theorem takeWhile_word (h : ∀ c ∈ word, isBlank c = false) (hrest : StartsBlank rest) :
    (word ++ rest).takeWhile (!isBlank ·) = word :=
  takeWhile_append (fun c hc => (Bool.not_eq_true' _).mpr (h c hc)) fun c hc =>
    (Bool.not_eq_false' _).mpr (hrest c hc)

theorem dropWhile_word (h : ∀ c ∈ word, isBlank c = false) (hrest : StartsBlank rest) :
    (word ++ rest).dropWhile (!isBlank ·) = rest :=
  dropWhile_append (fun c hc => (Bool.not_eq_true' _).mpr (h c hc)) fun c hc =>
    (Bool.not_eq_false' _).mpr (hrest c hc)

/-! ## The start -/

theorem trimStart_cons (h : isBlank c = false) (cs : List Char) : trimStart (c :: cs) = c :: cs :=
  List.dropWhile_cons_of_neg (Bool.eq_false_iff.mp h)

theorem trimStart_eq_nil (h : ∀ c ∈ blanks, isBlank c = true) : trimStart blanks = [] := by
  have hdrop : (blanks ++ []).dropWhile isBlank = [] := dropWhile_append h nofun
  rwa [List.append_nil] at hdrop

/-- A text is what is left of it when its start is trimmed, with blanks before it. -/
theorem exists_trimStart (cs : List Char) :
    ∃ blanks, (∀ c ∈ blanks, isBlank c = true) ∧ cs = blanks ++ trimStart cs :=
  ⟨cs.takeWhile isBlank, List.all_eq_true.mp List.all_takeWhile,
    List.takeWhile_append_dropWhile.symm⟩

/-- Trimming the start stops at a word. -/
theorem trimStart_word (hmargin : ∀ c ∈ margin, isBlank c = true) (hne : word ≠ [])
    (h : ∀ c ∈ word, isBlank c = false) (rest : List Char) :
    trimStart (margin ++ (word ++ rest)) = word ++ rest := by
  refine dropWhile_append hmargin ?_
  cases word with
  | nil => exact absurd rfl hne
  | cons c word =>
    rintro _ ⟨rfl⟩
    exact h c (List.mem_cons_self ..)

/-! ## The end -/

/-- A text is what is left of it when its end is trimmed, with blanks after it. -/
theorem exists_trimEnd (cs : List Char) :
    ∃ blanks, (∀ c ∈ blanks, isBlank c = true) ∧ cs = trimEnd cs ++ blanks := by
  obtain ⟨blanks, hblanks, hcs⟩ := exists_trimStart cs.reverse
  refine ⟨blanks.reverse, fun c hc => hblanks c (List.mem_reverse.mp hc), ?_⟩
  have hreverse := congrArg List.reverse hcs
  rwa [List.reverse_reverse, List.reverse_append] at hreverse

/-- Trimming the end stops at characters that are no blanks. -/
theorem trimEnd_append (h : ∀ c ∈ word, isBlank c = false) (rest : List Char) :
    trimEnd (word ++ rest) = word ++ trimEnd rest := by
  have hword : word.reverse.dropWhile isBlank = word.reverse := by
    cases hreverse : word.reverse with
    | nil => rfl
    | cons c cs =>
      have hc : c ∈ word := List.mem_reverse.mp (hreverse ▸ List.mem_cons_self ..)
      exact trimStart_cons (h c hc) cs
  unfold trimEnd
  rw [List.reverse_append, List.dropWhile_append, hword]
  split
  next hempty =>
    rw [List.isEmpty_iff.mp hempty, List.reverse_reverse, List.reverse_nil, List.append_nil]
  next => rw [List.reverse_append, List.reverse_reverse]

/-- Blanks at the end are trimmed. -/
theorem trimEnd_append_blanks (h : ∀ c ∈ blanks, isBlank c = true) (cs : List Char) :
    trimEnd (cs ++ blanks) = trimEnd cs := by
  unfold trimEnd
  rw [List.reverse_append, List.dropWhile_append_of_pos fun c hc => h c (List.mem_reverse.mp hc)]

theorem trimEnd_trimEnd (cs : List Char) : trimEnd (trimEnd cs) = trimEnd cs := by
  obtain ⟨blanks, hblanks, hcs⟩ := exists_trimEnd cs
  exact (trimEnd_append_blanks hblanks _).symm.trans (congrArg trimEnd hcs.symm)

theorem StartsBlank.trimEnd (h : StartsBlank cs) : StartsBlank (trimEnd cs) := by
  obtain ⟨blanks, -, hcs⟩ := exists_trimEnd cs
  cases hend : Text.trimEnd cs with
  | nil => exact nofun
  | cons d ds =>
    intro c hc
    refine h c ?_
    rw [hcs, hend]
    exact hc

/-! ## Words -/

/-- A text that is not blank has a first word, at the start or behind blanks. -/
theorem exists_word (h : ¬ ∀ c ∈ cs, isBlank c = true) : ∃ margin word rest,
    cs = margin ++ (word ++ rest) ∧ (∀ c ∈ margin, isBlank c = true) ∧ word ≠ [] ∧
      (∀ c ∈ word, isBlank c = false) ∧ StartsBlank rest := by
  induction cs with
  | nil => exact absurd (List.forall_mem_nil _) h
  | cons c cs ih =>
    by_cases hc : isBlank c = true
    · obtain ⟨margin, word, rest, rfl, hmargin, hword⟩ :=
        ih fun hcs => h (List.forall_mem_cons.mpr ⟨hc, hcs⟩)
      exact ⟨c :: margin, word, rest, rfl, List.forall_mem_cons.mpr ⟨hc, hmargin⟩, hword⟩
    · refine ⟨[], c :: cs.takeWhile (!isBlank ·), cs.dropWhile (!isBlank ·), ?_,
        List.forall_mem_nil _, List.cons_ne_nil _ _, List.forall_mem_cons.mpr ⟨?_, ?_⟩, ?_⟩
      · exact congrArg (c :: ·) List.takeWhile_append_dropWhile.symm
      · exact Bool.eq_false_iff.mpr hc
      · exact fun d hd => (Bool.not_eq_true' _).mp (List.all_eq_true.mp List.all_takeWhile d hd)
      · exact fun d hd => (Bool.not_eq_false' _).mp (head?_dropWhile _ cs d hd)

/-! ## Both ends -/

/-- Trimming a word and what follows it takes the blanks before the word away. -/
theorem trim_word (hmargin : ∀ c ∈ margin, isBlank c = true) (hne : word ≠ [])
    (h : ∀ c ∈ word, isBlank c = false) (rest : List Char) :
    trim (margin ++ (word ++ rest)) = word ++ trimEnd rest := by
  unfold trim
  rw [trimStart_word hmargin hne h, trimEnd_append h]

theorem trim_append_blanks (h : ∀ c ∈ blanks, isBlank c = true) (cs : List Char) :
    trim (cs ++ blanks) = trim cs := by
  unfold trim
  show trimEnd ((cs ++ blanks).dropWhile isBlank) = _
  rw [List.dropWhile_append]
  split
  next hempty =>
    rw [show blanks.dropWhile isBlank = [] from trimStart_eq_nil h, ← List.isEmpty_iff.mp hempty]
    rfl
  next => exact trimEnd_append_blanks h _

/-- A text that is trimmed to nothing is blank. -/
theorem trim_eq_nil_iff : trim cs = [] ↔ ∀ c ∈ cs, isBlank c = true := by
  constructor
  · intro h
    obtain ⟨before, hbefore, hcs⟩ := exists_trimStart cs
    obtain ⟨after, hafter, hrest⟩ := exists_trimEnd (trimStart cs)
    rw [show Text.trimEnd (trimStart cs) = [] from h, List.nil_append] at hrest
    rw [hcs, hrest]
    exact List.forall_mem_append.mpr ⟨hbefore, hafter⟩
  · intro h
    unfold trim
    rw [trimStart_eq_nil h]
    rfl

end Defusal.Text
