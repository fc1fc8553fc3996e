import Defusal.Proofs.Machine.Limits
import Defusal.Proofs.Number.Token
import Defusal.Proofs.Text.Trimming

/-!
# How operands are read as numbers

A text is read as the number that it starts with: blanks before the numeral are skipped, and nothing
is read of what comes after its last digit. So the number is found whatever stands around it
(`Numeral.readLeading_of_spells`), and a text that starts with no numeral is zero
(`Numeral.readLeading_of_not_startsNumber`). The two leave nothing out, because a text starts with a
numeral if and only if it has digits behind its blanks and its sign (`Numeral.startsNumber_iff`).

For an operand the registers come first: a text that names one stands for its value, even if it is a
numeral, and every other operand is read as a number (`Registers.operands_read`). Reading fails on
nothing but a numeral that has too many digits, among which zeros at its start count
(`Registers.zeros_unread`).
-/

namespace Defusal

namespace Numeral

variable {token margin rest : List Char} {n : Int} {s : String}

/-! ## Written numbers -/

/-- A number as it is written, with some zeros before its digits, and with a plus sign if one is
asked for and the number is not negative. -/
def padded (plus : Bool) (zeros : Nat) (n : Int) : List Char :=
  (if n < 0 then ['-'] else if plus then ['+'] else []) ++
    (List.replicate zeros '0' ++ Nat.toDigits 10 n.natAbs)

/-- Without zeros and a plus sign this is the decimal numeral of the number. -/
theorem padded_eq_digits (n : Int) : padded false 0 n = (digits n).toList := by
  cases n with
  | ofNat k => rw [toList_digits_ofNat]; rfl
  | negSucc k =>
    rw [toList_digits_negSucc]
    unfold padded
    rw [if_pos (Int.negSucc_lt_zero k)]
    rfl

/-- A number that is written with zeros and a plus sign is the same number. -/
theorem spells_padded (plus : Bool) (zeros : Nat) (n : Int) : Spells (padded plus zeros n) n := by
  have hrow := (isRow_toDigits n.natAbs).zeros_append zeros
  have hvalue : rowValue (List.replicate zeros '0' ++ Nat.toDigits 10 n.natAbs) = n.natAbs :=
    (rowValue_zeros ..).trans (ofDigits_toDigits _)
  unfold padded
  split
  next hneg =>
    have hspells := Spells.minus hrow
    rwa [hvalue, show -(n.natAbs : Int) = n by omega] at hspells
  next hneg =>
    have hn : (n.natAbs : Int) = n := by omega
    split
    · have hspells := Spells.plus hrow
      rwa [hvalue, hn] at hspells
    · have hspells := Spells.plain hrow
      rwa [hvalue, hn] at hspells

theorem countP_padded (plus : Bool) (zeros : Nat) (n : Int) :
    (padded plus zeros n).countP Text.isDigit = zeros + (Nat.toDigits 10 n.natAbs).length := by
  have hsign : (if n < 0 then ['-'] else if plus then ['+'] else []).countP Text.isDigit = 0 := by
    split
    · decide
    · split <;> decide
  unfold padded
  rw [List.countP_append, hsign, ((isRow_toDigits n.natAbs).zeros_append zeros).countP,
    List.length_append, List.length_replicate, Nat.zero_add]

/-! ## The number at the start of a text -/

/-- **The numeral at the start of a text is read**, whatever blanks come before it and whatever else
than a digit comes after it, unless it has too many digits. -/
theorem readLeading_of_spells (hmargin : ∀ c ∈ margin, Text.isBlank c = true)
    (h : Spells token n) (hrest : ∀ c ∈ rest.head?, Text.isDigit c = false) :
    readLeading (String.ofList (margin ++ (token ++ rest))) =
      if digitLimit < token.countP Text.isDigit
      then .error (.tooManyDigits (token.countP Text.isDigit)) else .ok n := by
  obtain ⟨negative, ds, hds, rfl, hcount, hsplit⟩ := h.exists_row
  have htake : (ds ++ rest).takeWhile Text.isDigit = ds := Text.takeWhile_append hds.digits hrest
  rw [readLeading_eq, String.toList_ofList, Text.trimStart_word hmargin h.ne_nil h.isBlank, hsplit]
  dsimp only
  rw [htake, hcount, ofDecimal_eq]

/-- After blanks and at most one sign the text goes on with a digit. -/
def StartsNumber (s : String) : Prop :=
  ∃ margin, ∃ sign ∈ [[], ['+'], ['-']], ∃ d rest, s.toList = margin ++ (sign ++ d :: rest) ∧
    (∀ c ∈ margin, Text.isBlank c = true) ∧ Text.isDigit d = true

/-- A text starts with a numeral if and only if there are digits behind its blanks and its sign. -/
theorem startsNumber_iff : StartsNumber s ↔ 0 < leadingDigits s := by
  unfold leadingDigits
  constructor
  · rintro ⟨margin, sign, hsign, d, rest, hs, hmargin, hd⟩
    have hrow : IsRow [d] := ⟨List.cons_ne_nil _ _, List.forall_mem_singleton.mpr hd⟩
    obtain ⟨n, hn⟩ := hrow.exists_spells hsign
    obtain ⟨negative, ds, hds, -, -, hsplit⟩ := hn.exists_row
    have hs : s.toList = margin ++ ((sign ++ [d]) ++ rest) := by
      rw [hs, List.append_assoc]
      rfl
    rw [hs, Text.trimStart_word hmargin hn.ne_nil hn.isBlank, hsplit,
      List.takeWhile_append_of_pos hds.digits, List.length_append]
    exact Nat.add_pos_left (List.length_pos_iff.mpr hds.ne_nil) _
  · intro h
    obtain ⟨margin, hmargin, hs⟩ := Text.exists_trimStart s.toList
    obtain ⟨sign, hsign, hbody, -⟩ := exists_sign (Text.trimStart s.toList)
    cases hcons : (splitSign (Text.trimStart s.toList)).2 with
    | nil =>
      rw [hcons] at h
      exact absurd h (Nat.lt_irrefl 0)
    | cons d rest =>
      refine ⟨margin, sign, hsign, d, rest, ?_, hmargin, ?_⟩
      · rw [← hcons, ← hbody]
        exact hs
      · refine Decidable.byContradiction fun hd => ?_
        rw [hcons, List.takeWhile_cons_of_neg hd] at h
        exact absurd h (Nat.lt_irrefl 0)

instance (s : String) : Decidable (StartsNumber s) := decidable_of_iff _ startsNumber_iff.symm

/-- **A text that starts with no numeral is read as zero.** -/
theorem readLeading_of_not_startsNumber (h : ¬ StartsNumber s) : readLeading s = .ok 0 := by
  have hnone : (splitSign (Text.trimStart s.toList)).2.takeWhile Text.isDigit = [] :=
    List.length_eq_zero_iff.mp (Nat.eq_zero_of_not_pos fun hpos => h (startsNumber_iff.mpr hpos))
  rw [readLeading_eq, hnone]
  cases (splitSign (Text.trimStart s.toList)).1 <;> rfl

end Numeral

/-! ## Operands -/

namespace Registers

/-- What a table does not name is read as a number by the registers made of it. These may have the
clock in addition, but then it is at zero, and that is what its name is read as. -/
theorem resolve_ofTable {t : Table String Int} {d : Datum}
    (h : ∀ name, d = .text name → t.contains name = false) : (ofTable t).resolve d = d.lenient := by
  have hnone : ∀ name, d = .text name → t.get? name = none := fun name hname =>
    Option.not_isSome_iff_eq_none.mp (Bool.eq_false_iff.mp (h name hname))
  by_cases hclock : d = .text clockName
  · have hzero : (ofTable t).get? clockName = some 0 := by
      rw [get?_ofTable, hnone clockName hclock, if_pos rfl]
      rfl
    have hname : Numeral.readLeading clockName = .ok 0 :=
      Numeral.readLeading_of_not_startsNumber (by decide +kernel)
    rw [hclock, resolve_of_get? hzero]
    exact hname.symm
  · refine resolve_of_unnamed fun name hname => ?_
    have hother : name ≠ clockName := fun heq => hclock (heq ▸ hname)
    show ((ofTable t).get? name).isSome = false
    rw [get?_ofTable, hnone name hname, if_neg hother]
    rfl

/-- **How operands are read.** A text that consists of blanks, a number and a rest that does not go
on with a digit stands for that number. The number may be written as it is, or with zeros before
its digits, or with a plus sign; it is refused only if it has more digits than are read. A text that
does not go on with a digit after its blanks and at most one sign stands for zero, and no value is
refused but a text that starts with too many digits. The registers come first: a text that names a
register stands for its value, and every other operand is read as a number. The clock that registers
add to a table without it makes no difference here. -/
theorem operands_read (r : Registers) (d : Datum) :
    (∀ n, Numeral.padded false 0 n = (Numeral.digits n).toList) ∧
    (∀ (n : Int) (plus : Bool) (zeros : Nat) (margin rest : List Char),
      d = .text (String.ofList (margin ++ (Numeral.padded plus zeros n ++ rest))) →
      (∀ c ∈ margin, Text.isBlank c = true) → (∀ c ∈ rest.head?, Text.isDigit c = false) →
      let count := zeros + (Nat.toDigits 10 n.natAbs).length
      d.lenient =
        if Numeral.digitLimit < count then .error (.tooManyDigits count) else .ok n) ∧
    (∀ s, d = .text s → ¬ Numeral.StartsNumber s → d.lenient = .ok 0) ∧
    ((∃ n, d.lenient = .ok n) ↔
      ∀ s, d = .text s → Numeral.leadingDigits s ≤ Numeral.digitLimit) ∧
    (∀ name v, d = .text name → r.get? name = some v → r.resolve d = .ok v) ∧
    ((∀ name, d = .text name → r.contains name = false) → r.resolve d = d.lenient) ∧
    ∀ t : Table String Int, (∀ name, d = .text name → t.contains name = false) →
      (ofTable t).resolve d = d.lenient := by
  refine ⟨Numeral.padded_eq_digits, ?_, ?_, Datum.exists_lenient_iff, ?_, resolve_of_unnamed,
    fun t => resolve_ofTable⟩
  · rintro n plus zeros margin rest rfl hmargin hrest
    have hread := Numeral.readLeading_of_spells hmargin (Numeral.spells_padded plus zeros n) hrest
    rwa [Numeral.countP_padded] at hread
  · rintro s rfl hs
    exact Numeral.readLeading_of_not_startsNumber hs
  · rintro name v rfl hv
    exact resolve_of_get? hv

/-- A number between wide blanks and letters, a sign on its own, and a register whose name is a
numeral: a blank before the name makes it a number again. -/
theorem operands_read_mixed : (Datum.text "\u3000\t-0042nd").lenient = .ok (-42) ∧
    (Datum.text "- 3").lenient = .ok 0 ∧
    let r := ofList [("12", 99), ("T", 4)]
    r.resolve (.text "12") = .ok 99 ∧ r.resolve (.text " 12") = .ok 12 := by
  let r := ofList [("12", 99), ("T", 4)]
  have htext : "\u3000\t-0042nd"
      = String.ofList (['\u3000', '\t'] ++ (Numeral.padded false 2 (-42) ++ ['n', 'd'])) := by
    decide +kernel
  have htext' : " 12" = String.ofList ([' '] ++ (Numeral.padded false 0 12 ++ [])) := by
    decide +kernel
  have hthere : r.get? "12" = some 99 := by decide +kernel
  have hother : r.contains " 12" = false := by decide +kernel
  obtain ⟨-, hnumber, -⟩ := operands_read r (.text "\u3000\t-0042nd")
  obtain ⟨-, -, hzero, -⟩ := operands_read r (.text "- 3")
  obtain ⟨-, -, -, -, hnamed, -⟩ := operands_read r (.text "12")
  obtain ⟨-, hnumber', -, -, -, hunnamed, -⟩ := operands_read r (.text " 12")
  have hread := hnumber (-42) false 2 _ _ (congrArg Datum.text htext) (by decide) (by decide)
  have hread' := hnumber' 12 false 0 _ _ (congrArg Datum.text htext') (by decide)
    (by decide)
  refine ⟨hread.trans (if_neg (by decide)), hzero _ rfl (by decide +kernel), hnamed _ _ rfl hthere,
    ?_⟩
  rw [hunnamed fun name hname => Datum.text.inj hname ▸ hother]
  exact hread'.trans (if_neg (by decide))

/-- Not every number is read whatever zeros come before it: here is zero with more than are read. -/
theorem zeros_unread :
    (Datum.text (String.ofList (Numeral.padded false Numeral.digitLimit 0))).lenient =
      .error (.tooManyDigits (Numeral.digitLimit + 1)) := by
  have hread : Numeral.readLeading
      (String.ofList ([] ++ (Numeral.padded false Numeral.digitLimit 0 ++ []))) = _ :=
    Numeral.readLeading_of_spells (List.forall_mem_nil _)
      (Numeral.spells_padded false Numeral.digitLimit 0) (by decide)
  have hcount : (Nat.toDigits 10 (Int.natAbs 0)).length = 1 := by decide
  rw [List.nil_append, List.append_nil, Numeral.countP_padded, hcount,
    if_pos (Nat.lt_succ_self _)] at hread
  exact hread

end Registers

end Defusal
