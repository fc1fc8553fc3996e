import Defusal.Number.Numeral

/-!
# Decimal numerals that are written and read again

A number without a sign is written as a row of ASCII digits. A digit of that kind is worth its
distance from zero (`Text.digitValue?_eq_some`), so the value of the row is the number
(`Numeral.ofDigits_toDigits`). It has few enough digits to be read as long as it can be written at all
(`Numeral.length_toDigits_le_digitLimit_iff`).
-/

namespace Defusal

namespace Text

variable {c : Char}

/-- The ASCII digits are the first block of digits. -/
theorem digitValue?_eq_some (h : c.isDigit = true) :
    digitValue? c = some (c.toNat - '0'.toNat) := by
  obtain ⟨hlow, hhigh⟩ := Char.isDigit_iff_toNat.mp h
  have hblock : (decide (0x30 ≤ c.toNat) && decide (c.toNat < 0x30 + 10)) = true := by
    rw [Bool.and_eq_true, decide_eq_true_eq, decide_eq_true_eq]
    exact ⟨hlow, Nat.lt_succ_of_le hhigh⟩
  have hfirst : digitZeros.find? (fun z => z ≤ c.toNat && c.toNat < z + 10) = some 0x30 :=
    List.find?_cons_of_pos hblock
  unfold digitValue?
  rw [hfirst]
  rfl

theorem isDigit_of_isDigit (h : c.isDigit = true) : isDigit c = true := by
  unfold isDigit
  rw [digitValue?_eq_some h]
  rfl

theorem isBlank_of_isDigit (h : isDigit c = true) : isBlank c = false := by
  have hapart : ∀ z ∈ digitZeros, ∀ r ∈ blankRanges, r.2 < z ∨ z + 10 ≤ r.1 := by decide
  unfold isDigit digitValue? at h
  rw [Option.isSome_map, List.find?_isSome] at h
  obtain ⟨z, hz, hblock⟩ := h
  rw [Bool.and_eq_true, decide_eq_true_eq, decide_eq_true_eq] at hblock
  unfold isBlank
  rw [List.any_eq_false]
  intro r hr
  rw [Bool.and_eq_true, decide_eq_true_eq, decide_eq_true_eq]
  have := hapart z hz r hr
  omega

theorem isLineEnd_of_isDigit (h : c.isDigit = true) : isLineEnd c = false := by
  have hends : lineEnds.all (fun c => !c.isDigit) = true := by decide
  refine Bool.eq_false_iff.mpr fun hc => ?_
  have hplain := List.all_eq_true.mp hends c (List.contains_iff_mem.mp hc)
  exact absurd ((Bool.not_eq_true' _).mp hplain ▸ h) Bool.false_ne_true

end Text

namespace Numeral

theorem splitSign_of_isDigit {c : Char} (h : Text.isDigit c = true) (cs : List Char) :
    splitSign (c :: cs) = (false, c :: cs) := by
  unfold splitSign
  split
  next heq =>
    obtain ⟨rfl, -⟩ := List.cons.inj heq
    exact absurd h (by decide)
  next heq =>
    obtain ⟨rfl, -⟩ := List.cons.inj heq
    exact absurd h (by decide)
  next => rfl

theorem isDigit_of_mem_toDigits {n : Nat} {c : Char} (h : c ∈ Nat.toDigits 10 n) :
    c.isDigit = true :=
  Nat.isDigit_of_mem_toDigits (by decide) (by decide) h

/-- A row of ASCII digits has the value that it has as a numeral. -/
theorem ofDigits_filterMap {ds : List Char} (h : ∀ c ∈ ds, c.isDigit = true) (n : Nat) :
    (ds.filterMap Text.digitValue?).foldl (fun n d => n * 10 + d) n = Nat.ofDigitChars 10 ds n := by
  induction ds generalizing n with
  | nil => rfl
  | cons c ds ih =>
    obtain ⟨hc, hds⟩ := List.forall_mem_cons.mp h
    rw [List.filterMap_cons_some (Text.digitValue?_eq_some hc), List.foldl_cons, ih hds,
      Nat.ofDigitChars_cons, Nat.mul_comm]

/-- The digits of a number have its value. -/
theorem ofDigits_toDigits (n : Nat) :
    ofDigits 10 ((Nat.toDigits 10 n).filterMap Text.digitValue?) = n :=
  (ofDigits_filterMap (fun _ => isDigit_of_mem_toDigits) 0).trans Nat.ofDigitChars_ten_toDigits

/-- A number has few enough digits if and only if it can be written. -/
theorem length_toDigits_le_digitLimit_iff {n : Nat} :
    (Nat.toDigits 10 n).length ≤ digitLimit ↔ n < writeLimit := by
  rw [← length_repr_le_digitLimit_iff, Nat.repr_eq_ofList_toDigits, String.length_ofList]

end Numeral

end Defusal
