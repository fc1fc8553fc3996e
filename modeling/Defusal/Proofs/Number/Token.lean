import Defusal.Proofs.Number.Decimal

/-!
# Tokens that are numerals

A token is a numeral if it is a row of decimal digits, of any script, with at most one sign before it.
`Spells token n` says this and of which number it is one, with a rule for each sign.

A numeral is read as the number that it spells, unless it has more digits than are read
(`ofToken?_of_spells`), and nothing else is read as a number (`ofToken?_eq_none_iff`). The numeral
that a number is written as spells it (`spells_digits`).
-/

namespace Defusal.Numeral

variable {token ds : List Char} {n : Int}

/-- A row of decimal digits. -/
structure IsRow (ds : List Char) : Prop where
  ne_nil : ds ≠ []
  digits : ∀ c ∈ ds, Text.isDigit c = true

/-- The value of a row of digits. -/
def rowValue (ds : List Char) : Nat := ofDigits 10 (ds.filterMap Text.digitValue?)

/-- A token is a numeral of a number. -/
inductive Spells : List Char → Int → Prop
  | plain {ds : List Char} (h : IsRow ds) : Spells ds (rowValue ds)
  | plus {ds : List Char} (h : IsRow ds) : Spells ('+' :: ds) (rowValue ds)
  | minus {ds : List Char} (h : IsRow ds) : Spells ('-' :: ds) (-(rowValue ds : Int))

/-- A numeral that has more digits than are read. -/
structure IsOversized (token : List Char) : Prop where
  spells : ∃ n, Spells token n
  digitLimit_lt : digitLimit < token.countP Text.isDigit

/-! ## Signs and digits -/

theorem IsRow.splitSign (h : IsRow ds) (rest : List Char) :
    splitSign (ds ++ rest) = (false, ds ++ rest) := by
  cases ds with
  | nil => exact absurd rfl h.ne_nil
  | cons d ds => exact splitSign_of_isDigit (h.digits d (List.mem_cons_self ..)) _

theorem IsRow.countP (h : IsRow ds) : ds.countP Text.isDigit = ds.length :=
  List.countP_eq_length.mpr h.digits

/-- A numeral is a sign, or none, and a row of digits with the value of the number. -/
theorem Spells.exists_row (h : Spells token n) : ∃ negative ds, IsRow ds ∧
    n = signed negative (rowValue ds) ∧ token.countP Text.isDigit = ds.length ∧
    ∀ rest, splitSign (token ++ rest) = (negative, ds ++ rest) := by
  cases h with
  | plain hds => exact ⟨false, token, hds, rfl, hds.countP, hds.splitSign⟩
  | plus hds =>
    refine ⟨false, _, hds, rfl, ?_, fun rest => rfl⟩
    rw [List.countP_cons_of_neg (by decide), hds.countP]
  | minus hds =>
    refine ⟨true, _, hds, rfl, ?_, fun rest => rfl⟩
    rw [List.countP_cons_of_neg (by decide), hds.countP]

/-- A row of digits is a numeral with at most one sign before it. -/
theorem IsRow.exists_spells (h : IsRow ds) {sign : List Char} (hsign : sign ∈ [[], ['+'], ['-']]) :
    ∃ n, Spells (sign ++ ds) n := by
  simp only [List.mem_cons, List.not_mem_nil, or_false] at hsign
  rcases hsign with rfl | rfl | rfl
  · exact ⟨_, .plain h⟩
  · exact ⟨_, .plus h⟩
  · exact ⟨_, .minus h⟩

/-- What a sign is split off from has at most one sign before the rest, and is a numeral if the rest
is a row of digits. -/
theorem exists_sign (cs : List Char) : ∃ sign ∈ [[], ['+'], ['-']], cs = sign ++ (splitSign cs).2 ∧
    ∀ ds, IsRow ds → Spells (sign ++ ds) (signed (splitSign cs).1 (rowValue ds)) := by
  unfold splitSign
  split
  · exact ⟨['-'], by decide, rfl, fun ds hds => .minus hds⟩
  · exact ⟨['+'], by decide, rfl, fun ds hds => .plus hds⟩
  · exact ⟨[], by decide, rfl, fun ds hds => .plain hds⟩

/-- A numeral consists of digits and signs. -/
theorem Spells.isDigit_or_sign (h : Spells token n) :
    ∀ c ∈ token, Text.isDigit c = true ∨ c = '+' ∨ c = '-' := by
  cases h with
  | plain hds => exact fun c hc => .inl (hds.digits c hc)
  | plus hds => exact List.forall_mem_cons.mpr ⟨.inr (.inl rfl), fun c hc => .inl (hds.digits c hc)⟩
  | minus hds => exact List.forall_mem_cons.mpr ⟨.inr (.inr rfl), fun c hc => .inl (hds.digits c hc)⟩

/-- A numeral has no blanks. -/
theorem Spells.isBlank (h : Spells token n) : ∀ c ∈ token, Text.isBlank c = false := by
  intro c hc
  rcases h.isDigit_or_sign c hc with hdigit | rfl | rfl
  · exact Text.isBlank_of_isDigit hdigit
  · decide
  · decide

theorem Spells.ne_nil (h : Spells token n) : token ≠ [] := by
  cases h with
  | plain hds => exact hds.ne_nil
  | plus hds => exact List.cons_ne_nil _ _
  | minus hds => exact List.cons_ne_nil _ _

/-! ## Reading -/

/-- Digits are read as their value if there are few enough of them. -/
theorem ofDecimal_eq (negative : Bool) (ds : List Char) : ofDecimal negative ds =
    if digitLimit < ds.length then .error (.tooManyDigits ds.length)
    else .ok (signed negative (rowValue ds)) := rfl

/-- **A numeral is read as the number that it spells**, if it has few enough digits. -/
theorem ofToken?_of_spells (h : Spells token n) : ofToken? token =
    some (if digitLimit < token.countP Text.isDigit
      then .error (.tooManyDigits (token.countP Text.isDigit)) else .ok n) := by
  obtain ⟨negative, ds, hds, rfl, hcount, hsplit⟩ := h.exists_row
  have hsplit := hsplit []
  rw [List.append_nil, List.append_nil] at hsplit
  have hrow : (!ds.isEmpty && ds.all Text.isDigit) = true := by
    rw [Bool.and_eq_true, Bool.not_eq_true', List.isEmpty_eq_false_iff, List.all_eq_true]
    exact ⟨hds.ne_nil, hds.digits⟩
  unfold ofToken?
  rw [hsplit]
  dsimp only
  rw [if_pos hrow, ofDecimal_eq, hcount]

/-- **Nothing but a numeral is read as a number.** -/
theorem ofToken?_eq_none_iff : ofToken? token = none ↔ ∀ n, ¬ Spells token n := by
  constructor
  · intro hnone n hn
    rw [ofToken?_of_spells hn] at hnone
    cases hnone
  intro h
  obtain ⟨sign, -, htoken, hspells⟩ := exists_sign token
  unfold ofToken?
  dsimp only
  split
  next hrow =>
    rw [Bool.and_eq_true, Bool.not_eq_true', List.isEmpty_eq_false_iff, List.all_eq_true] at hrow
    have hspelled := hspells (splitSign token).2 ⟨hrow.1, hrow.2⟩
    rw [← htoken] at hspelled
    exact absurd hspelled (h _)
  next => rfl

/-- Zeros before the digits do not count. -/
theorem rowValue_zeros (k : Nat) (ds : List Char) :
    rowValue (List.replicate k '0' ++ ds) = rowValue ds := by
  have hzeros : (List.replicate k '0').filterMap Text.digitValue? = List.replicate k 0 :=
    List.filterMap_replicate_of_some (by decide)
  unfold rowValue
  rw [List.filterMap_append, hzeros]
  induction k with
  | zero => rfl
  | succ k ih => exact ih (List.filterMap_replicate_of_some (by decide))

theorem IsRow.zeros_append (h : IsRow ds) (k : Nat) : IsRow (List.replicate k '0' ++ ds) where
  ne_nil := List.append_ne_nil_of_right_ne_nil _ h.ne_nil
  digits := List.forall_mem_append.mpr
    ⟨fun _ hc => List.eq_of_mem_replicate hc ▸ by decide, h.digits⟩

/-- Zeros spell zero, however many. -/
theorem spells_zeros (k : Nat) : Spells (List.replicate (k + 1) '0') 0 := by
  have hrow : IsRow ['0'] := ⟨List.cons_ne_nil _ _, by decide⟩
  have hspells := Spells.plain (hrow.zeros_append k)
  rw [rowValue_zeros, ← List.replicate_succ'] at hspells
  exact hspells

theorem isOversized_zeros {k : Nat} (h : digitLimit ≤ k) : IsOversized (List.replicate (k + 1) '0') :=
  ⟨⟨0, spells_zeros k⟩, by
    rw [List.countP_replicate, if_pos (by decide)]
    exact Nat.lt_succ_of_le h⟩

/-! ## Writing -/

theorem isRow_toDigits (n : Nat) : IsRow (Nat.toDigits 10 n) where
  ne_nil := Nat.toDigits_ne_nil
  digits _ hc := Text.isDigit_of_isDigit (isDigit_of_mem_toDigits hc)

theorem spells_toDigits (n : Nat) : Spells (Nat.toDigits 10 n) n := by
  have hspells := Spells.plain (isRow_toDigits n)
  rwa [show rowValue (Nat.toDigits 10 n) = n from ofDigits_toDigits n] at hspells

theorem toList_digits_ofNat (k : Nat) : (digits (.ofNat k)).toList = Nat.toDigits 10 k :=
  Nat.toList_repr

theorem toList_digits_negSucc (k : Nat) :
    (digits (.negSucc k)).toList = '-' :: Nat.toDigits 10 (k + 1) := by
  show ("-" ++ (k + 1).repr).toList = _
  rw [String.toList_append, Nat.toList_repr]
  rfl

/-- **The written form of a number spells it.** -/
theorem spells_digits (n : Int) : Spells (digits n).toList n := by
  cases n with
  | ofNat k =>
    rw [toList_digits_ofNat]
    exact spells_toDigits k
  | negSucc k =>
    have hspells := Spells.minus (isRow_toDigits (k + 1))
    rwa [show rowValue (Nat.toDigits 10 (k + 1)) = k + 1 from ofDigits_toDigits (k + 1),
      ← toList_digits_negSucc] at hspells

theorem countP_digits (n : Int) :
    (digits n).toList.countP Text.isDigit = (Nat.toDigits 10 n.natAbs).length := by
  cases n with
  | ofNat k => rw [toList_digits_ofNat, (isRow_toDigits k).countP]; rfl
  | negSucc k =>
    rw [toList_digits_negSucc, List.countP_cons_of_neg (by decide), (isRow_toDigits _).countP]
    rfl

/-- The written form of a number has more digits than are read if and only if it has more than are
written. -/
theorem isOversized_digits_iff : IsOversized (digits n).toList ↔ writeLimit ≤ n.natAbs := by
  rw [← Nat.not_lt, ← length_toDigits_le_digitLimit_iff, ← countP_digits, Nat.not_le]
  exact ⟨IsOversized.digitLimit_lt, fun h => ⟨⟨n, spells_digits n⟩, h⟩⟩

end Defusal.Numeral
