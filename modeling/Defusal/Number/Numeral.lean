import Defusal.Fault
import Defusal.Text.Blank
import Defusal.Text.Digit

/-!
# Numerals

Whole numbers as text. Decimal numerals have at most `digitLimit` digits, for reading and for
writing: a longer one is refused both ways. Numerals in a base that is a power of two have no limit.

`read` takes a whole text: blanks around it, one sign, and digits with single underscores between
them. `readLeading` takes the number at the start of a text and ignores what follows.
-/

namespace Defusal.Numeral

/-- The greatest number of decimal digits that is read or written. -/
def digitLimit : Nat := 4300

/-! ## Writing -/

/-- The decimal numeral of a number, without regard to its length. -/
def digits (n : Int) : String :=
  match n with
  | .ofNat k => k.repr
  | .negSucc k => "-" ++ (k + 1).repr

/-- The decimal numeral of a number. -/
def write (n : Int) : Except Fault String :=
  if n.natAbs.repr.length ≤ digitLimit then .ok (digits n) else .error .tooLongToWrite

/-- The least number that is too great to write. -/
def writeLimit : Nat := Nat.pow 10 digitLimit

theorem length_repr_le_digitLimit_iff (n : Nat) :
    n.repr.length ≤ digitLimit ↔ n < writeLimit := by
  have hlength : ∀ k, 0 < k → (n.repr.length ≤ k ↔ n < Nat.pow 10 k) :=
    fun k hk => Nat.length_repr_le_iff hk
  unfold writeLimit
  exact hlength digitLimit (by decide)

theorem write_of_lt {n : Int} (h : n.natAbs < writeLimit) : write n = .ok (digits n) := by
  unfold write
  rw [if_pos ((length_repr_le_digitLimit_iff _).mpr h)]

theorem write_of_le {n : Int} (h : writeLimit ≤ n.natAbs) : write n = .error .tooLongToWrite := by
  unfold write
  rw [if_neg fun hle => Nat.not_lt.mpr h ((length_repr_le_digitLimit_iff _).mp hle)]

/-- A number can be written if and only if it has few enough digits. -/
theorem exists_write_iff {n : Int} : (∃ s, write n = .ok s) ↔ n.natAbs < writeLimit := by
  constructor
  · rintro ⟨s, hs⟩
    refine Nat.lt_of_not_le fun hle => ?_
    rw [write_of_le hle] at hs
    cases hs
  · intro h
    exact ⟨_, write_of_lt h⟩

/-! ## Reading -/

/-- Splits a sign off the start; the flag tells a minus sign. -/
def splitSign : List Char → Bool × List Char
  | '-' :: rest => (true, rest)
  | '+' :: rest => (false, rest)
  | cs => (false, cs)

/-- The number with a sign and an absolute value. -/
def signed (negative : Bool) (n : Nat) : Int := if negative then -(n : Int) else n

/-- The value of a row of digits in a base, most significant first. -/
def ofDigits (base : Nat) (ds : List Nat) : Nat := ds.foldl (fun n d => n * base + d) 0

/-- The blanks around a numeral: those that trim a line, except the four separator controls. -/
def isMargin (c : Char) : Bool := Text.isBlank c && !(0x1C ≤ c.toNat && c.toNat ≤ 0x1F)

/-- Drops the marker of a base (`0x` for sixteen) and one underscore after it. -/
def dropBaseMark (base : Nat) : List Char → List Char
  | '0' :: x :: rest =>
    let marked := match base with
      | 16 => x == 'x' || x == 'X'
      | 8 => x == 'o' || x == 'O'
      | 2 => x == 'b' || x == 'B'
      | _ => false
    if !marked then '0' :: x :: rest
    else match rest with
      | '_' :: rest => rest
      | rest => rest
  | cs => cs

/-- The digits at the start of a text, single underscores between them dropped, and the rest;
`none` if there is no digit, or an underscore without a digit on both sides. -/
def takeDigits (base : Nat) : List Char → Option (List Nat × List Char)
  | [] => none
  | c :: cs =>
    match Text.digitValueIn? base c, cs with
    | none, _ => none
    | some d, '_' :: rest => (takeDigits base rest).map fun (ds, rest) => (d :: ds, rest)
    | some d, rest =>
      match rest with
      | [] => some ([d], [])
      | c' :: _ =>
        if (Text.digitValueIn? base c').isSome then
          (takeDigits base rest).map fun (ds, rest) => (d :: ds, rest)
        else some ([d], rest)

/-- Whether numerals of a base may have only so many digits: not where a digit is a whole number
of bits. -/
def isLimited (base : Nat) : Bool := !(base == 2 || base == 8 || base == 16)

/-- Reads a whole text as a number in a base. -/
def read (base : Nat) (s : String) : Except Fault Int :=
  let bad := Fault.badNumeral base (Text.quoted s)
  let (negative, body) := splitSign (s.toList.dropWhile isMargin)
  match takeDigits base (dropBaseMark base body) with
  | none => .error bad
  | some (ds, rest) =>
    if isLimited base && digitLimit < ds.length then .error (.tooManyDigits ds.length)
    else if rest.all isMargin then .ok (signed negative (ofDigits base ds))
    else .error bad

/-- The value of decimal digits that stand alone. -/
def ofDecimal (negative : Bool) (ds : List Char) : Except Fault Int :=
  if digitLimit < ds.length then .error (.tooManyDigits ds.length)
  else .ok (signed negative (ofDigits 10 (ds.filterMap Text.digitValue?)))

/-- The signed decimal number at the start of a text, after blanks; zero if there is none. -/
def readLeading (s : String) : Except Fault Int :=
  let (negative, body) := splitSign (Text.trimStart s.toList)
  match body.takeWhile Text.isDigit with
  | [] => .ok 0
  | ds => ofDecimal negative ds

/-- The number at the start of a text is that of the digits there, of which there may be none. -/
theorem readLeading_eq (s : String) :
    readLeading s = ofDecimal (splitSign (Text.trimStart s.toList)).1
      ((splitSign (Text.trimStart s.toList)).2.takeWhile Text.isDigit) := by
  unfold readLeading
  split
  next negative body hsplit =>
    rw [hsplit]
    split
    next hnone => rw [hnone]; cases negative <;> rfl
    next => rfl

/-- Reads a token that is nothing but a sign and decimal digits. -/
def ofToken? (cs : List Char) : Option (Except Fault Int) :=
  let (negative, body) := splitSign cs
  if !body.isEmpty && body.all Text.isDigit then some (ofDecimal negative body) else none

example : (readLeading " -12abc").toOption = some (-12) ∧ (readLeading "x").toOption = some 0 := by
  decide +kernel
example : (read 10 " 1_0 ").toOption = some 10 ∧ (read 16 "0x1F").toOption = some 31 := by
  decide +kernel

end Defusal.Numeral
