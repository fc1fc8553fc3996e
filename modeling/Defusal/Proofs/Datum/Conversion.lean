import Defusal.Datum.Whole
import Defusal.Instruction.Reading
import Defusal.Proofs.Fault.Chain

/-!
# Which faults the conversions of data end in

Levels are read by converting the values that they are written with: to text, to whole numbers and
to instructions. Almost all of these conversions are tame, since whatever they cannot take they
refuse by a fault that says so. The exception is `Datum.strict`, which reads line numbers
(`kind_of_strict_eq_error`): a value that is no number at all is of the wrong type there, and an
infinite number is an overflow.

A value is shown by going through all of it, so `failsOnly_literalWith` and its companions follow
the four functions that do so. What a link stands for is shown by a reading that is handed in, and
showing a value fails only as that reading does, or on a number that is too long to write.
-/

namespace Defusal

/-! ## Numerals -/

theorem Numeral.failsOnly_write {P : Fault → Prop} (hP : P .tooLongToWrite) (n : Int) :
    FailsOnly P (Numeral.write n) := by
  unfold Numeral.write
  split
  · exact failsOnly_ok _
  · exact failsOnly_error hP

theorem Numeral.tame_ofDecimal (negative : Bool) (ds : List Char) :
    Tame (Numeral.ofDecimal negative ds) := by
  unfold Numeral.ofDecimal
  split
  · exact tame_error rfl
  · exact tame_ok _

theorem Numeral.tame_read (base : Nat) (s : String) : Tame (Numeral.read base s) := by
  unfold Numeral.read
  split
  split
  · exact tame_error rfl
  · split
    · exact tame_error rfl
    · split
      · exact tame_ok _
      · exact tame_error rfl

/-! ## Values as text -/

namespace Datum

section Writing

variable {P : Fault → Prop}

/-- A way to write a value that fails only in some ways if the links can be followed so. -/
def WritesBut (P : Fault → Prop) (w : Writing) : Prop :=
  ∀ {follow : Nat → Except Fault String}, (∀ n, FailsOnly P (follow n)) → FailsOnly P (w follow)

/-- A ring is written as all of its collections are. -/
theorem failsOnly_writeRing {parts : List (String × Writing)}
    (h : ∀ p ∈ parts, WritesBut P p.2) :
    ∀ (fuel : Nat) (outside : List Nat) (n : Nat),
      FailsOnly P (writeRing parts fuel outside n) := by
  intro fuel
  induction fuel with
  | zero => intro outside n; exact failsOnly_ok _
  | succ fuel ih =>
    intro outside n
    unfold writeRing
    split
    next => exact failsOnly_ok _
    next mark writing hpart =>
      refine h _ (List.mem_of_getElem? hpart) fun m => ?_
      split
      · exact failsOnly_ok _
      · exact ih _ m

mutual

theorem failsOnly_literalWith (hP : P .tooLongToWrite) : ∀ d : Datum, WritesBut P (literalWith d)
  | null, _, _ => failsOnly_ok _
  | bool _, _, _ => failsOnly_ok _
  | int n, _, _ => Numeral.failsOnly_write hP n
  | float _, _, _ => failsOnly_ok _
  | text _, _, _ => failsOnly_ok _
  | bytes _, _, _ => failsOnly_ok _
  | date _, _, _ => failsOnly_ok _
  | moment _, _, _ => failsOnly_ok _
  | list items, _, h => (failsOnly_literals hP items h).bind fun _ _ => failsOnly_ok _
  | tuple items, _, h => (failsOnly_literals hP items h).bind fun _ _ => failsOnly_ok _
  | set items, _, h => (failsOnly_literals hP items h).bind fun _ _ => failsOnly_ok _
  | map entries, _, h => (failsOnly_literalEntries hP entries h).bind fun _ _ => failsOnly_ok _
  | instruction _ operands, _, h =>
    (failsOnly_literals hP operands h).bind fun _ _ => failsOnly_ok _
  | ring parts n, _, _ => failsOnly_writeRing (writesBut_partWritings hP parts) parts.length [] n
  | link n, _, h => h n

theorem failsOnly_literals (hP : P .tooLongToWrite) :
    ∀ (ds : List Datum) {follow : Nat → Except Fault String},
      (∀ n, FailsOnly P (follow n)) → FailsOnly P (literals ds follow)
  | [], _, _ => failsOnly_ok _
  | d :: ds, _, h =>
    (failsOnly_literalWith hP d h).bind fun _ _ =>
      (failsOnly_literals hP ds h).bind fun _ _ => failsOnly_ok _

theorem failsOnly_literalEntries (hP : P .tooLongToWrite) :
    ∀ (entries : List (Datum × Datum)) {follow : Nat → Except Fault String},
      (∀ n, FailsOnly P (follow n)) → FailsOnly P (literalEntries entries follow)
  | [], _, _ => failsOnly_ok _
  | (k, v) :: entries, _, h =>
    (failsOnly_literalWith hP k h).bind fun _ _ => (failsOnly_literalWith hP v h).bind fun _ _ =>
      (failsOnly_literalEntries hP entries h).bind fun _ _ => failsOnly_ok _

theorem writesBut_partWritings (hP : P .tooLongToWrite) :
    ∀ ds : List Datum, ∀ p ∈ partWritings ds, WritesBut P p.2
  | [], _, hp => nomatch hp
  | d :: ds, p, hp =>
    match List.mem_cons.mp hp with
    | .inl h => h ▸ failsOnly_literalWith hP d
    | .inr h => writesBut_partWritings hP ds p h

end

theorem failsOnly_literal (hP : P .tooLongToWrite) (d : Datum) : FailsOnly P d.literal :=
  failsOnly_literalWith hP d fun _ => failsOnly_ok _

/-- **A value fails to be shown only because of a number that is too long to write.** -/
theorem failsOnly_shown (hP : P .tooLongToWrite) (d : Datum) : FailsOnly P d.shown := by
  unfold shown
  split
  · exact failsOnly_ok _
  · exact failsOnly_ok _
  · exact failsOnly_ok _
  · exact failsOnly_literal hP _

end Writing

theorem tame_literal (d : Datum) : Tame d.literal :=
  failsOnly_literal (P := fun f => f.kind = .value) rfl d

theorem tame_shown (d : Datum) : Tame d.shown :=
  failsOnly_shown (P := fun f => f.kind = .value) rfl d

/-! ## Whole numbers -/

theorem tame_exact (d : Datum) : Tame d.exact := by
  unfold exact
  split
  · exact tame_ok _
  · exact Numeral.tame_read _ _
  · exact (tame_shown _).bind fun _ _ => tame_error rfl

theorem tame_ofBytes (content : List UInt8) : Tame (ofBytes content) := by
  have h := Numeral.tame_read 10
  unfold ofBytes
  dsimp only
  split
  · exact tame_error rfl
  · exact h _

/-- A line number is refused as malformed or as being of the wrong type, unless it is infinite. -/
theorem kind_of_strict_eq_error {d : Datum} {f : Fault} (h : d.strict = .error f) :
    f.kind = .value ∨ f.kind = .type ∨
      f = .infiniteNumber ∧ ∃ negative, d = float (.infinite negative) := by
  unfold strict at h
  split at h
  · cases h
  · cases h
  · cases h; exact .inl rfl
  next negative => cases h; exact .inr (.inr ⟨rfl, negative, rfl⟩)
  · cases h
  · exact .inl (Numeral.tame_read _ _ f h)
  · exact .inl (tame_ofBytes _ f h)
  · cases h; exact .inr (.inl rfl)

end Datum

/-! ## Instructions -/

namespace Instruction

theorem tame_operandOf (token : List Char) : Tame (operandOf token) := by
  unfold operandOf
  split
  next n? h =>
    unfold Numeral.ofToken? at h
    split at h
    split at h
    · cases h; exact (Numeral.tame_ofDecimal _ _).map
    · cases h
  next => exact tame_ok _

theorem tame_ofChars? (line : List Char) : Tame (ofChars? line) := by
  unfold ofChars?
  split
  · exact tame_ok _
  · exact (tame_mapM fun token _ => tame_operandOf token).bind fun _ _ => tame_ok _

theorem tame_splitLineNumber (line : List Char) : Tame (splitLineNumber line) := by
  unfold splitLineNumber
  split
  · exact tame_ok _
  · split
    · exact tame_ok _
    · exact (Numeral.tame_ofDecimal _ _).bind fun _ _ => tame_ok _

theorem tame_assembleFrom : ∀ (lines : List String) (position : Nat)
    (program : Table Int Instruction), Tame (assembleFrom position program lines) := by
  intro lines
  induction lines with
  | nil => intro position program; exact tame_ok _
  | cons line lines ih =>
    intro position program
    unfold assembleFrom
    refine (tame_splitLineNumber _).bind fun split hsplit => ?_
    refine (tame_ofChars? _).bind fun i? hi => ?_
    -- Whether the line holds an instruction, and whether it has a number that is still free.
    split
    · exact ih _ _
    · exact tame_error rfl
    · split
      · exact tame_error rfl
      · exact ih _ _

theorem tame_assembleText (s : String) : Tame (assembleText s) := tame_assembleFrom _ _ _

theorem tame_listedOperands (d : Datum) (entries : List (Datum × Datum)) :
    Tame (listedOperands d entries) := by
  unfold listedOperands
  split
  · exact tame_ok _
  · exact tame_ok _
  · exact tame_ok _
  · exact (Datum.tame_literal d).bind fun _ _ => tame_error rfl

theorem tame_ofDatum (d : Datum) : Tame (ofDatum d) := by
  unfold ofDatum
  split
  · exact tame_ok _
  · refine (tame_listedOperands _ _).bind fun operands _ => ?_
    exact (Datum.tame_shown _).bind fun _ _ => tame_ok _
  · exact (tame_ofChars? _).bind fun _ _ => tame_ok _
  · exact (Datum.tame_literal d).bind fun _ _ => tame_error rfl

end Instruction

end Defusal
