import Defusal.Fault
import Defusal.Number.Shortest
import Defusal.Number.Numeral

/-!
# Fractions as text

How a binary fraction is written and read. Written numbers are positional from `0.0001` up to, but
not including, `10 ^ 16`, always with a digit after the point; all others have an exponent of at
least two digits with its sign. Reading accepts these forms and the usual variants: no digit on one
side of the point, single underscores between digits, blanks around, and the names of infinity and
of what is not a number in any case.
-/

namespace Defusal.Binary64

/-! ## Writing -/

/-- The least power of ten that is written positionally. -/
def leastPositional : Int := -4

/-- The power of ten from which on numbers are written with an exponent. -/
def firstExponential : Int := 16

/-- A decimal `coefficient · 10 ^ power` in positional form. -/
def positional (ds : List Char) (power : Int) : List Char :=
  let point := power + ds.length
  if 0 ≤ power then ds ++ List.replicate power.toNat '0' ++ ['.', '0']
  else if 0 < point then ds.take point.toNat ++ '.' :: ds.drop point.toNat
  else '0' :: '.' :: List.replicate (-point).toNat '0' ++ ds

/-- A decimal in exponential form, one digit before the point. -/
def exponential (ds : List Char) (power : Int) : List Char :=
  let e := power + ds.length - 1
  let digits := Nat.toDigits 10 e.natAbs
  let mantissa := match ds with
    | [] => []
    | [d] => [d]
    | d :: rest => d :: '.' :: rest
  mantissa ++ 'e' :: (if e < 0 then '-' else '+')
    :: (List.replicate (2 - digits.length) '0' ++ digits)

/-- The text of a number: the fewest digits that read back. -/
def text : Binary64 → String
  | .nan => "nan"
  | .infinite negative => if negative then "-inf" else "inf"
  | .finite negative m e =>
    let body :=
      if m = 0 then ['0', '.', '0']
      else
        let (d, power) := Shortest.decimal m e
        let ds := Nat.toDigits 10 d
        let top := power + ds.length - 1
        if leastPositional ≤ top ∧ top < firstExponential then positional ds power
        else exponential ds power
    String.ofList (if negative then '-' :: body else body)

/-! ## Reading -/

/-- The decimal digits at the start of a text, if any, single underscores between them dropped;
`none` if an underscore lacks a digit on one side. -/
def takeFractionDigits (cs : List Char) : Option (List Nat × List Char) :=
  match cs with
  | '_' :: _ => none
  | c :: _ => if Text.isDigit c then Numeral.takeDigits 10 cs else some ([], cs)
  | [] => some ([], [])

/-- The exponent after a mantissa: zero if there is none. -/
def takeExponent : List Char → Option (Int × List Char)
  | 'e' :: rest | 'E' :: rest =>
    let (negative, body) := Numeral.splitSign rest
    match takeFractionDigits body with
    | some (d :: ds, rest) => some (Numeral.signed negative (Numeral.ofDigits 10 (d :: ds)), rest)
    | _ => none
  | cs => some (0, cs)

/-- An unsigned decimal fraction that takes up the whole text, with the sign that stood before. -/
def ofFractionDigits? (negative : Bool) (cs : List Char) : Option Binary64 := do
  let (whole, rest) ← takeFractionDigits cs
  let (part, rest) ← match rest with
    | '.' :: rest => takeFractionDigits rest
    | rest => some ([], rest)
  guard !(whole.isEmpty && part.isEmpty)
  let (e, rest) ← takeExponent rest
  guard rest.isEmpty
  pure (ofDecimal negative (Numeral.ofDigits 10 (whole ++ part)) (e - part.length))

/-- The small form of a Latin letter. -/
def small (c : Char) : Char := if 'A' ≤ c && c ≤ 'Z' then Char.ofNat (c.toNat + 32) else c

/-- Reads a whole text as a binary fraction. -/
def read? (s : String) : Option Binary64 :=
  let trimmed := (s.toList.dropWhile Numeral.isMargin).reverse.dropWhile Numeral.isMargin
  let (negative, body) := Numeral.splitSign trimmed.reverse
  let name := String.ofList (body.map small)
  if name = "inf" || name = "infinity" then some (.infinite negative)
  else if name = "nan" then some .nan
  else ofFractionDigits? negative body

example : (ofDecimal false 1 16).text = "1e+16" ∧ (ofDecimal false 1 15).text = "1000000000000000.0"
    ∧ (ofDecimal true 5 (-324)).text = "-5e-324" ∧ (ofDecimal false 1 (-1)).text = "0.1" := by
  decide +kernel
example : read? "2.50" = some (ofDecimal false 25 (-1)) := by decide +kernel

end Defusal.Binary64
