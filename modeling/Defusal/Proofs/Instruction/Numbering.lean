import Defusal.Instruction.Reading
import Defusal.Proofs.Fault.Chain
import Defusal.Proofs.Number.Token
import Defusal.Proofs.Text.Trimming

/-!
# Numbers of lines

A line of a listing may begin with a number: a numeral and a colon, with any blanks around the numeral
(`Numbered`). What follows the colon is the body of the line; without a number the whole line is. `Cut`
says both.

A line is cut in one way only, up to blanks before its body (`takeLineNumber_eq`,
`exists_numbered`), and reading finds this cut in every line that really is a single line
(`splitLineNumber_of_numbered`, `splitLineNumber_of_not_numbered`).
-/

namespace Defusal.Instruction

open Numeral (Spells IsOversized)
open Text (isBlank trimStart)

variable {line token body rest ds : List Char} {negative : Bool} {n : Int}

/-- A line begins with a number that is written as some token, and goes on with a body. -/
inductive Numbered : List Char → List Char → List Char → Prop
  | mk {margin token gap body : List Char} {n : Int} (hmargin : ∀ c ∈ margin, isBlank c = true)
      (htoken : Spells token n) (hgap : ∀ c ∈ gap, isBlank c = true) :
      Numbered (margin ++ (token ++ (gap ++ ':' :: body))) token body

/-- A line is cut into its number, if it has one, and its body. -/
inductive Cut (line : List Char) : Option Int → List Char → Prop
  | numbered {token body : List Char} {n : Int} (h : Numbered line token body)
      (hn : Spells token n) : Cut line (some n) body
  | plain (h : ∀ token body, ¬ Numbered line token body) : Cut line none line

theorem Numbered.exists_spells (h : Numbered line token body) : ∃ n, Spells token n := by
  cases h with
  | mk _ htoken _ => exact ⟨_, htoken⟩

/-- A number without blanks around it. -/
theorem Numbered.of_spells (h : Spells token n) (body : List Char) :
    Numbered (token ++ ':' :: body) token body :=
  Numbered.mk (List.forall_mem_nil _) h (List.forall_mem_nil _)

theorem Numbered.subset (h : Numbered line token body) : body ⊆ line := by
  cases h with
  | @mk margin token gap =>
    intro c hc
    exact List.mem_append_right margin
      (List.mem_append_right token (List.mem_append_right gap (List.mem_cons_of_mem ':' hc)))

/-! ## Finding the number -/

theorem isDigit_of_isBlank {c : Char} (h : isBlank c = true) : Text.isDigit c = false :=
  Bool.eq_false_iff.mpr fun hdigit =>
    absurd (Text.isBlank_of_isDigit hdigit) (Bool.not_eq_false _ ▸ h)

/-- The number of a line is found, whatever its body holds. -/
theorem takeLineNumber_eq (h : Numbered line token body) (hn : Spells token n) :
    ∃ negative ds, takeLineNumber line = some (negative, ds, trimStart body) ∧
      n = Numeral.signed negative (Numeral.rowValue ds) ∧
      token.countP Text.isDigit = ds.length := by
  cases h with
  | @mk margin _ gap body _ hmargin _ hgap =>
    obtain ⟨negative, ds, hds, rfl, hcount, hsplit⟩ := hn.exists_row
    have hstart := Text.trimStart_word hmargin hn.ne_nil hn.isBlank (gap ++ ':' :: body)
    have hcolon : trimStart (gap ++ ':' :: body) = ':' :: body :=
      Text.dropWhile_append hgap fun c hc => Option.some.inj hc ▸ by decide
    -- Neither a blank nor the colon is a digit, so the digits end where the token does.
    have hborder : ∀ c ∈ (gap ++ ':' :: body).head?, Text.isDigit c = false := by
      cases gap with
      | nil =>
        rintro _ ⟨rfl⟩
        decide
      | cons c gap =>
        rintro _ ⟨rfl⟩
        exact isDigit_of_isBlank (hgap c (List.mem_cons_self ..))
    refine ⟨negative, ds, ?_, rfl, hcount⟩
    unfold takeLineNumber
    rw [hstart, hsplit]
    dsimp only
    rw [Text.takeWhile_append hds.digits hborder, Text.dropWhile_append hds.digits hborder, hcolon]
    cases ds with
    | nil => exact absurd rfl hds.ne_nil
    | cons d ds => rfl

/-- What is found is the number of the line. -/
theorem exists_numbered (h : takeLineNumber line = some (negative, ds, rest)) :
    ∃ token body, Numbered line token body := by
  obtain ⟨margin, hmargin, hline⟩ := Text.exists_trimStart line
  obtain ⟨sign, -, hsign, hspells⟩ := Numeral.exists_sign (trimStart line)
  obtain ⟨gap, hgap, hend⟩ :=
    Text.exists_trimStart ((Numeral.splitSign (trimStart line)).2.dropWhile Text.isDigit)
  unfold takeLineNumber at h
  dsimp only at h
  split at h
  next d ds body hds hcolon =>
    have hrow : Numeral.IsRow (d :: ds) :=
      ⟨List.cons_ne_nil d ds, hds ▸ List.all_eq_true.mp List.all_takeWhile⟩
    have hrest : (Numeral.splitSign (trimStart line)).2 = (d :: ds) ++ (gap ++ ':' :: body) := by
      rw [← hds, ← hcolon, ← hend, List.takeWhile_append_dropWhile]
    refine ⟨sign ++ (d :: ds), body, ?_⟩
    rw [hline, hsign, hrest, ← List.append_assoc sign]
    exact .mk hmargin (hspells _ hrow) hgap
  next => cases h

/-! ## Cutting the line -/

/-- A line is cut in one way, up to blanks before its body. -/
theorem Cut.unique {n? n?' : Option Int} {body' : List Char} (h : Cut line n? body)
    (h' : Cut line n?' body') : n? = n?' ∧ trimStart body = trimStart body' := by
  cases h with
  | numbered h hn =>
    cases h' with
    | numbered h' hn' =>
      obtain ⟨negative, ds, htake, rfl, -⟩ := takeLineNumber_eq h hn
      obtain ⟨negative', ds', htake', rfl, -⟩ := takeLineNumber_eq h' hn'
      rw [htake] at htake'
      obtain ⟨rfl, rfl, hbody⟩ : negative = negative' ∧ ds = ds' ∧ _ := by simpa using htake'
      exact ⟨rfl, hbody⟩
    | plain h' => exact absurd h (h' _ _)
  | plain h =>
    cases h' with
    | numbered h' => exact absurd h' (h _ _)
    | plain => exact ⟨rfl, rfl⟩

theorem exists_cut (line : List Char) : ∃ n? body, Cut line n? body := by
  by_cases h : ∃ token body, Numbered line token body
  · obtain ⟨token, body, h⟩ := h
    obtain ⟨n, hn⟩ := h.exists_spells
    exact ⟨_, body, .numbered h hn⟩
  · exact ⟨none, line, .plain fun token body hline => h ⟨token, body, hline⟩⟩

theorem singleLine?_of_notMem {cs : List Char} (h : '\n' ∉ cs) : singleLine? cs = some cs := by
  have hlast : cs.getLast? ≠ some '\n' := fun hlast => h (List.mem_of_getLast? hlast)
  unfold singleLine?
  rw [if_neg hlast]
  exact if_neg (by rwa [List.contains_iff_mem])

/-- A numbered line is cut after its number, if the number can be read. -/
theorem splitLineNumber_of_numbered (h : Numbered line token body) (hn : Spells token n)
    (hend : '\n' ∉ body) : splitLineNumber line =
      if Numeral.digitLimit < token.countP Text.isDigit
      then .error (.tooManyDigits (token.countP Text.isDigit))
      else .ok (some n, trimStart body) := by
  obtain ⟨negative, ds, htake, rfl, hcount⟩ := takeLineNumber_eq h hn
  have hsingle : '\n' ∉ trimStart body := fun hmem => hend ((List.dropWhile_suffix _).subset hmem)
  unfold splitLineNumber
  rw [htake]
  dsimp only
  rw [singleLine?_of_notMem hsingle]
  dsimp only
  rw [Numeral.ofDecimal_eq, hcount]
  split <;> rfl

/-- Any other line is left as it is. -/
theorem splitLineNumber_of_not_numbered (h : ∀ token body, ¬ Numbered line token body) :
    splitLineNumber line = .ok (none, line) := by
  unfold splitLineNumber
  cases htake : takeLineNumber line with
  | none => rfl
  | some found =>
    obtain ⟨token, body, hline⟩ := exists_numbered htake
    exact absurd hline (h token body)

end Defusal.Instruction
