import Mathlib.Data.List.Perm.Basic
import Defusal.Proofs.Datum.Conversion
import Defusal.Proofs.Instruction.Numbering
import Defusal.Proofs.Instruction.Rendering

/-!
# Listings in any order

The loop over the lines of a listing reads each of them by itself (`readLine`). A line makes at most
one entry of the table (`entry?`), and it is refused if it has an instruction but no number
(`IsListable`). So the loop is a table of entries, and it fails at a number that it has met before
(`assembleFrom_eq_ok_iff`). Nothing of this depends on the order of the lines.

What a line has is said by its cut into number and body, and a single line is read as the cut says
(`readLine_eq_ok_iff`). Together, a listing is assembled if and only if it is well numbered, and its
table has what the lines have (`assembled_iff_wellNumbered`). Only numerals of too many digits are
apart: a line with one is refused wherever it stands, even if nothing follows its number.
-/

namespace Defusal

namespace Instruction

open Numeral (Spells IsOversized)
open Text (trimStart)

variable {line token body : List Char} {n? : Option Int} {n : Int} {i? : Option Instruction}
  {i : Instruction} {lines lines' : List String} {l : String} {position : Nat}
  {program t t' : Table Int Instruction}

/-! ## Reading line by line -/

/-- What is read of a line: its number and its instruction. -/
def readLine (line : List Char) : Except Fault (Option Int × Option Instruction) := do
  let (n?, body) ← splitLineNumber line
  return (n?, ← ofChars? body)

/-- A line that may stand in a listing: if it has an instruction, it has a number. -/
def IsListable (l : String) : Prop :=
  ∃ n? i?, readLine l.toList = .ok (n?, i?) ∧ (n? = none → i? = none)

/-- The entry that a line makes, if it has a number and an instruction. -/
def entry? (l : String) : Option (Int × Instruction) :=
  match readLine l.toList with
  | .ok (some n, some i) => some (n, i)
  | _ => none

theorem entry?_eq_some_iff : entry? l = some (n, i) ↔ readLine l.toList = .ok (some n, some i) := by
  unfold entry?
  split
  next n' i' h =>
    rw [h]
    simp
  next h =>
    exact iff_of_false nofun fun heq => h n i heq

/-- One turn of the loop over the lines. -/
theorem assembleFrom_cons (position : Nat) (program : Table Int Instruction) (l : String)
    (lines : List String) : assembleFrom position program (l :: lines) = (do
      match ← readLine l.toList with
      | (_, none) => assembleFrom (position + 1) program lines
      | (none, some _) => .error (.missingLineNumber position l)
      | (some n, some i) =>
        if program.contains n then .error (.duplicateLineNumber n position)
        else assembleFrom (position + 1) (program.put n i) lines) := by
  unfold readLine
  rw [assembleFrom]
  cases splitLineNumber l.toList with
  | error f => rfl
  | ok split =>
    obtain ⟨n?, body⟩ := split
    show (ofChars? body >>= _) = (ofChars? body >>= _) >>= _
    cases ofChars? body with
    | error f => rfl
    | ok i? => cases i? with
      | none => rfl
      | some i => cases n? <;> rfl

/-- **Lines are read as the table of their entries** if all of them may stand in a listing and no two
have the same number, and otherwise not at all. -/
theorem assembleFrom_eq_ok_iff : assembleFrom position program lines = .ok t ↔
    (∀ l ∈ lines, IsListable l) ∧
    ((program.toList ++ lines.filterMap entry?).map Prod.fst).Nodup ∧
    (lines.filterMap entry?).foldl (fun t e => t.put e.1 e.2) program = t := by
  induction lines generalizing position program with
  | nil =>
    refine ⟨fun h => ⟨List.forall_mem_nil _, ?_, Except.ok.inj h⟩, fun h => congrArg Except.ok h.2.2⟩
    rw [List.filterMap_nil, List.append_nil]
    exact program.nodup_keys
  | cons l lines ih =>
    rw [assembleFrom_cons, List.forall_mem_cons]
    cases hread : readLine l.toList with
    | error f =>
      refine iff_of_false nofun fun ⟨⟨⟨n?, i?, hlist, _⟩, _⟩, _⟩ => ?_
      exact nomatch hread.symm.trans hlist
    | ok r =>
      rw [ok_bind]
      rcases r with ⟨n?, _ | i⟩
      case none =>
        -- Without an instruction a line is passed over, whether it has a number or not.
        have hlist : IsListable l := ⟨n?, none, hread, fun _ => rfl⟩
        have hnone : entry? l = none :=
          Option.eq_none_iff_forall_ne_some.mpr fun e he => by
            cases hread.symm.trans (entry?_eq_some_iff.mp he)
        rw [List.filterMap_cons_none hnone, and_iff_right hlist]
        exact ih
      rcases n? with _ | n
      case none =>
        refine iff_of_false nofun fun ⟨⟨⟨n?, i?, hlist, hnumber⟩, _⟩, _⟩ => ?_
        cases hread.symm.trans hlist
        exact nomatch hnumber rfl
      have hlist : IsListable l := ⟨some n, some i, hread, nofun⟩
      rw [List.filterMap_cons_some (entry?_eq_some_iff.mpr hread), and_iff_right hlist]
      dsimp only
      by_cases hold : program.contains n = true
      · rw [if_pos hold]
        refine iff_of_false nofun fun ⟨_, hkeys, _⟩ => ?_
        exact (Table.toList_put_of_nodup hkeys).1 ((Table.contains_iff ..).mp hold)
      · have hnew : n ∉ program.keys := mt (Table.contains_iff ..).mpr hold
        rw [if_neg hold, ih, Table.toList_put_of_notMem i hnew, List.append_assoc]
        rfl

theorem assemble_eq_ok_iff : assemble lines = .ok t ↔ (∀ l ∈ lines, IsListable l) ∧
    ((lines.filterMap entry?).map Prod.fst).Nodup ∧ .ofList (lines.filterMap entry?) = t :=
  assembleFrom_eq_ok_iff

theorem exists_assemble_iff : (∃ t, assemble lines = .ok t) ↔
    (∀ l ∈ lines, IsListable l) ∧ ((lines.filterMap entry?).map Prod.fst).Nodup := by
  constructor
  · rintro ⟨t, ht⟩
    obtain ⟨hlist, hkeys, -⟩ := assemble_eq_ok_iff.mp ht
    exact ⟨hlist, hkeys⟩
  · rintro ⟨hlist, hkeys⟩
    exact ⟨_, assemble_eq_ok_iff.mpr ⟨hlist, hkeys, rfl⟩⟩

/-- The table has the entries of the lines and no others. -/
theorem get?_assemble (h : assemble lines = .ok t) :
    t.get? n = some i ↔ ∃ l ∈ lines, entry? l = some (n, i) := by
  obtain ⟨-, hkeys, rfl⟩ := assemble_eq_ok_iff.mp h
  rw [Table.get?_eq_some_iff, Table.toList_ofList hkeys, List.mem_filterMap]

/-- The order of the lines does not matter. -/
theorem exists_assemble_perm (h : lines.Perm lines') :
    (∃ t, assemble lines = .ok t) ↔ ∃ t, assemble lines' = .ok t := by
  rw [exists_assemble_iff, exists_assemble_iff, ((h.filterMap entry?).map Prod.fst).nodup_iff]
  exact and_congr_left' (forall_congr' fun l => imp_congr_left h.mem_iff)

theorem get?_assemble_perm (h : lines.Perm lines') (ht : assemble lines = .ok t)
    (ht' : assemble lines' = .ok t') (n : Int) : t.get? n = t'.get? n := by
  refine Option.ext fun i => ?_
  rw [get?_assemble ht, get?_assemble ht']
  exact exists_congr fun l => and_congr_left' h.mem_iff

/-! ## What is read of a line -/

/-- A line with a numeral of too many digits, as its number or among the operands of its
instruction. -/
inductive IsOverlong (line : List Char) : Prop
  | number {token body : List Char} (h : Numbered line token body) (hsize : IsOversized token)
  | operand {n? : Option Int} {r : Rendering} (h : Cut line n? r.line)
      (hsize : ∃ t ∈ r.tokens, IsOversized t)

/-- A line has an instruction, after a number or without one. -/
def Instructs (line : List Char) (n? : Option Int) : Prop :=
  ∃ body, Cut line n? body ∧ ¬ IsBlankLine body

/-- All cuts of a line have the same number and the same instruction. -/
theorem Cut.ofChars?_eq {n?' : Option Int} {body' : List Char} (h : Cut line n? body)
    (h' : Cut line n?' body') : n? = n?' ∧ ofChars? body = ofChars? body' := by
  obtain ⟨hn, hbody⟩ := h.unique h'
  refine ⟨hn, ?_⟩
  rw [← ofChars?_trimStart, hbody, ofChars?_trimStart]

/-- The number and the body of a line are read, if the number has few enough digits. -/
theorem readLine_of_cut (hend : '\n' ∉ line) (hcut : Cut line n? body)
    (hsize : ∀ token body, Numbered line token body → ¬ IsOversized token) :
    readLine line = do return (n?, ← ofChars? body) := by
  unfold readLine
  cases hcut with
  | numbered h hn =>
    have hread := splitLineNumber_of_numbered h hn fun hmem => hend (h.subset hmem)
    rw [hread, if_neg fun hlimit => hsize _ _ h ⟨⟨_, hn⟩, hlimit⟩, ok_bind]
    dsimp only
    rw [ofChars?_trimStart]
  | plain h =>
    rw [splitLineNumber_of_not_numbered h]
    rfl

theorem readLine_of_oversized (hend : '\n' ∉ line) (h : Numbered line token body)
    (hsize : IsOversized token) (r : Option Int × Option Instruction) : readLine line ≠ .ok r := by
  obtain ⟨⟨n, hn⟩, hlimit⟩ := hsize
  have hread := splitLineNumber_of_numbered h hn fun hmem => hend (h.subset hmem)
  unfold readLine
  rw [hread, if_pos hlimit]
  exact nofun

/-- **A line is read as its cut says**, unless it has a numeral of too many digits. -/
theorem readLine_eq_ok_iff (hend : '\n' ∉ line) : readLine line = .ok (n?, i?) ↔
    ¬ IsOverlong line ∧ ∃ body, Cut line n? body ∧ ofChars? body = .ok i? := by
  constructor
  · intro hread
    have hsize : ∀ token body, Numbered line token body → ¬ IsOversized token :=
      fun token body h hsize => readLine_of_oversized hend h hsize _ hread
    obtain ⟨m?, body, hcut⟩ := exists_cut line
    rw [readLine_of_cut hend hcut hsize] at hread
    obtain ⟨j?, hbody, hpair⟩ := bind_eq_ok hread
    cases hpair
    refine ⟨fun hlong => ?_, body, hcut, hbody⟩
    cases hlong with
    | number h hover => exact hsize _ _ h hover
    | operand h hover =>
      obtain ⟨digits, hread⟩ := Rendering.ofChars?_eq_error hover
      exact nomatch hread.symm.trans ((h.ofChars?_eq hcut).2.trans hbody)
  · rintro ⟨hlong, body, hcut, hbody⟩
    rw [readLine_of_cut hend hcut fun token body h hover => hlong (.number h hover), hbody]
    rfl

/-- A line of which the body cannot be read has a numeral of too many digits. -/
theorem isOverlong_of_cut {f : Fault} (hcut : Cut line n? body) (hread : ofChars? body = .error f) :
    IsOverlong line := by
  obtain ⟨r, rfl, hsize⟩ := ofChars?_eq_error_iff.mp ⟨f, hread⟩
  exact .operand hcut hsize

/-- What is not blank has an instruction. -/
theorem exists_ofChars?_iff (hsize : ¬ IsOverlong line) (hcut : Cut line n? body) :
    (∃ i, ofChars? body = .ok (some i)) ↔ ¬ IsBlankLine body := by
  rw [← ofChars?_eq_none_iff]
  cases hread : ofChars? body with
  | error f => exact absurd (isOverlong_of_cut hcut hread) hsize
  | ok i? =>
    cases i? with
    | none => exact iff_of_false nofun fun hne => hne rfl
    | some i => exact iff_of_true ⟨i, rfl⟩ nofun

theorem isListable_iff (hend : '\n' ∉ l.toList) :
    IsListable l ↔ ¬ IsOverlong l.toList ∧ ¬ Instructs l.toList none := by
  constructor
  · rintro ⟨n?, i?, hread, hnumber⟩
    obtain ⟨hsize, body, hcut, hbody⟩ := (readLine_eq_ok_iff hend).mp hread
    refine ⟨hsize, fun ⟨body', hcut', hne⟩ => hne ?_⟩
    obtain ⟨hn, heq⟩ := hcut.ofChars?_eq hcut'
    rw [← ofChars?_eq_none_iff, ← heq, hbody, hnumber hn]
  · rintro ⟨hsize, hnone⟩
    obtain ⟨n?, body, hcut⟩ := exists_cut l.toList
    cases hbody : ofChars? body with
    | error f => exact absurd (isOverlong_of_cut hcut hbody) hsize
    | ok i? =>
      refine ⟨n?, i?, (readLine_eq_ok_iff hend).mpr ⟨hsize, body, hcut, hbody⟩, ?_⟩
      rintro rfl
      cases i? with
      | none => rfl
      | some i =>
        exact absurd ⟨body, hcut, (exists_ofChars?_iff hsize hcut).mp ⟨i, hbody⟩⟩ hnone

theorem exists_entry?_iff (hend : '\n' ∉ l.toList) (hsize : ¬ IsOverlong l.toList) :
    (∃ i, entry? l = some (n, i)) ↔ Instructs l.toList (some n) := by
  constructor
  · rintro ⟨i, hi⟩
    obtain ⟨-, body, hcut, hbody⟩ := (readLine_eq_ok_iff hend).mp (entry?_eq_some_iff.mp hi)
    exact ⟨body, hcut, (exists_ofChars?_iff hsize hcut).mp ⟨i, hbody⟩⟩
  · rintro ⟨body, hcut, hne⟩
    obtain ⟨i, hi⟩ := (exists_ofChars?_iff hsize hcut).mpr hne
    exact ⟨i, entry?_eq_some_iff.mpr ((readLine_eq_ok_iff hend).mpr ⟨hsize, body, hcut, hi⟩)⟩

/-! ## Numbering -/

/-- Every line with an instruction has a number, and no two of them have the same. -/
structure WellNumbered (lines : List String) : Prop where
  numbered : ∀ l ∈ lines, ¬ Instructs l.toList none
  distinct : lines.Pairwise fun l m =>
    ∀ n, Instructs l.toList (some n) → ¬ Instructs m.toList (some n)

theorem nodup_entries_iff (hend : ∀ l ∈ lines, '\n' ∉ l.toList)
    (hsize : ∀ l ∈ lines, ¬ IsOverlong l.toList) :
    ((lines.filterMap entry?).map Prod.fst).Nodup ↔ lines.Pairwise fun l m => ∀ n,
      Instructs l.toList (some n) → ¬ Instructs m.toList (some n) := by
  unfold List.Nodup
  rw [List.pairwise_map, List.pairwise_filterMap]
  refine List.Pairwise.iff_of_mem fun {l m} hl hm => ?_
  have hleft := fun n => exists_entry?_iff (n := n) (hend l hl) (hsize l hl)
  have hright := fun n => exists_entry?_iff (n := n) (hend m hm) (hsize m hm)
  constructor
  · intro hne n hn hn'
    obtain ⟨i, hi⟩ := (hleft n).mpr hn
    obtain ⟨j, hj⟩ := (hright n).mpr hn'
    exact hne _ hi _ hj rfl
  · rintro hne ⟨n, i⟩ hi ⟨n', j⟩ hj rfl
    exact hne _ ((hleft _).mp ⟨i, hi⟩) ((hright _).mp ⟨j, hj⟩)

/-- **A listing is assembled if and only if it is well numbered.** -/
theorem assembled_iff_wellNumbered (lines : List String) (hend : ∀ l ∈ lines, '\n' ∉ l.toList) :
    ((∃ t, assemble lines = .ok t) ↔
      WellNumbered lines ∧ ∀ l ∈ lines, ¬ IsOverlong l.toList) ∧
    ((∃ t, assemble lines = .ok t) ∨ FailsAs .value (assemble lines)) ∧
    (∀ t, assemble lines = .ok t →
      (∀ n, t.contains n = true ↔ ∃ l ∈ lines, Instructs l.toList (some n)) ∧
      ∀ n i, t.get? n = some i ↔ ∃ l ∈ lines, ∃ body, Cut l.toList (some n) body ∧
        ofChars? body = .ok (some i)) ∧
    ∀ lines', lines.Perm lines' →
      ((∃ t, assemble lines = .ok t) ↔ ∃ t, assemble lines' = .ok t) ∧
      ∀ t t', assemble lines = .ok t → assemble lines' = .ok t' → ∀ n, t.get? n = t'.get? n := by
  have hiff : (∃ t, assemble lines = .ok t) ↔
      WellNumbered lines ∧ ∀ l ∈ lines, ¬ IsOverlong l.toList := by
    rw [exists_assemble_iff]
    constructor
    · rintro ⟨hlist, hkeys⟩
      have hlines := fun l hl => (isListable_iff (hend l hl)).mp (hlist l hl)
      have hsize := fun l hl => (hlines l hl).1
      exact ⟨⟨fun l hl => (hlines l hl).2, (nodup_entries_iff hend hsize).mp hkeys⟩, hsize⟩
    · rintro ⟨⟨hnumbered, hdistinct⟩, hsize⟩
      exact ⟨fun l hl => (isListable_iff (hend l hl)).mpr ⟨hsize l hl, hnumbered l hl⟩,
        (nodup_entries_iff hend hsize).mpr hdistinct⟩
  refine ⟨hiff, ?_, fun t ht => ⟨fun n => ?_, fun n i => ?_⟩, fun lines' hperm =>
    ⟨exists_assemble_perm hperm, fun t t' => get?_assemble_perm hperm⟩⟩
  · cases hread : assemble lines with
    | ok t => exact .inl ⟨t, rfl⟩
    | error f => exact .inr ⟨f, rfl, tame_assembleFrom _ _ _ f hread⟩
  · have hsize := (hiff.mp ⟨t, ht⟩).2
    unfold Table.contains
    rw [Option.isSome_iff_exists]
    constructor
    · rintro ⟨i, hi⟩
      obtain ⟨l, hl, hentry⟩ := (get?_assemble ht).mp hi
      exact ⟨l, hl, (exists_entry?_iff (hend l hl) (hsize l hl)).mp ⟨i, hentry⟩⟩
    · rintro ⟨l, hl, hline⟩
      obtain ⟨i, hentry⟩ := (exists_entry?_iff (hend l hl) (hsize l hl)).mpr hline
      exact ⟨i, (get?_assemble ht).mpr ⟨l, hl, hentry⟩⟩
  · rw [get?_assemble ht]
    refine exists_congr fun l => and_congr_right fun hl => ?_
    rw [entry?_eq_some_iff, readLine_eq_ok_iff (hend l hl)]
    exact and_iff_right ((hiff.mp ⟨t, ht⟩).2 l hl)

/-- Numbers in several spellings, a comment with a colon and a line of which only the number is left.
A third spelling of a number that is there makes the listing ambiguous. -/
theorem assembled_iff_wellNumbered_spellings :
    let lines := ["02 : JUMP 1", "\t+1: DEFUSE ; 2: EXPLODE", "", "3: ; WAIT"]
    WellNumbered lines ∧ (∃ t, assemble lines.reverse = .ok t) ∧
      FailsAs .value (assemble ("1:EXPLODE" :: lines)) := by
  intro lines
  have hread : ∃ t, assemble lines = .ok t := by decide +kernel
  obtain ⟨hiff, -, -, hperm⟩ := assembled_iff_wellNumbered lines (by decide)
  obtain ⟨-, hfails, -⟩ := assembled_iff_wellNumbered ("1:EXPLODE" :: lines) (by decide)
  exact ⟨(hiff.mp hread).1, (hperm _ (List.reverse_perm lines).symm).1.mp hread,
    hfails.resolve_left (by decide +kernel)⟩

/-- A single line under a zero of too many digits is well numbered, but not assembled. -/
theorem unassembled_zero :
    let line := String.ofList (List.replicate 4301 '0' ++ ": DEFUSE".toList)
    '\n' ∉ line.toList ∧ WellNumbered [line] ∧ ¬ ∃ t, assemble [line] = .ok t := by
  intro line
  have hnumbered : Numbered line.toList (List.replicate 4301 '0') " DEFUSE".toList := by
    rw [String.toList_ofList]
    exact .of_spells (Numeral.spells_zeros 4300) _
  have hend : '\n' ∉ line.toList := by
    rw [String.toList_ofList, List.mem_append]
    rintro (hdigit | hrest)
    · exact absurd (List.eq_of_mem_replicate hdigit) (by decide)
    · exact absurd hrest (by decide)
  refine ⟨hend, ⟨?_, List.pairwise_singleton _ _⟩, fun hread => ?_⟩
  · rw [List.forall_mem_singleton]
    rintro ⟨body, hcut, -⟩
    cases hcut with
    | plain h => exact h _ _ hnumbered
  · obtain ⟨hlist, -⟩ := exists_assemble_iff.mp hread
    obtain ⟨n?, i?, hline, -⟩ := hlist line (List.mem_singleton_self line)
    exact readLine_of_oversized hend hnumbered (Numeral.isOversized_zeros (Nat.le_refl _)) _ hline

end Instruction

end Defusal
