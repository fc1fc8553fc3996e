import Defusal.Proofs.Level.Fields
import Defusal.Proofs.Program.Entries
import Defusal.Proofs.Session.Run

/-!
# What a level keeps of its program

A level that is accepted can be played, and its games start on a program that stores of the written
entries the last on each line. So every entry is kept, under its own line, unless two entries have
the same line (`Level.entries_kept`). Lists and listings never have such entries. A map can have
them, because keys that differ as values may be equal as line numbers, and nothing refuses it: then
the earlier entries are dropped (`Level.entry_dropped`).
-/

namespace Defusal

namespace Program

/-- Two entries of a written program have the same line. -/
def Collides (a : Architecture) (d : Datum) : Prop :=
  ∃ (m n : Nat) (line : Int) (i j : Instruction),
    m < n ∧ EntryAt a d m line i ∧ EntryAt a d n line j

variable {a : Architecture} {d : Datum}

/-- The items of a list are numbered one by one. -/
theorem not_collides_list {items : List Datum} (hd : d.opened = .list items) : ¬ Collides a d := by
  rintro ⟨m, n, line, i, j, hmn, hm, hn⟩
  cases hm with
  | numbered hd' => rw [hd] at hd'; cases hd'
  | listed =>
    generalize hline : a.firstLine + (m : Int) = line at hn
    cases hn with
    | numbered hd' => rw [hd] at hd'; cases hd'
    | listed => omega

/-- The lines of a listing have different numbers. -/
theorem not_collides_listing (listing : Table Int Instruction) :
    ¬ Collides a (listingDatum listing) := by
  have hat : ∀ {n line i}, EntryAt a (listingDatum listing) n line i →
      listing.keys[n]? = some line := by
    intro n line i h
    cases h with
    | listed hd => cases hd
    | numbered hd he hline =>
      rw [← Datum.map.inj hd, List.getElem?_map, Option.map_eq_some_iff] at he
      obtain ⟨e, he, rfl⟩ := he
      cases hline
      unfold Table.keys
      rw [List.getElem?_map, he]
      rfl
  have hnodup := listing.nodup_keys
  rintro ⟨m, n, line, i, j, hmn, hm, hn⟩
  have hlt := (List.getElem?_eq_some_iff.mp (hat hn)).1
  exact List.nodup_iff_getElem?_ne_getElem?.mp hnodup m n hmn hlt ((hat hm).trans (hat hn).symm)

/-- Numbered entries collide if and only if a number occurs twice. -/
theorem collides_iff {lines : List (Int × Instruction)}
    (h : ∀ (n : Nat) (line : Int) (i : Instruction),
      lines[n]? = some (line, i) ↔ EntryAt a d n line i) :
    Collides a d ↔ ¬ (lines.map Prod.fst).Nodup := by
  rw [List.nodup_iff_getElem?_ne_getElem?]
  unfold Collides
  simp only [← h, List.getElem?_map]
  constructor
  · rintro ⟨m, n, line, i, j, hmn, hm, hn⟩ hnodup
    have hlt := (List.getElem?_eq_some_iff.mp hn).1
    refine hnodup m n hmn (by rw [List.length_map]; exact hlt) ?_
    rw [hm, hn]
    rfl
  · intro hnodup
    by_contra hdistinct
    refine hnodup fun m n hmn hn heq => hdistinct ?_
    rw [List.length_map] at hn
    have hm := Nat.lt_trans hmn hn
    rw [List.getElem?_eq_getElem hm, List.getElem?_eq_getElem hn] at heq
    refine ⟨m, n, lines[n].1, lines[m].2, lines[n].2, hmn, ?_, List.getElem?_eq_getElem hn⟩
    rw [List.getElem?_eq_getElem hm, ← (Option.some.inj heq : lines[m].1 = lines[n].1)]

end Program

namespace Level

variable {d : Datum} {level : Level}

/-- What is known of the program of a level that was accepted: it comes from the program field and
can be read. -/
theorem program_of_read (h : read d = .ok level) :
    ∃ entries id, d.opened = .map entries ∧ programField id entries = .ok level.program ∧
      ∃ p, Program.read level.architecture level.program = .ok p := by
  obtain ⟨entries, hentries, hd⟩ := read_eq_ok_iff.mp h
  exact ⟨entries, level.id, hentries, hd.program, hd.readable⟩

/-- The clock and the player's register are among the registers of a level that was accepted. -/
theorem registers_of_read (h : read d = .ok level) :
    clockName ∈ level.registers.keys ∧ level.playerRegister ∈ level.registers.keys := by
  obtain ⟨entries, -, hd⟩ := read_eq_ok_iff.mp h
  exact ⟨(Table.contains_iff ..).mp hd.clock, (Table.contains_iff ..).mp hd.player⟩

/-- The program of a level is a list or a map. -/
theorem shape_of_programField {entries : List (Datum × Datum)} {id : String} {program : Datum}
    (h : programField id entries = .ok program) :
    (∃ items, program.opened = .list items) ∨ ∃ lines, program.opened = .map lines := by
  rcases programField_eq_ok h with ⟨text, listing, -, rfl⟩ | ⟨-, hshape⟩
  · exact .inr ⟨_, rfl⟩
  · exact hshape

/-- A level whose program can be read can be played. -/
theorem exists_create {p : Program} (hp : Program.read level.architecture level.program = .ok p) :
    ∃ s, Session.create level = .ok s ∧ s.program = p := by
  refine ⟨Session.opening level (.ofTable level.registers) p, ?_, rfl⟩
  unfold Session.create Session.fresh Session.firstMachine
  rw [hp]
  rfl

open Program in
/-- **An accepted level keeps every entry of its program under its own line, unless two entries have
the same line.** Its games start on a program that stores the last entry of each line; it stores as
many lines as there are entries exactly if no two entries collide, and the items of a list and the
lines of a listing never do. A program that is not written as a text is kept as it is written. -/
theorem entries_kept (h : read d = .ok level) :
    let a := level.architecture
    let program := level.program
    ∃ entries s, d.opened = .map entries ∧ Session.create level = .ok s ∧
      ((∀ text, (writtenProgram entries).opened ≠ .text text) → program = writtenProgram entries) ∧
      (∀ n < entryCount program, ∃ line i, EntryAt a program n line i) ∧
      (∀ line i, s.program.get? line = some i ↔
        ∃ n, EntryAt a program n line i ∧ ∀ m > n, ∀ j, ¬ EntryAt a program m line j) ∧
      (¬ Collides a program → s.program.size = entryCount program ∧
        ∀ n line i, EntryAt a program n line i → s.program.get? line = some i) ∧
      (Collides a program → s.program.size < entryCount program) ∧
      (∀ items, program.opened = .list items → ¬ Collides a program) ∧
      (∀ text, (writtenProgram entries).opened = .text text → ¬ Collides a program) := by
  intro a program
  obtain ⟨entries, id, hentries, hprogram, p, hp⟩ := program_of_read h
  obtain ⟨s, hs, rfl⟩ := exists_create hp
  have hshape := shape_of_programField hprogram
  obtain ⟨lines, hstores, hlength, hat⟩ := stores_of_read hshape hp
  have hlast : ∀ line i, s.program.get? line = some i ↔
      ∃ n, EntryAt a program n line i ∧ ∀ m > n, ∀ j, ¬ EntryAt a program m line j := by
    intro line i
    rw [hstores.get?_iff]
    simp only [LastAt, ne_eq, hat]
    exact Iff.rfl
  refine ⟨entries, s, hentries, hs, fun hplain => ?_, fun n hn => ?_, hlast,
    fun hdistinct => ⟨?_, fun n line i hentry => ?_⟩, fun hcollides => ?_,
    fun items hitems => not_collides_list hitems, fun text htext => ?_⟩
  · rcases programField_eq_ok hprogram with ⟨text, -, htext, -⟩ | ⟨hwritten, -⟩
    · exact absurd htext (hplain text)
    · exact hwritten
  · rw [← hlength] at hn
    exact ⟨lines[n].1, lines[n].2, (hat _ _ _).mp (List.getElem?_eq_getElem hn)⟩
  · rw [← hlength, hstores.size_eq_length_iff]
    exact Decidable.byContradiction fun hnodup => hdistinct ((collides_iff hat).mpr hnodup)
  · -- A later entry on the line would collide.
    refine (hlast line i).mpr ⟨n, hentry, fun m hm j hj => ?_⟩
    exact hdistinct ⟨n, m, line, i, j, hm, hentry, hj⟩
  · refine Nat.lt_of_le_of_ne (hlength ▸ hstores.size_le) fun hsize => ?_
    have hnodup := hstores.size_eq_length_iff.mp (hsize.trans hlength.symm)
    exact (collides_iff hat).mp hcollides hnodup
  · rcases programField_eq_ok hprogram with ⟨-, listing, -, hlisting⟩ | ⟨hwritten, -⟩
    · show ¬ Collides a level.program
      rw [hlisting]
      exact not_collides_listing listing
    · -- What is kept as it is written is a list or a map and no text.
      rw [hwritten, htext] at hshape
      rcases hshape with ⟨items, hitems⟩ | ⟨lines, hlines⟩
      · cases hitems
      · cases hlines

/-- A level whose lines are numbered by keys. -/
def numberedBy (lines : List (Datum × Datum)) : Datum :=
  .map (fieldsOf (.map lines) (.map [(.text "A", .int 0), (.text "T", .int 0)]))

/-- A text that reads as a number is as good a key as a number. -/
theorem entries_kept_numbered :
    let d := numberedBy [(.text " +7", .text "DEFUSE"), (.int 2, .text "JUMP 7")]
    ∃ level s, read d = .ok level ∧ Session.create level = .ok s ∧ s.program.size = 2 ∧
      s.program.get? 7 = some ⟨"DEFUSE", []⟩ := by
  intro d
  let level := (read d).toOption.getD default
  have hread : read d = .ok level := eq_ok_getD (by decide +kernel) default
  obtain ⟨-, s, -, hs, -, -, -, hkept, hlost, -⟩ := entries_kept hread
  have hsize : s.program.size = 2 := by
    have h : ((Session.create level).toOption.map (·.program.size)) = some 2 := by decide +kernel
    rw [hs] at h
    exact Option.some.inj h
  have hdistinct : ¬ Program.Collides level.architecture level.program := by
    intro hcollides
    have h := hlost hcollides
    rw [hsize] at h
    exact absurd h (by decide +kernel)
  have hentry : Program.EntryAt level.architecture level.program 0 7 ⟨"DEFUSE", []⟩ :=
    .numbered rfl rfl rfl rfl
  exact ⟨level, s, hread, hs, hsize, (hkept hdistinct).2 0 7 _ hentry⟩

/-- Not every entry is kept: a number and a text that reads as the same number are two keys of a
map, and the later of the two entries replaces the earlier. -/
theorem entry_dropped :
    let d := numberedBy [(.int 1, .text "EXPLODE"), (.text "1", .text "DEFUSE")]
    ∃ level s, read d = .ok level ∧ Program.entryCount level.program = 2 ∧
      Session.create level = .ok s ∧ s.program.size = 1 ∧
      s.program.get? 1 = some ⟨"DEFUSE", []⟩ :=
  ⟨_, _, rfl, rfl, rfl, rfl, rfl⟩

end Level

end Defusal
