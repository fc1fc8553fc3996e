import Defusal.Proofs.Level.Kept

/-!
# Levels in normal form

A level can be written in many ways: fields may be missing, its registers are written under either of
two names and as numbers or numerals, and its program as a list, a map or a listing. What is read is
always of one form, which can be written down again field by field (`Level.fields`).

Reading that gives the level back (`Level.report_of_perm`). It rests on four facts, of the program and
of the registers, that hold of every level that was read and of no other (`Level.isSound_iff`). So
reading a level and writing it down is a normal form of it: done again, it changes nothing, gives no
notices and begins the same game (`Level.rereading_fields`).
-/

namespace Defusal

namespace Level

variable {entries : List (Datum × Datum)} {d : Datum} {level : Level}

/-- A level written down as the fields of a map. -/
def fields (level : Level) : List (Datum × Datum) := [
  (.text "id", .text level.id),
  (.text "name", .text level.name),
  (.text "description", .text level.description),
  (.text "architecture", .text level.architecture.name),
  (.text "program", level.program),
  (.text "initial_registers", .map (level.registers.toList.map fun e => (.text e.1, .int e.2))),
  (.text "player_register", .text level.playerRegister),
  (.text "order", .int level.order)]

/-! ## Levels that reading can give -/

/-- The program of a level is a list or a map that its machine can read, and its registers have the
clock and the register of the player. -/
structure IsSound (level : Level) : Prop where
  shape : (∃ items, level.program.opened = .list items) ∨ ∃ lines, level.program.opened = .map lines
  program : ∃ p, Program.read level.architecture level.program = .ok p
  clock : level.registers.contains clockName = true
  player : level.registers.contains level.playerRegister = true

theorem Describes.isSound (h : Describes entries level) : level.IsSound :=
  ⟨shape_of_programField h.program, h.readable, h.clock, h.player⟩

/-! ## Reading the fields again -/

/-- In whatever order the fields are written, each is found under its name. -/
theorem field?_of_perm {name : String} (hentries : entries.Perm level.fields)
    (h : (.text name, d) ∈ level.fields) : Datum.field? name entries = some d := by
  have hkeys : (level.fields.map Prod.fst).Nodup := by simp [fields]
  exact Datum.field?_of_mem (hentries.mem_iff.mpr h) ((hentries.map Prod.fst).nodup_iff.mpr hkeys)

theorem textField_of_perm {name byDefault s : String} (hentries : entries.Perm level.fields)
    (h : (.text name, .text s) ∈ level.fields) : textField entries name byDefault = .ok s := by
  unfold textField
  rw [field?_of_perm hentries h]
  rfl

/-- **The fields of a sound level describe it**, in whatever order they are written. -/
theorem IsSound.describes (h : level.IsSound) (hentries : entries.Perm level.fields) :
    Describes entries level where
  keys := by
    rintro ⟨e, he, hstrange⟩
    have he := hentries.mem_iff.mp he
    simp only [fields, List.mem_cons, List.not_mem_nil, or_false] at he
    rcases he with rfl | rfl | rfl | rfl | rfl | rfl | rfl | rfl <;> exact hstrange _ rfl
  name := by
    unfold nameField
    rw [field?_of_perm hentries (d := .text level.name) (by simp [fields])]
    rfl
  id := textField_of_perm hentries (by simp [fields])
  architecture := by
    have hname : Text.capitals level.architecture.name = level.architecture.name := by
      cases level.architecture <;> decide +kernel
    unfold architectureField
    rw [textField_of_perm hentries (s := level.architecture.name) (by simp [fields]), ok_bind,
      hname]
    dsimp only
    rw [Architecture.ofName?_name]
  program := programField_of_shape (field?_of_perm hentries (by simp [fields])) h.shape
  readable := h.program
  registers := by
    have hwritten : writtenRegisters entries =
        .map (level.registers.toList.map fun e => (.text e.1, .int e.2)) := by
      unfold writtenRegisters
      rw [field?_of_perm hentries (d := .map (level.registers.toList.map fun e =>
        (.text e.1, .int e.2))) (by simp [fields])]
      rfl
    have hrows : (level.registers.toList.map fun e => (Datum.text e.1, Datum.int e.2)).mapM
        registerOf = .ok (level.registers.toList.map fun e => e) :=
      mapM_map_eq_ok fun _ _ => rfl
    unfold registersField
    rw [hwritten]
    show (_ >>= _) = _
    rw [hrows, ok_bind, List.map_id', Table.ofList_toList]
    rfl
  clock := h.clock
  playerRegister := textField_of_perm hentries (by simp [fields])
  player := h.player
  description := textField_of_perm hentries (by simp [fields])
  order := by
    rw [field?_of_perm hentries (d := .int level.order) (by simp [fields])]
    rfl

/-- A level can be read from some value if and only if it is sound. -/
theorem isSound_iff : level.IsSound ↔ ∃ d, read d = .ok level := by
  constructor
  · intro h
    exact ⟨.map level.fields, read_eq_ok_iff.mpr ⟨_, rfl, h.describes (.refl _)⟩⟩
  · rintro ⟨d, hd⟩
    obtain ⟨entries, -, h⟩ := read_eq_ok_iff.mp hd
    exact h.isSound

/-- There is nothing to notice about fields that all are known. -/
theorem notices_eq_nil (h : ∀ e ∈ entries, ∃ name ∈ fieldNames, e.1 = .text name) :
    notices (.map entries) = [] := by
  have hrow : entries.filterMapM unknownField? = .ok [] := by
    induction entries with
    | nil => rfl
    | cons e entries ih =>
      obtain ⟨⟨name, hname, he⟩, hrest⟩ := List.forall_mem_cons.mp h
      have hknown : unknownField? e = .ok none := by
        unfold unknownField?
        rw [he]
        exact congrArg Except.ok (if_pos (List.contains_iff_mem.mpr hname))
      rw [List.filterMapM_cons, hknown, ok_bind, ih hrest]
  have hunknown : unknownFields entries = .ok [] := by
    unfold unknownFields
    rw [hrow, ok_bind, List.mergeSort_nil]
    rfl
  unfold notices Datum.opened
  dsimp only
  rw [hunknown]

theorem report_of_perm (h : level.IsSound) (hentries : entries.Perm level.fields) :
    report (.map entries) = .ok level := by
  have hread : read (.map entries) = .ok level :=
    read_eq_ok_iff.mpr ⟨entries, rfl, h.describes hentries⟩
  have hnotices : notices (.map entries) = [] := by
    refine notices_eq_nil fun e he => ?_
    have he := hentries.mem_iff.mp he
    simp only [fields, List.mem_cons, List.not_mem_nil, or_false] at he
    rcases he with rfl | rfl | rfl | rfl | rfl | rfl | rfl | rfl <;>
      exact ⟨_, by simp [fieldNames], rfl⟩
  unfold report
  rw [hread, hnotices]
  rfl

/-- **Reading a level again changes nothing.** A level that was read is read again from its fields, in
whatever order they are written, without notices; and the value that it was read from, the level and
its fields all begin the same game. -/
theorem rereading_fields (h : read d = .ok level) (hentries : entries.Perm level.fields) :
    report (.map entries) = .ok level ∧
      ∃ s, Session.create level = .ok s ∧ Session.ofDatum d = .ok s ∧
        Session.ofDatum (.map entries) = .ok s := by
  have hsound := isSound_iff.mpr ⟨d, h⟩
  have hreport := report_of_perm hsound hentries
  have hread : read (.map entries) = .ok level := congrArg Report.result hreport
  obtain ⟨p, hp⟩ := hsound.program
  obtain ⟨s, hs, -⟩ := exists_create hp
  refine ⟨hreport, s, hs, ?_, ?_⟩
  · unfold Session.ofDatum
    rw [h, ok_bind, hs]
  · unfold Session.ofDatum
    rw [hread, ok_bind, hs]

/-- A level without a name, with a listing for its program, its registers under the second of their
names and as numerals, and a field that no level has. -/
def offhand : Datum := .map [
  (.text "id", .int 7),
  (.text "architecture", .text "sparse"),
  (.text "hint", .null),
  (.text "program", .text "2: DEFUSE\n1: add A, 1, A"),
  (.text "initialRegisters", .map [(.text "A", .text "0x10"), (.text "T", .text " 0 ")])]

/-- `offhand` is read with a notice, and again without one. -/
theorem rereading_fields_offhand : ∃ level s, read offhand = .ok level ∧ notices offhand ≠ [] ∧
    report (.map level.fields.reverse) = .ok level ∧
    Session.ofDatum (.map level.fields.reverse) = .ok s ∧ level.name = "7" ∧
    s.registers.get? "A" = some 16 ∧ (s.program.get 2).op = "DEFUSE" := by
  let level := (read offhand).toOption.getD default
  have hread : read offhand = .ok level := eq_ok_getD (by decide +kernel) default
  obtain ⟨hreport, s, hs, -, hagain⟩ := rereading_fields hread (List.reverse_perm level.fields)
  have hnotices : notices offhand ≠ [] := by decide +kernel
  have hname : level.name = "7" := by decide +kernel
  have hgame : (Session.create level).toOption.map
      (fun s => (s.registers.get? "A", (s.program.get 2).op)) = some (some 16, "DEFUSE") := by
    decide +kernel
  rw [hs] at hgame
  obtain ⟨hvalue, hop⟩ := Prod.ext_iff.mp (Option.some.inj hgame)
  exact ⟨level, s, hread, hnotices, hreport, hagain, hname, hvalue, hop⟩

end Level

end Defusal
