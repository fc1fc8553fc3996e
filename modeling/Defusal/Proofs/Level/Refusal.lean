import Defusal.Level.Reading
import Defusal.Proofs.Datum.Conversion

/-!
# How levels are refused

A malformed level is refused by a fault of the kind that is reported with the level. Reading keeps
to that almost everywhere, whatever the shape of the data: all checks are tame but three, and a
document has a fourth. `Level.Breaks` and `Level.BreaksDocument` list these places, each with all
that has to be in order for reading to get there:

* a key of the level that is no text breaks the notice about unknown fields;
* an infinite line number breaks the reading of the program;
* registers that are neither void nor a map break the reading of the registers;
* what a document lists as its levels, if it is neither void nor anything with elements, breaks the
  reading of the document.

A level fails with a fault of another kind exactly there (`Level.failsAs_read_iff`), and so does a
document (`Level.failsAs_result_iff`). Away from these places reading gives levels or refuses the
data, and levels of the right shapes have none (`Level.tame_reading_iff`).
-/

namespace Defusal

/-! ## Programs -/

namespace Program

variable {e : Datum × Datum} {f : Fault}

/-- The entries of a numbered program are in order up to one that has an infinite number. -/
def ReachesInfinite (lines : List (Datum × Datum)) : Prop :=
  ∃ before negative d after, lines = before ++ (.float (.infinite negative), d) :: after ∧
    ∀ e ∈ before, ∃ x, entryOf e = .ok x

theorem kind_of_entryOf_eq_error (h : entryOf e = .error f) :
    f.kind = .value ∨ f.kind = .type ∨
      f = .infiniteNumber ∧ ∃ negative, e.1 = .float (.infinite negative) := by
  rcases bind_eq_error h with h | ⟨line, -, h⟩
  · exact Datum.kind_of_strict_eq_error h
  rcases bind_eq_error h with h | ⟨i, -, h⟩
  · exact .inl (Instruction.tame_ofDatum _ f h)
  · cases h

theorem kind_of_ofElements_eq_error {d : Datum} (h : ofElements d = .error f) :
    f.kind = .value ∨ f.kind = .type := by
  rcases bind_eq_error h with h | ⟨items, -, h⟩
  · unfold Datum.elements at h
    split at h
    · cases h
    · cases h; exact .inr rfl
  · exact .inl (tame_mapM (fun d _ => Instruction.tame_ofDatum d) f h)

/-- A program that cannot be read is malformed or of the wrong type, unless a sparse machine meets
an infinite line number in it. -/
theorem kind_of_read_eq_error {a : Architecture} {d : Datum} (h : read a d = .error f) :
    f.kind = .value ∨ f.kind = .type ∨
      f = .infiniteNumber ∧ a = .sparse ∧
        ∃ lines, d.opened = .map lines ∧ ReachesInfinite lines := by
  unfold read at h
  split at h
  · cases h; exact .inl rfl
  · rcases bind_eq_error h with h | ⟨code, -, h⟩
    · exact (kind_of_ofElements_eq_error h).imp_right .inl
    · cases h
  next lines hlines =>
    rcases bind_eq_error h with h | ⟨entries, -, h⟩
    · obtain ⟨before, ⟨key, d⟩, after, rfl, hentry, hbefore⟩ := mapM_eq_error_iff.mp h
      refine (kind_of_entryOf_eq_error hentry).imp_right (.imp_right ?_)
      rintro ⟨hf, negative, rfl⟩
      exact ⟨hf, rfl, _, hlines, before, negative, d, after, rfl, hbefore⟩
    · cases h
  · cases h; exact .inl rfl
  · cases h; exact .inl rfl
  · rcases bind_eq_error h with h | ⟨code, -, h⟩
    · exact (kind_of_ofElements_eq_error h).imp_right .inl
    · cases h

theorem read_of_reachesInfinite {d : Datum} {lines : List (Datum × Datum)}
    (hlines : d.opened = .map lines) (h : ReachesInfinite lines) :
    read .sparse d = .error .infiniteNumber := by
  obtain ⟨before, negative, d', after, hsplit, hbefore⟩ := h
  have hrow : lines.mapM entryOf = .error .infiniteNumber :=
    mapM_eq_error_iff.mpr ⟨before, _, after, hsplit, rfl, hbefore⟩
  simp only [read, hlines, hrow]
  rfl

end Program

namespace Level

variable {entries : List (Datum × Datum)} {d : Datum} {f : Fault} {k : FaultKind}

/-! ## The checks of a level -/

theorem tame_textField (name byDefault : String) : Tame (textField entries name byDefault) := by
  unfold textField
  split
  · exact Datum.tame_shown _
  · exact tame_ok _

theorem tame_heading : Tame (heading entries) := by
  have hname : Tame (nameField entries) := by
    unfold nameField
    split
    · exact Datum.tame_shown _
    · exact tame_textField _ _
  refine hname.bind fun name _ => (tame_textField _ _).bind fun id _ => Tame.bind ?_ fun _ _ =>
    tame_ok _
  refine (tame_textField _ _).bind fun architecture _ => ?_
  dsimp only
  split
  · exact tame_ok _
  · exact tame_error rfl

theorem tame_programField (id : String) : Tame (programField id entries) := by
  unfold programField
  dsimp only
  split
  · exact (Instruction.tame_assembleText _).bind fun _ _ => tame_ok _
  · exact tame_ok _
  · exact tame_ok _
  · exact tame_error rfl

theorem tame_require {holds : Bool} (h : f.kind = .value) : Tame (require holds f) := by
  unfold require
  split
  · exact tame_ok _
  · exact tame_error h

theorem tame_complete (h : Heading) (program : Datum) (registers : Table String Int) :
    Tame (complete entries h program registers) :=
  (tame_require rfl).bind fun _ _ => (tame_textField _ _).bind fun _ _ =>
    (tame_require rfl).bind fun _ _ => (tame_textField _ _).bind fun _ _ =>
      (Datum.tame_exact _).bind fun _ _ => tame_ok _

/-- A key of the level is no text. -/
def HasStrangeKey (entries : List (Datum × Datum)) : Prop := ∃ e ∈ entries, ∀ s, e.1 ≠ .text s

/-- The keys of a level are looked through unless one of them is strange. -/
theorem unknownFields_cases (entries : List (Datum × Datum)) :
    HasStrangeKey entries ∧ unknownFields entries = .error .wrongType ∨
      ¬ HasStrangeKey entries ∧ ∃ names, unknownFields entries = .ok names := by
  have hrow : HasStrangeKey entries ∧ entries.filterMapM unknownField? = .error .wrongType ∨
      ¬ HasStrangeKey entries ∧ ∃ names, entries.filterMapM unknownField? = .ok names := by
    induction entries with
    | nil => exact .inr ⟨fun ⟨e, he, _⟩ => (nomatch he), [], rfl⟩
    | cons e entries ih =>
      unfold HasStrangeKey at ih ⊢
      simp only [List.filterMapM_cons, List.mem_cons, exists_eq_or_imp]
      cases hkey : unknownField? e with
      | error f =>
        unfold unknownField? at hkey
        split at hkey
        next => cases hkey
        next hstrange => cases hkey; exact .inl ⟨.inl hstrange, rfl⟩
      | ok name? =>
        have htext : ¬ ∀ s, e.1 ≠ .text s := by
          intro hstrange
          unfold unknownField? at hkey
          split at hkey
          next s hs => exact hstrange s hs
          next => cases hkey
        rcases ih with ⟨hstrange, hfault⟩ | ⟨hplain, names, hnames⟩
        · refine .inl ⟨.inr hstrange, ?_⟩
          cases name? <;> rw [hfault] <;> rfl
        · refine .inr ⟨fun h => h.elim htext hplain, ?_⟩
          cases name? <;> rw [hnames] <;> exact ⟨_, rfl⟩
  refine hrow.imp (.imp_right fun h => ?_) (.imp_right fun ⟨names, h⟩ => ?_)
  · rw [unknownFields, h]; rfl
  · rw [unknownFields, h]; exact ⟨_, rfl⟩

/-- A program is checked tamely, unless a sparse machine meets an infinite line number in it. -/
theorem fault_of_checkProgram {id : String} {a : Architecture} {program : Datum}
    (h : checkProgram id a program = .error f) : f.kind = .value ∨
      f = .infiniteNumber ∧ a = .sparse ∧
        ∃ lines, program.opened = .map lines ∧ Program.ReachesInfinite lines := by
  unfold checkProgram at h
  split at h
  next => cases h
  next g hread =>
    split at h
    next => cases h; exact .inl rfl
    next hkind =>
      cases h
      rcases Program.kind_of_read_eq_error hread with hvalue | htype | hinfinite
      · exact absurd (.inl hvalue) hkind
      · exact absurd (.inr htype) hkind
      · exact .inr hinfinite

theorem checkProgram_of_reachesInfinite {id : String} {program : Datum}
    {lines : List (Datum × Datum)} (hlines : program.opened = .map lines)
    (h : Program.ReachesInfinite lines) :
    checkProgram id .sparse program = .error .infiniteNumber := by
  unfold checkProgram
  rw [Program.read_of_reachesInfinite hlines h]
  rfl

/-- A program passes the check if and only if it can be read. -/
theorem checkProgram_eq_ok_iff {id : String} {a : Architecture} {program : Datum} :
    checkProgram id a program = .ok () ↔ ∃ p, Program.read a program = .ok p := by
  unfold checkProgram
  cases hread : Program.read a program with
  | ok p => exact iff_of_true rfl ⟨p, rfl⟩
  | error f =>
    refine iff_of_false (fun h => ?_) fun ⟨p, hp⟩ => nomatch hp
    dsimp only at h
    split at h <;> cases h

/-- Neither void nor a map. -/
def IsShapeless (d : Datum) : Prop := d.isVoid = false ∧ ∀ lines, d ≠ .map lines

theorem tame_registerOf (e : Datum × Datum) : Tame (registerOf e) :=
  (Datum.tame_shown _).bind fun _ _ => (Datum.tame_exact _).bind fun _ _ => tame_ok _

/-- Registers are read tamely, unless they are neither void nor a map. -/
theorem fault_of_registersField (h : registersField entries = .error f) : f.kind = .value ∨
    f = .lacksMember ∧ IsShapeless (writtenRegisters entries).opened := by
  unfold registersField at h
  split at h
  next lines hlines =>
    refine .inl (Tame.bind ?_ (fun _ _ => tame_ok _) f h)
    exact tame_mapM fun e _ => tame_registerOf e
  next hmap =>
    split at h
    next => cases h
    next hvoid => cases h; exact .inr ⟨rfl, by simpa using hvoid, hmap⟩

theorem registersField_of_isShapeless (h : IsShapeless (writtenRegisters entries).opened) :
    registersField entries = .error .lacksMember := by
  unfold registersField
  split
  next lines hlines => exact absurd hlines (h.2 lines)
  next => rw [if_neg (by rw [h.1]; exact Bool.false_ne_true)]

/-! ## Where reading a level breaks -/

/-- The places where reading the fields of a level breaks, by the kind of fault that it breaks
with. Everything that is read before such a place is in order. -/
inductive Breaks (entries : List (Datum × Datum)) : FaultKind → Prop
  /-- A key that is no text cannot be named in a notice. -/
  | key (hkey : HasStrangeKey entries) : Breaks entries .type
  /-- An infinite number is no line number. -/
  | line {h : Heading} {program : Datum} {lines : List (Datum × Datum)}
      (hkeys : ¬ HasStrangeKey entries) (hheading : heading entries = .ok h)
      (hsparse : h.architecture = .sparse) (hprogram : programField h.id entries = .ok program)
      (hlines : program.opened = .map lines) (hinfinite : Program.ReachesInfinite lines) :
      Breaks entries .overflow
  /-- Registers are looked for in what has none. -/
  | registers {h : Heading} {program : Datum} {p : Program}
      (hkeys : ¬ HasStrangeKey entries) (hheading : heading entries = .ok h)
      (hprogram : programField h.id entries = .ok program)
      (hread : Program.read h.architecture program = .ok p)
      (hregisters : IsShapeless (writtenRegisters entries).opened) : Breaks entries .attribute

/-- Past the heading and the program field, what is left are the check of the program and the
registers. -/
theorem ofEntries_of_heading {names : List String} {h : Heading} {program : Datum}
    (hnames : unknownFields entries = .ok names) (hheading : heading entries = .ok h)
    (hprogram : programField h.id entries = .ok program) :
    ofEntries entries = (checkProgram h.id h.architecture program >>= fun _ =>
      registersField entries >>= complete entries h program) := by
  unfold ofEntries
  rw [hnames, hheading]
  show (programField h.id entries >>= _) = _
  rw [hprogram]
  rfl

/-- Reading the fields of a level fails untamely where it breaks and nowhere else. -/
theorem failsAs_ofEntries_iff (hk : k ≠ .value) :
    FailsAs k (ofEntries entries) ↔ Breaks entries k := by
  rcases unknownFields_cases entries with ⟨hstrange, hfault⟩ | ⟨hplain, names, hnames⟩
  · -- With a strange key the first check fails, whatever else is wrong.
    have hlevel : ofEntries entries = .error .wrongType := by unfold ofEntries; rw [hfault]; rfl
    constructor
    · rintro ⟨f, hf, rfl⟩
      rw [hlevel] at hf
      cases hf
      exact .key hstrange
    · intro h
      cases h with
      | key => exact ⟨.wrongType, hlevel, rfl⟩
      | line hkeys => exact absurd hstrange hkeys
      | registers hkeys => exact absurd hstrange hkeys
  constructor
  · rintro ⟨f, hf, rfl⟩
    unfold ofEntries at hf
    rcases bind_eq_error hf with hf | ⟨-, -, hf⟩
    · rw [hnames] at hf; cases hf
    rcases bind_eq_error hf with hf | ⟨h, hheading, hf⟩
    · exact absurd (tame_heading f hf) hk
    rcases bind_eq_error hf with hf | ⟨program, hprogram, hf⟩
    · exact absurd (tame_programField _ f hf) hk
    rcases bind_eq_error hf with hf | ⟨_, hcheck, hf⟩
    · rcases fault_of_checkProgram hf with hvalue | ⟨rfl, hsparse, lines, hlines, hinfinite⟩
      · exact absurd hvalue hk
      · exact .line hplain hheading hsparse hprogram hlines hinfinite
    rcases bind_eq_error hf with hf | ⟨registers, -, hf⟩
    · rcases fault_of_registersField hf with hvalue | ⟨rfl, hregisters⟩
      · exact absurd hvalue hk
      · obtain ⟨p, hread⟩ := checkProgram_eq_ok_iff.mp hcheck
        exact .registers hplain hheading hprogram hread hregisters
    · exact absurd (tame_complete _ _ _ f hf) hk
  · intro h
    cases h with
    | key hkey => exact absurd hkey hplain
    | line _ hheading hsparse hprogram hlines hinfinite =>
      refine ⟨.infiniteNumber, ?_, rfl⟩
      rw [ofEntries_of_heading hnames hheading hprogram, hsparse,
        checkProgram_of_reachesInfinite hlines hinfinite]
      rfl
    | registers _ hheading hprogram hread hregisters =>
      refine ⟨.lacksMember, ?_, rfl⟩
      rw [ofEntries_of_heading hnames hheading hprogram, checkProgram_eq_ok_iff.mpr ⟨_, hread⟩,
        registersField_of_isShapeless hregisters]
      rfl

/-- The places where reading a level breaks: those of its fields. -/
def BreaksLevel (d : Datum) (k : FaultKind) : Prop :=
  ∃ entries, d.opened = .map entries ∧ Breaks entries k

theorem failsAs_read_iff (hk : k ≠ .value) : FailsAs k (read d) ↔ BreaksLevel d k := by
  unfold read BreaksLevel
  split
  next entries hentries =>
    rw [failsAs_ofEntries_iff hk]
    constructor
    · exact fun h => ⟨entries, hentries, h⟩
    · rintro ⟨entries', hentries', h⟩
      rw [hentries] at hentries'
      cases hentries'
      exact h
  next hmap =>
    refine iff_of_false ?_ fun ⟨entries, hentries, _⟩ => hmap entries hentries
    rintro ⟨f, hf, rfl⟩
    exact hk ((Datum.tame_literal d).bind (fun _ _ => tame_error rfl) f hf)

/-! ## Where reading a document breaks -/

/-- What is neither void nor can be gone through. -/
def IsUnlistable (d : Datum) : Prop := d.isVoid = false ∧ d.elements? = none

/-- The places where reading a document breaks, by the kind of fault that it breaks with. -/
inductive BreaksDocument (d : Datum) : FaultKind → Prop
  /-- Levels are looked for in what cannot be gone through. -/
  | levels {entries : List (Datum × Datum)} {v : Datum} (hentries : d.opened = .map entries)
      (hlevels : Datum.field? "levels" entries = some v) (hv : IsUnlistable v) :
      BreaksDocument d .type
  /-- Reading the first level that cannot be read breaks. -/
  | level {entries : List (Datum × Datum)} {before after : List Datum} {x : Datum} {k : FaultKind}
      (hentries : d.opened = .map entries)
      (hitems : itemsOf d entries = .ok (before ++ x :: after))
      (hbefore : ∀ y ∈ before, ∃ level, read y = .ok level) (hx : BreaksLevel x k) :
      BreaksDocument d k

theorem listed_eq_error_iff {v : Datum} :
    listed v = .error f ↔ IsUnlistable v ∧ f = .wrongType := by
  unfold listed IsUnlistable Datum.elements
  cases v.isVoid with
  | true => simp
  | false => cases v.elements? <;> simp [eq_comm]

theorem itemsOf_eq_error_iff {entries : List (Datum × Datum)} : itemsOf d entries = .error f ↔
    ∃ v, Datum.field? "levels" entries = some v ∧ IsUnlistable v ∧ f = .wrongType := by
  unfold itemsOf
  cases Datum.field? "levels" entries with
  | none => simp
  | some v => simp [listed_eq_error_iff]

theorem result_andThen {α β : Type} (r : Report α) (next : α → Report β) :
    (r.andThen next).result = r.result >>= fun a => (next a).result := by
  unfold Report.andThen
  cases r.result <;> rfl

/-- Without their notices, reports in order are readings in a row. -/
theorem result_all {α : Type} (rs : List (Report α)) :
    (Report.all rs).result = rs.mapM (·.result) := by
  induction rs with
  | nil => rfl
  | cons r rs ih =>
    rw [Report.all, List.mapM_cons, result_andThen, ← ih]
    congr 1
    funext a
    rw [result_andThen]
    rfl

theorem result_ofDocument (source : String) {entries : List (Datum × Datum)}
    (hentries : d.opened = .map entries) :
    (ofDocument source d).result = itemsOf d entries >>= List.mapM read := by
  unfold ofDocument
  simp only [hentries]
  cases itemsOf d entries with
  | error f => rfl
  | ok items =>
    show (Report.all (items.map report)).result = items.mapM read
    rw [result_all, List.mapM_map]
    rfl

/-- Reading a document fails untamely where it breaks and nowhere else. -/
theorem failsAs_result_iff (source : String) (hk : k ≠ .value) :
    FailsAs k (ofDocument source d).result ↔ BreaksDocument d k := by
  constructor
  · rintro ⟨f, hf, rfl⟩
    by_cases hmap : ∃ entries, d.opened = .map entries
    · obtain ⟨entries, hentries⟩ := hmap
      rw [result_ofDocument source hentries] at hf
      rcases bind_eq_error hf with hf | ⟨items, hitems, hf⟩
      · obtain ⟨v, hlevels, hv, rfl⟩ := itemsOf_eq_error_iff.mp hf
        exact .levels hentries hlevels hv
      · obtain ⟨before, x, after, rfl, hx, hbefore⟩ := mapM_eq_error_iff.mp hf
        exact .level hentries hitems hbefore ((failsAs_read_iff hk).mp ⟨f, hx, rfl⟩)
    · -- What is no map is refused as no level file.
      unfold ofDocument at hf
      split at hf
      next entries hentries => exact absurd ⟨entries, hentries⟩ hmap
      next => cases hf; exact absurd rfl hk
  · intro h
    cases h with
    | levels hentries hlevels hv =>
      refine ⟨.wrongType, ?_, rfl⟩
      rw [result_ofDocument source hentries, itemsOf_eq_error_iff.mpr ⟨_, hlevels, hv, rfl⟩]
      rfl
    | level hentries hitems hbefore hx =>
      obtain ⟨f, hf, hkind⟩ := (failsAs_read_iff hk).mpr hx
      refine ⟨f, ?_, hkind⟩
      rw [result_ofDocument source hentries, hitems]
      exact mapM_eq_error_iff.mpr ⟨_, _, _, rfl, hf, hbefore⟩

theorem BreaksLevel.ne_value (h : BreaksLevel d k) : k ≠ .value := by
  obtain ⟨entries, -, h⟩ := h
  cases h <;> decide

theorem BreaksDocument.ne_value (h : BreaksDocument d k) : k ≠ .value := by
  cases h with
  | levels => decide
  | level _ _ _ hx => exact hx.ne_value

/-! ## Shapes with which nothing breaks -/

/-- What a level writes in the field of its program. -/
def writtenProgram (entries : List (Datum × Datum)) : Datum :=
  (Datum.field? "program" entries).getD (.list [])

/-- All keys are texts, no line number is infinite, and the registers are void or a map. -/
structure IsWellShaped (entries : List (Datum × Datum)) : Prop where
  keys : ¬ HasStrangeKey entries
  lines : ∀ {lines}, (writtenProgram entries).opened = .map lines →
    ∀ e ∈ lines, ∀ negative, e.1 ≠ .float (.infinite negative)
  registers : ¬ IsShapeless (writtenRegisters entries).opened

/-- The program of a level is the listing that a text holds, numbered with whole numbers, or it is
the list or the map that was written. -/
theorem programField_eq_ok {id : String} {program : Datum}
    (h : programField id entries = .ok program) :
    (∃ text listing, (writtenProgram entries).opened = .text text ∧
        program = Program.listingDatum listing) ∨
      program = writtenProgram entries ∧
        ((∃ items, program.opened = .list items) ∨ ∃ lines, program.opened = .map lines) := by
  unfold programField at h
  dsimp only at h
  split at h
  next text htext =>
    obtain ⟨listing, -, h⟩ := bind_eq_ok h
    cases h
    exact .inl ⟨text, listing, htext, rfl⟩
  next items hitems => cases h; exact .inr ⟨rfl, .inl ⟨items, hitems⟩⟩
  next lines hlines => cases h; exact .inr ⟨rfl, .inr ⟨lines, hlines⟩⟩
  next => cases h

theorem IsWellShaped.not_breaks (hs : IsWellShaped entries) : ¬ Breaks entries k := by
  intro h
  cases h with
  | key hkey => exact hs.keys hkey
  | registers _ _ _ _ hregisters => exact hs.registers hregisters
  | line _ _ _ hprogram hlines hinfinite =>
    obtain ⟨before, negative, d, after, rfl, -⟩ := hinfinite
    have hmem := List.mem_append_right before
      (List.mem_cons_self (a := (Datum.float (.infinite negative), d)) (l := after))
    rcases programField_eq_ok hprogram with ⟨text, listing, -, rfl⟩ | ⟨rfl, -⟩
    · -- A listing numbers its lines with whole numbers.
      rw [← Datum.map.inj hlines] at hmem
      obtain ⟨e, -, he⟩ := List.mem_map.mp hmem
      exact nomatch congrArg Prod.fst he
    · exact hs.lines hlines _ hmem negative rfl

/-- **Reading a level or a document succeeds or refuses the data, except where it breaks.** It
breaks with other kinds of fault at the places that `BreaksLevel` and `BreaksDocument` list and
nowhere else; a level of the right shapes has no such place. -/
theorem tame_reading_iff (source : String) (d : Datum) :
    (Tame (read d) ↔ ∀ k, ¬ BreaksLevel d k) ∧
      (Tame (ofDocument source d).result ↔ ∀ k, ¬ BreaksDocument d k) ∧
      (∀ k, k ≠ .value → (FailsAs k (read d) ↔ BreaksLevel d k) ∧
        (FailsAs k (ofDocument source d).result ↔ BreaksDocument d k)) ∧
      ((∀ entries, d.opened = .map entries → IsWellShaped entries) → Tame (read d)) := by
  have hlevel : Tame (read d) ↔ ∀ k, ¬ BreaksLevel d k :=
    tame_iff_of_failsAs (fun _ => BreaksLevel.ne_value) fun _ => failsAs_read_iff
  have hdocument : Tame (ofDocument source d).result ↔ ∀ k, ¬ BreaksDocument d k :=
    tame_iff_of_failsAs (fun _ => BreaksDocument.ne_value) fun _ => failsAs_result_iff source
  refine ⟨hlevel, hdocument, fun k hk => ⟨failsAs_read_iff hk, failsAs_result_iff source hk⟩, ?_⟩
  intro hshape
  rw [hlevel]
  rintro k ⟨entries, hentries, hbreaks⟩
  exact (hshape entries hentries).not_breaks hbreaks

/-- The fields of a level with a program and registers. -/
def fieldsOf (program registers : Datum) : List (Datum × Datum) :=
  [(.text "name", .text "x"), (.text "program", program), (.text "initial_registers", registers)]

/-- Not every document is read or refused: what it lists may be a number, a level may have a number
as its key, a program may have an infinite line number, and registers may be a list. -/
theorem breaking_documents :
    let registers : Datum := .map [(.text "A", .int 0), (.text "T", .int 0)]
    let infinite : Datum := .map [(.float (.infinite false), .text "DEFUSE")]
    let result : List (Datum × Datum) → Except Fault (List Level) := fun entries =>
      (ofDocument "levels" (.map entries)).result
    FailsAs .type (result [(.text "levels", .int 5)]) ∧
      FailsAs .type (result ((.int 1, .text "x") :: fieldsOf (.list []) registers)) ∧
      FailsAs .overflow (result (fieldsOf infinite registers)) ∧
      FailsAs .attribute (result (fieldsOf (.list []) (.list [.text "A"]))) :=
  ⟨⟨.wrongType, rfl, rfl⟩, ⟨.wrongType, rfl, rfl⟩, ⟨.infiniteNumber, rfl, rfl⟩,
    ⟨.lacksMember, rfl, rfl⟩⟩

end Level

end Defusal
