import Defusal.Proofs.Level.Refusal

/-!
# What the fields of a level describe

Reading a level goes through its fields one by one. `Level.Describes entries level` says the same
without an order: which part of the level each field gives, and what has to be in order with it.
`ofEntries_eq_ok_iff` and `read_eq_ok_iff` say that a level is read from its fields if and only if
they describe it, so nobody who knows what the fields are has to follow the reading any more.

A field is looked up by its name. Where each name occurs once, it does not matter where
(`Datum.field?_of_mem`).
-/

namespace Defusal

/-! ## Looking up fields -/

namespace Datum

variable {name : String} {entries : List (Datum × Datum)} {d : Datum}

theorem field?_cons_of_ne {e : Datum × Datum} (h : e.1 ≠ .text name) :
    field? name (e :: entries) = field? name entries := by
  obtain ⟨key, v⟩ := e
  cases key with
  | text s => exact if_neg fun hs => h (congrArg text hs)
  | _ => rfl

theorem field?_append (name : String) (entries after : List (Datum × Datum)) :
    field? name (entries ++ after) = (field? name entries).or (field? name after) := by
  induction entries with
  | nil => rfl
  | cons e entries ih =>
    by_cases h : e.1 = .text name
    · obtain ⟨key, v⟩ := e
      obtain rfl : key = .text name := h
      show (if name = name then some v else _) = (if name = name then some v else _ : Option Datum).or _
      rw [if_pos rfl, if_pos rfl]
      rfl
    · rw [List.cons_append, field?_cons_of_ne h, field?_cons_of_ne h, ih]

theorem field?_eq_none (h : ∀ e ∈ entries, e.1 ≠ text name) : field? name entries = none := by
  induction entries with
  | nil => rfl
  | cons e entries ih =>
    obtain ⟨hhead, htail⟩ := List.forall_mem_cons.mp h
    rw [field?_cons_of_ne hhead, ih htail]

/-- A field that occurs once is found. -/
theorem field?_of_mem (h : (text name, d) ∈ entries) (hkeys : (entries.map Prod.fst).Nodup) :
    field? name entries = some d := by
  obtain ⟨before, after, rfl⟩ := List.append_of_mem h
  rw [List.map_append, List.map_cons] at hkeys
  have hbefore : ∀ e ∈ before, e.1 ≠ text name := fun e he heq =>
    (List.nodup_append.mp hkeys).2.2 e.1 (List.mem_map_of_mem he) _ (List.mem_cons_self ..) heq
  rw [field?_append, field?_eq_none hbefore]
  exact if_pos rfl

end Datum

namespace Level

variable {entries : List (Datum × Datum)} {d : Datum} {level : Level}

/-! ## What is read from the fields -/

/-- The fields of a map describe a level. -/
structure Describes (entries : List (Datum × Datum)) (level : Level) : Prop where
  keys : ¬ HasStrangeKey entries
  name : nameField entries = .ok level.name
  id : textField entries "id" level.name = .ok level.id
  architecture : architectureField level.id entries = .ok level.architecture
  program : programField level.id entries = .ok level.program
  readable : ∃ p, Program.read level.architecture level.program = .ok p
  registers : registersField entries = .ok level.registers
  clock : level.registers.contains clockName = true
  playerRegister : textField entries "player_register" "A" = .ok level.playerRegister
  player : level.registers.contains level.playerRegister = true
  description : textField entries "description" "" = .ok level.description
  order : ((Datum.field? "order" entries).getD (.int 0)).exact = .ok level.order

/-- A program that is written as a list or a map is kept. -/
theorem programField_of_shape {id : String} (h : Datum.field? "program" entries = some d)
    (hshape : (∃ items, d.opened = .list items) ∨ ∃ lines, d.opened = .map lines) :
    programField id entries = .ok d := by
  unfold programField
  rw [h]
  dsimp only [Option.getD_some]
  rcases hshape with ⟨items, hitems⟩ | ⟨lines, hlines⟩
  · rw [hitems]; rfl
  · rw [hlines]; rfl

/-- Of a program that is written as a text its listing is kept. -/
theorem programField_of_text {id block : String} {listing : Table Int Instruction}
    (h : Datum.field? "program" entries = some (.text block))
    (hlisting : Instruction.assembleText block = .ok listing) :
    programField id entries = .ok (Program.listingDatum listing) := by
  unfold programField
  rw [h]
  show (do return Program.listingDatum (← Instruction.assembleText block)) = _
  rw [hlisting]
  rfl

theorem require_eq_ok_iff {holds : Bool} {f : Fault} : require holds f = .ok () ↔ holds = true := by
  unfold require
  split
  next h => exact iff_of_true rfl h
  next h => exact iff_of_false (nomatch ·) h

theorem Describes.of_ofEntries (h : ofEntries entries = .ok level) : Describes entries level := by
  obtain ⟨names, hnames, h⟩ := bind_eq_ok h
  obtain ⟨hd, hheading, h⟩ := bind_eq_ok h
  obtain ⟨program, hprogram, h⟩ := bind_eq_ok h
  obtain ⟨⟨⟩, hcheck, h⟩ := bind_eq_ok h
  obtain ⟨registers, hregisters, h⟩ := bind_eq_ok h
  obtain ⟨name, hname, hheading⟩ := bind_eq_ok hheading
  obtain ⟨id, hid, hheading⟩ := bind_eq_ok hheading
  obtain ⟨architecture, harchitecture, hheading⟩ := bind_eq_ok hheading
  cases hheading
  obtain ⟨⟨⟩, hclock, h⟩ := bind_eq_ok h
  obtain ⟨playerRegister, hplayerRegister, h⟩ := bind_eq_ok h
  obtain ⟨⟨⟩, hplayer, h⟩ := bind_eq_ok h
  obtain ⟨description, hdescription, h⟩ := bind_eq_ok h
  obtain ⟨order, horder, h⟩ := bind_eq_ok h
  cases h
  have hkeys : ¬ HasStrangeKey entries := by
    rcases unknownFields_cases entries with ⟨-, hfault⟩ | ⟨hplain, -⟩
    · exact nomatch hnames.symm.trans hfault
    · exact hplain
  exact ⟨hkeys, hname, hid, harchitecture, hprogram, checkProgram_eq_ok_iff.mp hcheck, hregisters,
    require_eq_ok_iff.mp hclock, hplayerRegister, require_eq_ok_iff.mp hplayer, hdescription, horder⟩

/-- **A level is read from fields if and only if they describe it.** -/
theorem ofEntries_eq_ok_iff : ofEntries entries = .ok level ↔ Describes entries level := by
  refine ⟨.of_ofEntries, fun h => ?_⟩
  have hnames : ∃ names, unknownFields entries = .ok names := by
    rcases unknownFields_cases entries with ⟨hstrange, -⟩ | ⟨-, hnames⟩
    · exact absurd hstrange h.keys
    · exact hnames
  obtain ⟨names, hnames⟩ := hnames
  have hheading : heading entries = .ok ⟨level.name, level.id, level.architecture⟩ := by
    unfold heading
    rw [h.name, ok_bind, h.id, ok_bind, h.architecture]
    rfl
  have hcomplete : complete entries ⟨level.name, level.id, level.architecture⟩ level.program
      level.registers = .ok level := by
    unfold complete
    rw [require_eq_ok_iff.mpr h.clock, ok_bind, h.playerRegister, ok_bind,
      require_eq_ok_iff.mpr h.player, ok_bind, h.description, ok_bind, h.order]
    rfl
  rw [ofEntries_of_heading hnames hheading h.program, checkProgram_eq_ok_iff.mpr h.readable,
    ok_bind, h.registers, ok_bind, hcomplete]

theorem read_eq_ok_iff : read d = .ok level ↔
    ∃ entries, d.opened = .map entries ∧ Describes entries level := by
  unfold read
  split
  next entries hentries =>
    rw [ofEntries_eq_ok_iff]
    constructor
    · exact fun h => ⟨entries, hentries, h⟩
    · rintro ⟨entries', hentries', h⟩
      cases hentries.symm.trans hentries'
      exact h
  next hmap =>
    refine iff_of_false (fun h => ?_) fun ⟨entries, hentries, _⟩ => hmap entries hentries
    obtain ⟨_, -, h⟩ := bind_eq_ok h
    cases h

end Level

end Defusal
