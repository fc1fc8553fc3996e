import Mathlib.Tactic.Choose
import Defusal.Proofs.Instruction.Listing
import Defusal.Proofs.Level.Kept

/-!
# The ways to write a program

The program of a sparse level can be written as a list of texts, as a map from line numbers to texts
and as one text that lists the numbered lines. Each is read in a way of its own, and the three come
to the same. For texts of one instruction each, numbered from one, all of them store the instructions
of the texts under their numbers (`Program.read_list`, `Program.read_map`, `Program.read_listing`);
in the map and in the listing the order does not matter (`Program.ofList_parsed`).

So a level may be written in any of these ways (`Level.writings_agree`): what its other fields give
stays, and the game starts on the same program.
-/

namespace Defusal

open Instruction (ofLine? listingLine listed_of_mapM assembleText_eq_ok IsBlock isBlock_intercalate)

/-! ## Programs -/

namespace Program

variable {parse : String → Instruction} {texts : List String} {rows : List (String × Nat)}

/-- The instructions of numbered texts, under their numbers. -/
def parsed (parse : String → Instruction) (rows : List (String × Nat)) : List (Int × Instruction) :=
  rows.map fun e => ((e.2 : Int), parse e.1)

theorem parsed_zipIdx (parse : String → Instruction) (texts : List String) :
    parsed parse (texts.zipIdx 1) = numbered 1 (texts.map parse) := by
  refine List.ext_getElem? fun n => ?_
  unfold parsed
  rw [List.getElem?_map, List.getElem?_zipIdx, getElem?_numbered, List.getElem?_map, Option.map_map,
    Option.map_map]
  cases texts[n]? with
  | none => rfl
  | some s => exact congrArg (fun line => some (line, parse s)) (Int.natCast_add 1 n)

theorem keys_parsed (hrows : rows.Perm (texts.zipIdx 1)) :
    ((parsed parse rows).map Prod.fst).Nodup := by
  have hperm : (parsed parse rows).Perm (numbered 1 (texts.map parse)) :=
    (hrows.map _).trans (.of_eq (parsed_zipIdx parse texts))
  exact (hperm.map Prod.fst).nodup_iff.mpr (nodup_numbered 1 _)

/-- Texts that are numbered in order give the same program in any order. -/
theorem ofList_parsed (hrows : rows.Perm (texts.zipIdx 1)) :
    SparseProgram.ofList (parsed parse rows) = .ofList (numbered 1 (texts.map parse)) := by
  rw [← parsed_zipIdx]
  exact ofList_of_perm (hrows.map _) (keys_parsed (.refl _))

theorem ofDatum_text {s : String} {i : Instruction} (h : ofLine? s = .ok (some i)) :
    Instruction.ofDatum (.text s) = .ok i := by
  show (do return (← ofLine? s).getD .idle) = Except.ok i
  rw [h]
  rfl

/-- A list of texts stores their instructions from the first line on. -/
theorem read_list (h : ∀ s ∈ texts, ofLine? s = .ok (some (parse s))) :
    read .sparse (.list (texts.map .text))
      = .ok (.sparse (.ofList (numbered 1 (texts.map parse)))) := by
  have hcode : ofElements (.list (texts.map .text)) = .ok (texts.map parse) :=
    mapM_map_eq_ok fun s hs => ofDatum_text (h s hs)
  show (do return sparse (.ofList (numbered 1 (← ofElements _)))) = _
  rw [hcode]
  rfl

/-- A map from numbers to texts stores their instructions under their numbers. -/
theorem read_map (h : ∀ e ∈ rows, ofLine? e.1 = .ok (some (parse e.1))) :
    read .sparse (.map (rows.map fun e => (.int e.2, .text e.1)))
      = .ok (.sparse (.ofList (parsed parse rows))) := by
  have hlines : (rows.map fun e => (Datum.int e.2, Datum.text e.1)).mapM entryOf
      = .ok (parsed parse rows) :=
    mapM_map_eq_ok fun e he => entryOf_eq_ok_iff.mpr ⟨rfl, ofDatum_text (h e he)⟩
  show (do return sparse (.ofList (← List.mapM entryOf _))) = _
  rw [hlines]
  rfl

/-- A table of instructions stores its rows. -/
theorem read_listing (listing : Table Int Instruction) :
    read .sparse (listingDatum listing) = .ok (.sparse (.ofList listing.toList)) := by
  have hlines : (listing.toList.map fun e => (Datum.int e.1, e.2.toDatum)).mapM entryOf
      = .ok (listing.toList.map fun e => e) :=
    mapM_map_eq_ok fun e _ => entryOf_eq_ok_iff.mpr ⟨rfl, rfl⟩
  show (do return sparse (.ofList (← List.mapM entryOf _))) = _
  rw [hlines, List.map_id']
  rfl

/-- A block of numbered lines stores their instructions under their numbers. -/
theorem exists_read_block {lines : List String} {block : String} (hrows : rows.Perm (texts.zipIdx 1))
    (h : ∀ e ∈ rows, '\n' ∉ e.1.toList ∧ ofLine? e.1 = .ok (some (parse e.1)))
    (hlines : rows.mapM listingLine = .ok lines) (hblock : IsBlock lines block) :
    ∃ listing, Instruction.assembleText block = .ok listing ∧
      read .sparse (listingDatum listing) = .ok (.sparse (.ofList (parsed parse rows))) := by
  refine ⟨.ofList (parsed parse rows),
    assembleText_eq_ok hblock (listed_of_mapM hlines h) (keys_parsed hrows), ?_⟩
  rw [read_listing, Table.toList_ofList (keys_parsed hrows)]

/-- A program stores the instructions of texts, numbered from one, and nothing else. -/
structure StoresTexts (p : Program) (texts : List String) : Prop where
  get?_eq : ∀ (n : Nat) (s : String) (i : Instruction), texts[n]? = some s →
    ofLine? s = .ok (some i) → p.get? (n + 1) = some i
  size_eq : p.size = texts.length

theorem storesTexts_ofList (h : ∀ s ∈ texts, ofLine? s = .ok (some (parse s))) :
    StoresTexts (.sparse (.ofList (numbered 1 (texts.map parse)))) texts where
  get?_eq n s i hs hi := by
    obtain rfl : parse s = i :=
      Option.some.inj (Except.ok.inj ((h s (List.mem_of_getElem? hs)).symm.trans hi))
    rw [Int.add_comm]
    refine (get?_ofList_numbered 1 _ n).trans ?_
    rw [List.getElem?_map, hs]
    rfl
  size_eq := by
    rw [(stores_ofList _).size_eq_length_iff.mpr (nodup_numbered 1 _), length_numbered,
      List.length_map]

end Program

/-! ## Levels -/

namespace Level

variable {before after : List (Datum × Datum)} {level : Level} {program kept : Datum} {p : Program}

/-- The fields of a level with one for its program between them. -/
def withProgram (before after : List (Datum × Datum)) (program : Datum) : List (Datum × Datum) :=
  before ++ (.text "program", program) :: after

theorem field?_withProgram {name : String} (h : name ≠ "program") :
    Datum.field? name (withProgram before after program) = Datum.field? name (before ++ after) := by
  have hne : Datum.text "program" ≠ .text name := fun heq => h (Datum.text.inj heq).symm
  unfold withProgram
  rw [Datum.field?_append, Datum.field?_append, Datum.field?_cons_of_ne hne]

theorem textField_withProgram {name byDefault : String} (h : name ≠ "program") :
    textField (withProgram before after program) name byDefault
      = textField (before ++ after) name byDefault := by
  unfold textField
  rw [field?_withProgram h]

theorem field?_program_withProgram (h : Datum.field? "program" (before ++ after) = none) :
    Datum.field? "program" (withProgram before after program) = some program := by
  rw [Datum.field?_append, Option.or_eq_none_iff] at h
  unfold withProgram
  rw [Datum.field?_append, h.1, Option.none_or]
  exact if_pos rfl

/-- A field for the program changes nothing but the program. -/
theorem Describes.withProgram (h : Describes (before ++ after) level)
    (hprogram : programField level.id (withProgram before after program) = .ok kept)
    (hread : Program.read level.architecture kept = .ok p) :
    Describes (withProgram before after program) { level with program := kept } where
  keys := by
    rintro ⟨e, he, hstrange⟩
    rcases List.mem_append.mp he with he | he
    · exact h.keys ⟨e, List.mem_append_left _ he, hstrange⟩
    rcases List.mem_cons.mp he with rfl | he
    · exact hstrange _ rfl
    · exact h.keys ⟨e, List.mem_append_right _ he, hstrange⟩
  name := by
    have hname := h.name
    unfold nameField at hname ⊢
    rwa [field?_withProgram (by decide), textField_withProgram (by decide)]
  id := (textField_withProgram (by decide)).trans h.id
  architecture := by
    have harchitecture := h.architecture
    unfold architectureField at harchitecture ⊢
    rwa [textField_withProgram (by decide)]
  program := hprogram
  readable := ⟨p, hread⟩
  registers := by
    have hregisters := h.registers
    unfold registersField writtenRegisters at hregisters ⊢
    rwa [field?_withProgram (by decide), field?_withProgram (by decide)]
  clock := h.clock
  playerRegister := (textField_withProgram (by decide)).trans h.playerRegister
  player := h.player
  description := (textField_withProgram (by decide)).trans h.description
  order := by
    rw [field?_withProgram (by decide)]
    exact h.order

/-- Fields are accepted as those of a level but for its program, and the game starts on a program. -/
def StartsOn (p : Program) (entries : List (Datum × Datum)) (level : Level) : Prop :=
  ∃ kept s, read (.map entries) = .ok { level with program := kept } ∧
    Session.ofDatum (.map entries) = .ok s ∧ s.program = p

theorem startsOn_withProgram (h : Describes (before ++ after) level)
    (hprogram : programField level.id (withProgram before after program) = .ok kept)
    (hread : Program.read level.architecture kept = .ok p) :
    StartsOn p (withProgram before after program) level := by
  have hlevel : read (.map (withProgram before after program)) = .ok { level with program := kept } :=
    read_eq_ok_iff.mpr ⟨_, rfl, h.withProgram hprogram hread⟩
  obtain ⟨s, hs, hp⟩ : ∃ s, Session.create { level with program := kept } = .ok s ∧ s.program = p :=
    exists_create hread
  refine ⟨kept, s, hlevel, ?_, hp⟩
  unfold Session.ofDatum
  rw [hlevel, ok_bind, hs]

/-- Texts that are all short enough to be numbered have the lines of a listing. -/
theorem exists_mapM_listingLine {texts : List String} {rows : List (String × Nat)}
    (hrows : rows.Perm (texts.zipIdx 1)) (h : texts.length < Numeral.writeLimit) :
    ∃ lines, rows.mapM listingLine = .ok lines := by
  refine exists_mapM_iff.mpr fun e he => exists_bind_pure_iff.mpr (Numeral.exists_write_iff.mpr ?_)
  have hnumber := List.snd_lt_of_mem_zipIdx (hrows.mem_iff.mp he)
  exact Nat.lt_of_le_of_lt (Nat.le_of_lt_succ hnumber) h

open Program in
/-- **The ways to write a program agree.** Where the other fields give a sparse level, texts of one
instruction each may be its program in any of them: as a list, as a map of the numbered texts in any
order, and as a text that is cut into the numbered lines in any order, such as the lines with a line
feed between each two. All are accepted, the other fields give what they gave, and the games start on
the same program. Only of so many texts that their number is too long to be written there is no
listing. -/
theorem writings_agree {texts : List String} (hlevel : read (.map (before ++ after)) = .ok level)
    (hsparse : level.architecture = .sparse)
    (hfields : Datum.field? "program" (before ++ after) = none)
    (hends : ∀ s ∈ texts, ∀ c ∈ s.toList, Text.isLineEnd c = false)
    (htexts : ∀ s ∈ texts, ∃ i, ofLine? s = .ok (some i)) :
    ∃ p : Program, p.StoresTexts texts ∧
      StartsOn p (withProgram before after (.list (texts.map .text))) level ∧
      ∀ rows : List (String × Nat), rows.Perm (texts.zipIdx 1) →
        StartsOn p
          (withProgram before after (.map (rows.map fun e => (.int e.2, .text e.1)))) level ∧
        (texts.length < Numeral.writeLimit → ∃ lines, rows.mapM listingLine = .ok lines) ∧
        ∀ lines, rows.mapM listingLine = .ok lines → IsBlock lines ("\n".intercalate lines) ∧
          ∀ block, IsBlock lines block →
            StartsOn p (withProgram before after (.text block)) level := by
  obtain ⟨entries, hentries, hd⟩ := read_eq_ok_iff.mp hlevel
  obtain rfl : before ++ after = entries := Datum.map.inj hentries
  choose! parse hparse using htexts
  have hfield : ∀ program, Datum.field? "program" (withProgram before after program) = some program :=
    fun program => field?_program_withProgram hfields
  have hrow : ∀ {rows : List (String × Nat)}, rows.Perm (texts.zipIdx 1) → ∀ e ∈ rows, e.1 ∈ texts :=
    fun hrows e he => List.fst_mem_of_mem_zipIdx (hrows.mem_iff.mp he)
  refine ⟨_, storesTexts_ofList hparse, ?list, fun rows hrows => ⟨?map, ?_, fun lines hlines =>
    ⟨?_, fun block hblock => ?listing⟩⟩⟩
  case list =>
    refine startsOn_withProgram hd (programField_of_shape (hfield _) (.inl ⟨_, rfl⟩)) ?_
    rw [hsparse, read_list hparse]
  case map =>
    refine startsOn_withProgram hd (programField_of_shape (hfield _) (.inr ⟨_, rfl⟩)) ?_
    rw [hsparse, read_map fun e he => hparse e.1 (hrow hrows e he), ofList_parsed hrows]
  case listing =>
    have hplain : ∀ e ∈ rows, '\n' ∉ e.1.toList ∧ ofLine? e.1 = .ok (some (parse e.1)) :=
      fun e he => ⟨fun hmem => absurd (hends e.1 (hrow hrows e he) _ hmem) (by decide),
        hparse e.1 (hrow hrows e he)⟩
    obtain ⟨listing, hlisting, hread⟩ := exists_read_block hrows hplain hlines hblock
    refine startsOn_withProgram hd (programField_of_text (hfield _) hlisting) ?_
    rw [hsparse, hread, ofList_parsed hrows]
  · exact exists_mapM_listingLine hrows
  · exact isBlock_intercalate hlines fun e he => hends e.1 (hrow hrows e he)

/-- Instructions with comments, arrows, colons and odd blanks. -/
def annotated : List String :=
  ["  add A, 1 -> A ; 2: no line", "CJUMP A < 10: 3 ;;", "\tcopy 1→ -7,"]

/-- The fields of a level before its program. -/
def beforeProgram : List (Datum × Datum) := [(.text "name", .text "Notes"), (.text "order", .int 3)]

/-- The fields of a level after its program. -/
def afterProgram : List (Datum × Datum) :=
  [(.text "initialRegisters", .map [(.text "A", .text "0x10"), (.text "T", .int 0)])]

/-- The ways to write `annotated`: its listing has the lines in reverse, with line ends of two kinds and
one after the last line. -/
theorem writings_agree_annotated : ∃ level p, read (.map (beforeProgram ++ afterProgram)) = .ok level ∧
    level.name = "Notes" ∧ p.StoresTexts annotated ∧
    StartsOn p (withProgram beforeProgram afterProgram (.list (annotated.map .text))) level ∧
    StartsOn p (withProgram beforeProgram afterProgram
      (.map ((annotated.zipIdx 1).map fun e => (.int e.2, .text e.1)))) level ∧
    StartsOn p (withProgram beforeProgram afterProgram (.text
      "3: \tcopy 1→ -7,\r\n2: CJUMP A < 10: 3 ;;\n1:   add A, 1 -> A ; 2: no line\n")) level := by
  let level := (read (.map (beforeProgram ++ afterProgram))).toOption.getD default
  have hlevel : read (.map (beforeProgram ++ afterProgram)) = .ok level :=
    eq_ok_getD (by decide +kernel) default
  have hplain : annotated.all (fun s => s.toList.all (!Text.isLineEnd ·)) = true := by decide +kernel
  have hends : ∀ s ∈ annotated, ∀ c ∈ s.toList, Text.isLineEnd c = false := fun s hs c hc =>
    (Bool.not_eq_true' _).mp (List.all_eq_true.mp (List.all_eq_true.mp hplain s hs) c hc)
  obtain ⟨p, hp, hlist, hrows⟩ := writings_agree hlevel (by decide +kernel) rfl hends
    (by decide +kernel)
  obtain ⟨hmap, -, -⟩ := hrows (annotated.zipIdx 1) (.refl _)
  obtain ⟨-, -, hblocks⟩ := hrows (annotated.zipIdx 1).reverse (List.reverse_perm _)
  obtain ⟨-, hblock⟩ := hblocks _ (eq_ok_getD (by decide +kernel) [])
  exact ⟨level, p, hlevel, by decide +kernel, hp, hlist, hmap, hblock _ (by decide +kernel)⟩

end Level

end Defusal
