import Defusal.CommandLine
import Defusal.Proofs.Level.Refusal
import Defusal.Proofs.Window.Input
import Defusal.Yaml.Document

/-!
# How the program starts

The files that the arguments name are read in their order, and the first that cannot be read decides
how the program starts. Its fault is reported if it is of one of the kinds that are accounted for
(`Reported`); files that cannot be opened, bytes that are no text and levels that are refused are of
these. A document that is malformed is not, and neither are the places where reading levels from
data breaks: there the fault escapes (`Escapes`).

What the program is started in is given: the files, the reader of documents, the output. Of the
reader nothing is known but that it refuses malformed text with a fault of a document. So the
program starts with a window or a report, except for such files and for a report that cannot be
written (`opens_or_reports`), and not always (`malformed_escapes`).
-/

namespace Defusal

/-! ## Reading files -/

namespace Text

theorem failsOnly_decodeFrom (fuel position : Nat) (bytes : List Nat) :
    FailsOnly (fun f => f.kind = .undecodable) (decodeFrom fuel position bytes) := by
  induction fuel generalizing position bytes with
  | zero => exact failsOnly_ok _
  | succ fuel ih =>
    cases bytes with
    | nil => exact failsOnly_ok _
    | cons lead rest =>
      unfold decodeFrom
      dsimp only
      split
      · exact failsOnly_error rfl
      · split
        · exact (ih _ _).bind fun _ _ => failsOnly_ok _
        · split
          · exact failsOnly_ok _
          · exact failsOnly_error rfl

theorem kind_of_decodePortions {fuel : Nat} {left bytes : List Nat} {f : Fault}
    (h : (decodePortions fuel left bytes).2 = some f) : f.kind = .undecodable := by
  induction fuel generalizing left bytes with
  | zero => cases h
  | succ fuel ih =>
    unfold decodePortions at h
    split at h
    · dsimp only at h
      split at h
      · cases h
      · cases h; rfl
    · dsimp only at h
      split at h
      next => exact ih h
      next g hg => cases h; exact failsOnly_decodeFrom _ _ _ _ hg

/-- Bytes are refused for being no text and for nothing else. -/
theorem kind_of_decode {bytes : ByteArray} {f : Fault} (h : (decode bytes).2 = some f) :
    f.kind = .undecodable :=
  kind_of_decodePortions h

end Text

/-- The fault of a file that is no text is that of bytes that cannot be decoded. -/
theorem Source.kind_of_ofBytes {bytes : ByteArray} {chars : List Char} {f : Fault}
    (h : Source.ofBytes bytes = .file chars (some f)) : f.kind = .undecodable := by
  have hfault : (Text.decode bytes).2 = some f := (Source.file.inj h).2
  exact Text.kind_of_decode hfault

namespace Level

theorem result_ofBytes (document : Source → Except Fault Datum) (path : String)
    (bytes : ByteArray) : (ofBytes document path bytes).result =
      document (.ofBytes bytes) >>= fun d => (ofDocument path d).result := by
  unfold ofBytes ofSource
  cases document (.ofBytes bytes) <;> rfl

/-- The levels of a document are read from data. -/
theorem exists_read_of_mem {path : String} {d : Datum} {levels : List Level} {level : Level}
    (h : (ofDocument path d).result = .ok levels) (hlevel : level ∈ levels) :
    ∃ d', read d' = .ok level := by
  cases hopened : d.opened with
  | map entries =>
    rw [result_ofDocument path hopened] at h
    obtain ⟨items, -, h⟩ := bind_eq_ok h
    obtain ⟨d', -, hd'⟩ := exists_of_mem_mapM h hlevel
    exact ⟨d', hd'⟩
  | _ =>
    unfold ofDocument at h
    rw [hopened] at h
    cases h

theorem isPlayable_of_bundled : ∀ level ∈ bundled, level.IsPlayable := by
  have h : ∀ level ∈ bundled, level.registers.get? level.playerRegister = some level.firstValue ∧
      ∃ p, Program.read level.architecture level.program = .ok p := by decide +kernel
  exact fun level hlevel => ⟨(h level hlevel).1, (h level hlevel).2⟩

end Level

/-! ## Opening the window -/

namespace Window

variable {levels : List Level}

/-- The game of the first level, if there is a level, can be written. -/
def Startable (levels : List Level) : Prop :=
  ∀ level s, levels.head? = some level → Session.create level = .ok s → s.Presentable

theorem startable_bundled : Startable Level.bundled := by
  let s := (Session.create Level.tutorial).toOption.getD default
  have hs : Session.create Level.tutorial = .ok s := eq_ok_getD (by decide +kernel) default
  have hp : s.Presentable := by decide +kernel
  intro level t hlevel ht
  cases hlevel
  cases hs.symm.trans ht
  exact hp

/-- A new window chooses its first level, if there is one. -/
theorem openOn_eq (fonts : FontCatalogue) (levels : List Level) :
    openOn fonts levels =
      if levels = [] then (new fonts levels, none)
      else { new fonts levels with row := some 0 }.selectLevel (some 0) := by
  have hplace : (new fonts levels).place? 0 = if levels = [] then none else some 0 := by
    show (if (0 : Int) ≤ 0 ∧ (0 : Int) < levels.length then some (0 : Int).toNat else none) = _
    cases levels with
    | nil => rfl
    | cons level rest => simp
  unfold openOn chooseRow
  rw [hplace]
  split
  next h => rw [h]; rfl
  next => rfl

/-- **A window opens unbroken if and only if the game of the first level can be written.** -/
theorem fault_openOn_eq_none_iff (fonts : FontCatalogue)
    (hplayable : ∀ level ∈ levels, level.IsPlayable) :
    (openOn fonts levels).2 = none ↔ Startable levels := by
  rw [openOn_eq]
  cases levels with
  | nil => exact iff_of_true rfl fun level s h => nomatch h
  | cons level rest =>
    have hlevel := hplayable level (List.mem_cons_self ..)
    obtain ⟨s, hs⟩ := Session.exists_create hlevel
    have hfirst : ((some 0).bind fun n => (level :: rest)[n]?) = some level := rfl
    obtain ⟨v, hv, -⟩ := selectLevel_eq (w := { new fonts (level :: rest) with row := some 0 })
      hlevel hfirst hs
    rw [if_neg (List.cons_ne_nil _ _), hv, display_eq_none_iff]
    constructor
    · intro hp first t hfirst ht
      cases hfirst
      cases hs.symm.trans ht
      exact hp
    · exact fun h => h level s rfl hs

/-- A window opens on its levels with the game of the first, also where showing that game is broken
off. -/
theorem levels_openOn (fonts : FontCatalogue) (hplayable : ∀ level ∈ levels, level.IsPlayable) :
    (openOn fonts levels).1.levels = levels ∧
      (openOn fonts levels).1.session.map (·.level) = levels.head? := by
  have hcreate : ∀ level ∈ levels, ∃ s, Session.create level = .ok s :=
    fun level hlevel => Session.exists_create (hplayable level hlevel)
  have hsound : Sound levels _ (openOn fonts levels).1 :=
    (sound_new fonts levels).handle hcreate (.chooseRow 0)
  refine ⟨hsound.levels_eq, hsound.level_eq.trans ?_⟩
  cases levels with
  | nil => rfl
  | cons level rest => simp [Choice.after, Choice.place?, Choice.select]

end Window

/-! ## Starting the program -/

namespace CommandLine

variable {env : Surroundings} {arguments : List String} {path : String} {levels : List Level}
  {k : FaultKind} {f : Fault}

/-- The kinds of fault that are reported. -/
def Reported (k : FaultKind) : Prop :=
  k = .value ∨ k = .undecodable ∨ k = .missingFile ∨ k = .directory ∨ k = .system

theorem isReported_iff : isReported f = true ↔ Reported f.kind := by
  unfold isReported Reported
  cases f.kind <;> decide

/-- The levels in a file. -/
def levelsIn (env : Surroundings) (path : String) : Except Fault (List Level) :=
  match env.contents path with
  | .ok bytes => (Level.ofBytes env.document path bytes).result
  | .error f => .error f

/-- The levels that are offered: those in the files that some arguments name, in the order of the
arguments, or else the bundled ones. -/
def offered (env : Surroundings) (arguments : List String) : Except Fault (List Level) :=
  if paths arguments = [] then .ok Level.bundled
  else ((paths arguments).mapM (levelsIn env)).map List.flatten

/-- A file that the program gets to: some arguments name it, and those that they name before it can
be read. -/
def Reaches (env : Surroundings) (arguments : List String) (path : String) : Prop :=
  ∃ before after, paths arguments = before ++ path :: after ∧
    ∀ p ∈ before, ∃ levels, levelsIn env p = .ok levels

/-- The ways in which the fault of a file escapes. -/
inductive Escapes (env : Surroundings) (path : String) : FaultKind → Prop
  /-- The file cannot be opened for an unreported reason. -/
  | opening {f : Fault} (hf : env.contents path = .error f) (hk : ¬ Reported f.kind) :
      Escapes env path f.kind
  /-- The document in the file is refused for an unreported reason. -/
  | document {bytes : ByteArray} {f : Fault} (hbytes : env.contents path = .ok bytes)
      (hf : env.document (.ofBytes bytes) = .error f) (hk : ¬ Reported f.kind) :
      Escapes env path f.kind
  /-- Reading the levels of the document breaks. -/
  | levels {bytes : ByteArray} {d : Datum} {k : FaultKind} (hbytes : env.contents path = .ok bytes)
      (hd : env.document (.ofBytes bytes) = .ok d) (hbreaks : Level.BreaksDocument d k) :
      Escapes env path k

theorem not_reported_of_breaksDocument {d : Datum} (h : Level.BreaksDocument d k) :
    ¬ Reported k := by
  unfold Reported
  cases h with
  | levels => decide
  | level _ _ _ hx =>
    obtain ⟨entries, -, hx⟩ := hx
    cases hx <;> decide

/-- The levels in a file are read from its document. -/
theorem levelsIn_eq (env : Surroundings) (path : String) :
    levelsIn env path = env.contents path >>= fun bytes =>
      env.document (.ofBytes bytes) >>= fun d => (Level.ofDocument path d).result := by
  unfold levelsIn
  cases env.contents path with
  | ok bytes =>
    rw [ok_bind]
    exact Level.result_ofBytes env.document path bytes
  | error f => rfl

/-- A file fails with an unreported fault in one of these ways and in no other. -/
theorem failsAs_levelsIn_iff (hk : ¬ Reported k) :
    FailsAs k (levelsIn env path) ↔ Escapes env path k := by
  have hvalue : k ≠ .value := fun h => hk (.inl h)
  simp only [levelsIn_eq, failsAs_bind_iff, Level.failsAs_result_iff path hvalue]
  constructor
  · rintro (⟨f, hf, rfl⟩ | ⟨bytes, hbytes, ⟨f, hf, rfl⟩ | ⟨d, hd, hbreaks⟩⟩)
    · exact .opening hf hk
    · exact .document hbytes hf hk
    · exact .levels hbytes hd hbreaks
  · intro h
    cases h with
    | opening hf => exact .inl ⟨_, hf, rfl⟩
    | document hbytes hf => exact .inr ⟨_, hbytes, .inl ⟨_, hf, rfl⟩⟩
    | levels hbytes hd hbreaks => exact .inr ⟨_, hbytes, .inr ⟨_, hd, hbreaks⟩⟩

theorem Escapes.not_reported (h : Escapes env path k) : ¬ Reported k := by
  cases h with
  | opening _ hk => exact hk
  | document _ _ hk => exact hk
  | levels _ _ hbreaks => exact not_reported_of_breaksDocument hbreaks

theorem result_ofFiles (paths : List String) :
    (Level.ofFiles env.document env.contents paths).result =
      (paths.mapM (levelsIn env)).map List.flatten := by
  have hrows {g : String → Except Fault (List Level)} (hg : ∀ path, g path = levelsIn env path) :
      (paths.mapM g >>= fun rows => (Report.ok rows.flatten).result) =
        (paths.mapM (levelsIn env)).map List.flatten := by
    rw [funext hg]
    cases paths.mapM (levelsIn env) <;> rfl
  unfold Level.ofFiles
  rw [Level.result_andThen, Level.result_all, List.mapM_map]
  refine hrows fun path => ?_
  unfold levelsIn
  rw [Function.comp_apply]
  cases env.contents path <;> rfl

theorem map_levelsOf : (levelsOf env.document env.contents (paths arguments)).result.map
    (·.getD Level.bundled) = offered env arguments := by
  unfold levelsOf offered
  simp only [List.isEmpty_iff]
  split
  next => rfl
  next =>
    rw [Level.result_andThen, result_ofFiles]
    cases (paths arguments).mapM (levelsIn env) <;> rfl

/-- The program starts on the levels that are offered. -/
theorem result_launch : (launch env arguments).result =
    match offered env arguments with
    | .error f =>
      if isReported f then
        match env.unwritable? (report f) with
        | none => .ok (.refused (report f))
        | some g => .error g
      else .error f
    | .ok levels =>
      .ok (.opened (Window.openOn env.fonts levels).1 (Window.openOn env.fonts levels).2) := by
  unfold launch
  rw [← map_levelsOf]
  generalize levelsOf env.document env.contents (paths arguments) = levels
  obtain ⟨notices, f | levels?⟩ := levels
  · dsimp only [Except.map]
    split
    · cases env.unwritable? (report f) <;> rfl
    · rfl
  · rfl

theorem result_launch_of_ok (h : offered env arguments = .ok levels) :
    (launch env arguments).result =
      .ok (.opened (Window.openOn env.fonts levels).1 (Window.openOn env.fonts levels).2) := by
  rw [result_launch, h]

theorem result_launch_of_reported (h : offered env arguments = .error f) (hk : Reported f.kind) :
    (launch env arguments).result =
      match env.unwritable? (report f) with
      | none => .ok (.refused (report f))
      | some g => .error g := by
  rw [result_launch, h]
  exact if_pos (isReported_iff.mpr hk)

theorem result_launch_of_not_reported (h : offered env arguments = .error f)
    (hk : ¬ Reported f.kind) : (launch env arguments).result = .error f := by
  rw [result_launch, h]
  exact if_neg (mt isReported_iff.mp hk)

theorem isPlayable_of_offered (h : offered env arguments = .ok levels) :
    ∀ level ∈ levels, level.IsPlayable := by
  unfold offered at h
  split at h
  · cases h
    exact Level.isPlayable_of_bundled
  · intro level hlevel
    cases hrows : (paths arguments).mapM (levelsIn env) with
    | error f => rw [hrows] at h; cases h
    | ok rows =>
      rw [hrows] at h
      cases h
      obtain ⟨row, hrow, hlevel⟩ := List.mem_flatten.mp hlevel
      obtain ⟨path, -, hpath⟩ := exists_of_mem_mapM hrows hrow
      rw [levelsIn_eq] at hpath
      obtain ⟨bytes, -, hpath⟩ := bind_eq_ok hpath
      obtain ⟨d, -, hd⟩ := bind_eq_ok hpath
      obtain ⟨d', hread⟩ := Level.exists_read_of_mem hd hlevel
      exact Level.isPlayable_of_read hread

/-- The levels are not offered because of the first file that cannot be read. -/
theorem offered_eq_error_iff : offered env arguments = .error f ↔
    ∃ path, Reaches env arguments path ∧ levelsIn env path = .error f := by
  unfold offered Reaches
  split
  next hnone =>
    refine iff_of_false nofun ?_
    rintro ⟨path, ⟨before, after, hpaths, -⟩, -⟩
    rw [hnone] at hpaths
    exact List.append_ne_nil_of_right_ne_nil before (List.cons_ne_nil path after) hpaths.symm
  next =>
    rw [map_eq_error_iff, mapM_eq_error_iff]
    constructor
    · rintro ⟨before, path, after, hpaths, hf, hbefore⟩
      exact ⟨path, ⟨before, after, hpaths, hbefore⟩, hf⟩
    · rintro ⟨path, ⟨before, after, hpaths, hbefore⟩, hf⟩
      exact ⟨before, path, after, hpaths, hf, hbefore⟩

/-- The fault of the first file that cannot be read ends the program if it escapes. -/
theorem failsAs_launch_of_escapes (hreaches : Reaches env arguments path)
    (hescapes : Escapes env path k) : FailsAs k (launch env arguments).result := by
  have hk := hescapes.not_reported
  obtain ⟨f, hf, rfl⟩ := (failsAs_levelsIn_iff hk).mpr hescapes
  have hoffered := offered_eq_error_iff.mpr ⟨path, hreaches, hf⟩
  exact ⟨f, result_launch_of_not_reported hoffered hk, rfl⟩

/-- The program ends with a fault if and only if the fault of a file escapes or the report of a
fault cannot be written. -/
theorem exists_fault_iff : (∃ f, (launch env arguments).result = .error f) ↔
    (∃ path k, Reaches env arguments path ∧ Escapes env path k) ∨
      ∃ path f, Reaches env arguments path ∧ levelsIn env path = .error f ∧ Reported f.kind ∧
        env.unwritable? (report f) ≠ none := by
  constructor
  · rintro ⟨g, hg⟩
    cases hoffered : offered env arguments with
    | ok levels => cases (result_launch_of_ok hoffered).symm.trans hg
    | error f =>
      obtain ⟨path, hreaches, hf⟩ := offered_eq_error_iff.mp hoffered
      by_cases hk : Reported f.kind
      · refine .inr ⟨path, f, hreaches, hf, hk, fun hwritable => ?_⟩
        rw [result_launch_of_reported hoffered hk, hwritable] at hg
        cases hg
      · exact .inl ⟨path, f.kind, hreaches, (failsAs_levelsIn_iff hk).mp ⟨f, hf, rfl⟩⟩
  · rintro (⟨path, k, hreaches, hescapes⟩ | ⟨path, f, hreaches, hf, hk, hunwritable⟩)
    · obtain ⟨f, hf, -⟩ := failsAs_launch_of_escapes hreaches hescapes
      exact ⟨f, hf⟩
    · obtain ⟨g, hg⟩ := Option.ne_none_iff_exists'.mp hunwritable
      refine ⟨g, ?_⟩
      rw [result_launch_of_reported (offered_eq_error_iff.mpr ⟨path, hreaches, hf⟩) hk, hg]

/-- **The program starts with a window or with a report**, except where a fault escapes. If all files
can be read, a window opens on their levels in the order of the arguments and begins with the first
of them; without files these are the bundled levels. If the first file that cannot be read has a
fault that is reported, as the fault of bytes that are no text is, the program tells the fault and
its exit code is 1, unless the report cannot be written.

The faults that escape are those of files that cannot be opened for an unreported reason, of
documents that are refused for one, and of data that reading levels breaks on. If the reader of
documents refuses malformed text as documents are refused, such a file is among them. -/
theorem opens_or_reports (env : Surroundings) (Malformed : Source → Prop)
    (hmalformed : ∀ source, Malformed source → FailsAs .document (env.document source))
    (arguments : List String) :
    let result := (launch env arguments).result
    (∀ levels, offered env arguments = .ok levels → ∃ w fault?,
      result = .ok (.opened w fault?) ∧ w.levels = levels ∧
        w.session.map (·.level) = levels.head?) ∧
      (paths arguments = [] → ∃ w, result = .ok (.opened w none) ∧ w.levels = Level.bundled) ∧
      (∀ path f, Reaches env arguments path → levelsIn env path = .error f → Reported f.kind →
        env.unwritable? (report f) = none → ∃ l, result = .ok l ∧ l.exitCode = 1 ∧
          l.printed = "Error: failed to load levels: " ++ f.message ++ "\n") ∧
      (∀ bytes chars f, Source.ofBytes bytes = .file chars (some f) → Reported f.kind) ∧
      ((∃ f, result = .error f) ↔
        (∃ path k, Reaches env arguments path ∧ Escapes env path k) ∨
        ∃ path f, Reaches env arguments path ∧ levelsIn env path = .error f ∧ Reported f.kind ∧
          env.unwritable? (report f) ≠ none) ∧
      ∀ path bytes, Reaches env arguments path → env.contents path = .ok bytes →
        Malformed (.ofBytes bytes) → FailsAs .document result := by
  intro result
  refine ⟨fun levels h => ?_, fun hnone => ?_, fun path f hreaches hf hk hwritable => ?_,
    fun bytes chars f hf => .inr (.inl (Source.kind_of_ofBytes hf)), exists_fault_iff,
    fun path bytes hreaches hbytes hbad => ?_⟩
  · exact ⟨_, _, result_launch_of_ok h,
      Window.levels_openOn env.fonts (isPlayable_of_offered h)⟩
  · have hbundled : offered env arguments = .ok Level.bundled := if_pos hnone
    have hplayable := Level.isPlayable_of_bundled
    have hunbroken : (Window.openOn env.fonts Level.bundled).2 = none :=
      (Window.fault_openOn_eq_none_iff env.fonts hplayable).mpr Window.startable_bundled
    refine ⟨_, ?_, (Window.levels_openOn env.fonts hplayable).1⟩
    rw [← hunbroken]
    exact result_launch_of_ok hbundled
  · refine ⟨.refused (report f), ?_, rfl, rfl⟩
    show (launch env arguments).result = _
    rw [result_launch_of_reported (offered_eq_error_iff.mpr ⟨path, hreaches, hf⟩) hk, hwritable]
  · obtain ⟨f, hf, hkind⟩ := hmalformed _ hbad
    have hk : ¬ Reported f.kind := by
      rw [hkind]
      unfold Reported
      decide
    rw [← hkind]
    exact failsAs_launch_of_escapes hreaches (.document hbytes hf hk)

/-- A level in a few words. -/
def small : String := "{name: Small, program: [DEFUSE], initial_registers: {A: 0, T: 0}}"

/-- A list that is not closed. -/
def unclosed : String := "levels: ["

/-- An output that takes every text, the program's own reader of documents, and two files. -/
def twoFiles : Surroundings where
  fonts := ⟨[], "monospace"⟩
  contents := fun path =>
    if path = "small.yaml" then .ok small.toUTF8
    else if path = "unclosed.yaml" then .ok unclosed.toUTF8
    else .error (.missingFile path)
  document := Yaml.read
  unwritable? := fun _ => none

/-- The program opens a window on the level of the first file as often as the file is named, reports
a file that is not there, and ends with the fault of the second file. -/
theorem opens_or_reports_twoFiles :
    (∃ w fault?, (launch twoFiles ["small.yaml", "-v", "small.yaml"]).result =
        .ok (.opened w fault?) ∧ w.levels.map (·.name) = ["Small", "Small"]) ∧
    (∃ l, (launch twoFiles ["small.yaml", "none.yaml"]).result = .ok l ∧ l.exitCode = 1 ∧
      l.printed = "Error: failed to load levels: [Errno 2] No such file or directory: " ++
        "'none.yaml'\n") ∧
    FailsAs .document (launch twoFiles ["small.yaml", "unclosed.yaml"]).result := by
  have hmalformed : ∀ source, source = .ofBytes unclosed.toUTF8 →
      FailsAs .document (twoFiles.document source) := by
    rintro _ rfl
    decide +kernel
  let levels := (offered twoFiles ["small.yaml", "-v", "small.yaml"]).toOption.getD []
  have hoffered : offered twoFiles ["small.yaml", "-v", "small.yaml"] = .ok levels :=
    eq_ok_getD (by decide +kernel) []
  have hnames : levels.map (·.name) = ["Small", "Small"] := by decide +kernel
  have hsmall : ∃ levels, levelsIn twoFiles "small.yaml" = .ok levels := by decide +kernel
  have hreaches (path : String) (hpath : path.toList.head? ≠ some '-') :
      Reaches twoFiles ["small.yaml", path] path := by
    refine ⟨["small.yaml"], [], ?_, fun p hp => List.mem_singleton.mp hp ▸ hsmall⟩
    simp [paths, hpath]
  obtain ⟨hopens, -⟩ :=
    opens_or_reports twoFiles _ hmalformed ["small.yaml", "-v", "small.yaml"]
  obtain ⟨-, -, hreports, -⟩ := opens_or_reports twoFiles _ hmalformed ["small.yaml", "none.yaml"]
  obtain ⟨-, -, -, -, -, hends⟩ :=
    opens_or_reports twoFiles _ hmalformed ["small.yaml", "unclosed.yaml"]
  refine ⟨?_, ?_, hends "unclosed.yaml" _ (hreaches _ (by decide)) rfl rfl⟩
  · obtain ⟨w, fault?, hresult, hlevels, -⟩ := hopens levels hoffered
    exact ⟨w, fault?, hresult, hlevels ▸ hnames⟩
  · exact hreports "none.yaml" (.missingFile "none.yaml") (hreaches _ (by decide)) rfl
      (.inr (.inr (.inl rfl))) rfl

/-- The program does not always start with a window or with a report: given a file with a list that
is not closed, it ends with the fault of a malformed document. -/
theorem malformed_escapes : FailsAs .document (launch twoFiles ["unclosed.yaml"]).result := by
  decide +kernel

end CommandLine

end Defusal
