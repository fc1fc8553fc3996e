import Defusal.Proofs.Machine.Course
import Defusal.Proofs.Machine.Limits

/-!
# The two forms of a copy

A copy instruction inserts at the line that its second operand gives, or, without one, after its own
line. Three functions tell the forms apart, each by a test of its own: the machine that executes the
instruction, the line of the program table and the sentence that explains it.

Which form is executed is said by runs alone (`Instruction.Executes`): every step of every machine
inserts where the form says. It is `executedForm` (`executes_iff`), and both displays show `shownForm`
(`displays_iff`). With up to two operands the two are the same. With more the displays tell the form
after the own line, while the machine inserts at the line that the second operand gives
(`copy_displayed`).
-/

namespace Defusal

/-- The forms of a copy instruction. -/
inductive CopyForm where
  /-- Inserts at the line that the second operand gives. -/
  | into
  /-- Inserts after the line of the instruction. -/
  | after
  deriving DecidableEq

namespace CopyForm

/-- The line of the program table for a form, with its source and its target. -/
def line : CopyForm → String → String → String
  | into, source, target => "COPY " ++ source ++ " → " ++ target
  | after, source, _ => "COPY " ++ source

/-- The sentence about a form, with its source and its target. -/
def sentence : CopyForm → String → String → String
  | into, source, target => "Copy the instruction at line " ++ source ++ " into line " ++ target
  | after, source, _ =>
    "Copy the instruction at line " ++ source ++ " and insert it after the current line"

theorem line_into_ne (source target : String) :
    into.line source target ≠ after.line source target := by
  intro heq
  have hlength := congrArg String.length heq
  have harrow : " → ".length = 3 := by decide
  have hlength : ("COPY " ++ source ++ " → " ++ target).length = ("COPY " ++ source).length := hlength
  rw [String.length_append, String.length_append] at hlength
  omega

theorem sentence_into_ne (source target : String) :
    into.sentence source target ≠ after.sentence source target := by
  intro heq
  have hlist := congrArg String.toList heq
  unfold sentence at hlist
  rw [String.toList_append, String.toList_append, String.toList_append, String.toList_append,
    String.toList_append, List.append_assoc] at hlist
  -- What follows the source goes on with another letter.
  have hletters := congrArg (List.take 2) (List.append_cancel_left hlist)
  rw [List.take_append_of_le_length (by decide)] at hletters
  exact absurd hletters (by decide)

end CopyForm

namespace Instruction

variable {i : Instruction} {form : CopyForm} {a : List String}

/-! ## What the displays show -/

/-- A display of an instruction is a text made of its source and its target, as these are shown. -/
def Displays (i : Instruction) (display : Except Fault String) (text : String → String → String) :
    Prop :=
  ∃ source target, i.shownAt 0 = .ok source ∧ i.shownAt 1 = .ok target ∧
    display = .ok (text source target)

/-- The form that the displays of a copy show. -/
def shownForm (i : Instruction) : CopyForm := if i.operands.length = 2 then .into else .after

theorem shownAt_of_allShown (h : i.allShown = .ok a) (n : Nat) :
    i.shownAt n = .ok (a.getD n "") := by
  unfold shownAt
  cases hn : i.operands[n]? with
  | none =>
    have hlength : a.length ≤ n := by
      rw [length_of_mapM h]
      exact List.getElem?_eq_none_iff.mp hn
    rw [List.getD_eq_getElem?_getD, List.getElem?_eq_none hlength]
    rfl
  | some d =>
    obtain ⟨s, hs⟩ := exists_mapM_iff.mp ⟨a, h⟩ d (List.mem_of_getElem? hn)
    rw [List.getD_eq_getElem?_getD, (getElem?_of_mapM h n s).mpr ⟨d, hn, hs⟩]
    exact hs

/-- Which of two different texts a display is. -/
theorem displays_iff {display : Except Fault String} {layout : CopyForm → String → String → String}
    (hne : ∀ source target, layout .into source target ≠ layout .after source target)
    (h : i.allShown = .ok a)
    (hdisplay : display = .ok (layout i.shownForm (a.getD 0 "") (a.getD 1 ""))) :
    i.Displays display (layout form) ↔ form = i.shownForm := by
  have hsource := shownAt_of_allShown h 0
  have htarget := shownAt_of_allShown h 1
  constructor
  · intro ⟨source, target, hs, ht, htext⟩
    cases hsource.symm.trans hs
    cases htarget.symm.trans ht
    have heq := Except.ok.inj (hdisplay.symm.trans htext)
    cases hform : i.shownForm with
    | into =>
      rw [hform] at heq
      cases form with
      | into => rfl
      | after => exact absurd heq (hne _ _)
    | after =>
      rw [hform] at heq
      cases form with
      | into => exact absurd heq.symm (hne _ _)
      | after => rfl
  · intro hform
    rw [hform]
    exact ⟨_, _, hsource, htarget, hdisplay⟩

theorem format_copy_eq (hcopy : i.op = "COPY") : Architecture.sparse.format i = do
    let a ← i.allShown
    return i.op ++ " " ++
      if a.length = 2 then a.getD 0 "" ++ " → " ++ a.getD 1 "" else a.getD 0 "" := by
  have hop : Architecture.sparse.operation i.op = .copy :=
    Architecture.operation_eq_copy_iff.mpr ⟨rfl, hcopy⟩
  show Architecture.formatSparse i = _
  unfold Architecture.formatSparse
  rw [hop]

/-- The line of the program table shows all operands, also those that it leaves out. -/
theorem exists_allShown_of_format (hcopy : i.op = "COPY") {text : String}
    (h : Architecture.sparse.format i = .ok text) : ∃ a, i.allShown = .ok a := by
  rw [format_copy_eq hcopy] at h
  obtain ⟨a, ha, -⟩ := bind_eq_ok h
  exact ⟨a, ha⟩

theorem format_copy (hcopy : i.op = "COPY") (h : i.allShown = .ok a) :
    Architecture.sparse.format i = .ok (i.shownForm.line (a.getD 0 "") (a.getD 1 "")) := by
  have hname : i.op ++ " " = "COPY " := by
    rw [hcopy]
    decide
  rw [format_copy_eq hcopy, h, ok_bind, hname, length_of_mapM h]
  unfold shownForm
  split
  · rw [← String.append_assoc, ← String.append_assoc]
    rfl
  · rfl

theorem explain_copy (hcopy : i.op = "COPY") (h : i.allShown = .ok a) :
    Architecture.sparse.explain i = .ok (i.shownForm.sentence (a.getD 0 "") (a.getD 1 "")) := by
  have hop : Architecture.sparse.operation i.op = .copy :=
    Architecture.operation_eq_copy_iff.mpr ⟨rfl, hcopy⟩
  unfold Architecture.explain
  rw [hop]
  show Architecture.explainCopy i = _
  unfold Architecture.explainCopy shownForm
  rw [shownAt_of_allShown h, shownAt_of_allShown h, ok_bind]
  split <;> rfl

/-! ## What is executed -/

/-- A step of a sparse machine that executes the instruction. -/
structure StepOf (i : Instruction) (m : Machine) (h : History) (snap : Snapshot) : Prop where
  sparse : ∃ p, m.program = .sparse p
  fetch : m.fetch .sparse = i
  step : m.step .sparse h = .ok snap

/-- The instruction can be executed, and every step that executes it inserts what is read at its source
at the line that `place` gives, of the registers after the clock has advanced and of the line of the
instruction. -/
def Inserts (i : Instruction) (place : Registers → Int → Except Fault Int) : Prop :=
  (∃ m h snap, i.StepOf m h snap) ∧ ∀ m h snap, i.StepOf m h snap →
    let r := m.registers.put clockName (m.registers.time + 1)
    ∃ source line, r.resolve (i.operand 0) = .ok source ∧ place r m.pc = .ok line ∧
      snap.machine.program = m.program.insertAt line (m.program.get source)

/-- Executing the instruction is executing a copy of some form. -/
def Executes (i : Instruction) : CopyForm → Prop
  | .into => ∃ operand, i.operands[1]? = some operand ∧ i.Inserts fun r _ => r.resolve operand
  | .after => i.Inserts fun _ origin => .ok (origin + 1)

/-- The form of a copy that is executed. -/
def executedForm (i : Instruction) : CopyForm := if 2 ≤ i.operands.length then .into else .after

/-- A step inserts at the insertion line. -/
theorem StepOf.inserted {m : Machine} {h : History} {snap : Snapshot} (hs : i.StepOf m h snap)
    (hcopy : i.op = "COPY") :
    let r := m.registers.put clockName (m.registers.time + 1)
    ∃ source line, r.resolve (i.operand 0) = .ok source ∧ i.insertionLine r m.pc = .ok line ∧
      snap.machine.program = m.program.insertAt line (m.program.get source) := by
  obtain ⟨after, symbol, hafter, -, rfl⟩ := Machine.step_eq_ok_iff.mp hs.step
  rw [Machine.executed_copy hs.fetch hcopy] at hafter
  obtain ⟨source, line, hsource, hline, rfl⟩ := Machine.copy_eq_ok_iff.mp hafter
  exact ⟨source, line, hsource, hline, rfl⟩

/-- What is executed is also written down, with all of its operands. -/
theorem StepOf.exists_allShown {m : Machine} {h : History} {snap : Snapshot} (hs : i.StepOf m h snap)
    (hcopy : i.op = "COPY") : ∃ a, i.allShown = .ok a := by
  obtain ⟨after, symbol, -, hsymbol, -⟩ := Machine.step_eq_ok_iff.mp hs.step
  rw [hs.fetch] at hsymbol
  obtain ⟨-, text, htext⟩ := Machine.exists_symbolText_iff.mp ⟨symbol, hsymbol⟩
  exact exists_allShown_of_format hcopy htext

/-! ### A machine with nothing but the instruction -/

/-- Registers with one of the name that an operand is. -/
def naming (r : Registers) : Datum → Registers
  | .text s => r.put s 0
  | _ => r

/-- A machine on a line that stores the instruction, the only one of its program, with registers of the
names that its first two operands are. -/
def alone (i : Instruction) (line : Int) : Machine where
  registers := naming (naming default (i.operand 0)) (i.operand 1)
  pc := line
  program := .sparse (.ofList [(line, i)])
  outcome := none

theorem get?_alone (i : Instruction) (line other : Int) :
    (SparseProgram.ofList [(line, i)]).get? other = if other = line then some i else none := by
  show (SparseProgram.empty.put line i).get? other = _
  rw [SparseProgram.get?_put]
  rfl

theorem fetch_alone (i : Instruction) (line : Int) : (alone i line).fetch .sparse = i := by
  show ((SparseProgram.ofList [(line, i)]).get? line).getD .idle = i
  rw [get?_alone, if_pos rfl]
  rfl

theorem contains_naming {r : Registers} {d : Datum} {s : String} (h : d = .text s ∨ r.contains s) :
    (naming r d).contains s = true := by
  cases d with
  | text t =>
    show (r.put t 0).contains s = true
    rw [Registers.contains_put, Bool.or_eq_true, decide_eq_true_eq]
    exact h.imp_left fun heq => (Datum.text.inj heq).symm
  | _ => exact h.resolve_left nofun

/-- A text that names a register can be read, whatever it is, and all that is no text can be. -/
theorem exists_resolve {r : Registers} {d : Datum}
    (h : ∀ s, d = .text s → r.contains s = true) : ∃ n, r.resolve d = .ok n := by
  cases d with
  | text s =>
    obtain ⟨n, hn⟩ := Option.isSome_iff_exists.mp (h s rfl)
    exact ⟨n, Registers.resolve_of_get? hn⟩
  | _ => exact ⟨_, rfl⟩

theorem exists_resolve_alone (i : Instruction) (line : Int) {d : Datum}
    (hd : d = i.operand 0 ∨ d = i.operand 1) :
    ∃ n, ((alone i line).registers.put clockName ((alone i line).registers.time + 1)).resolve d
      = .ok n := by
  refine exists_resolve fun s hs => ?_
  rw [Registers.contains_put, Bool.or_eq_true]
  right
  rcases hd with rfl | rfl
  · exact contains_naming (.inr (contains_naming (.inl hs)))
  · exact contains_naming (.inl hs)

/-- A copy of which all operands can be shown can be executed on every line that can be written. -/
theorem exists_stepOf_alone (hcopy : i.op = "COPY") (h : ∃ a, i.allShown = .ok a) (line : Int)
    (hline : line.natAbs < Numeral.writeLimit) : ∃ snap, i.StepOf (alone i line) default snap := by
  have hfetch := fetch_alone i line
  obtain ⟨a, ha⟩ := h
  suffices hstep : ∃ snap, (alone i line).step .sparse default = .ok snap by
    obtain ⟨snap, hsnap⟩ := hstep
    exact ⟨snap, ⟨_, rfl⟩, hfetch, hsnap⟩
  rw [Machine.exists_step_iff, Machine.executed_copy hfetch hcopy, hfetch,
    Machine.exists_symbolText_iff]
  obtain ⟨source, hsource⟩ := exists_resolve_alone i line (.inl rfl)
  have htarget : ∃ target, i.insertionLine
      ((alone i line).registers.put clockName ((alone i line).registers.time + 1)) line
      = .ok target := by
    unfold insertionLine
    cases hoperand : i.operands[1]? with
    | none => exact ⟨_, rfl⟩
    | some operand =>
      have hsecond : operand = i.operand 1 := by
        unfold Instruction.operand
        rw [hoperand]
        rfl
      exact exists_resolve_alone i line (.inr hsecond)
  obtain ⟨target, htarget⟩ := htarget
  exact ⟨⟨_, Machine.copy_eq_ok_iff.mpr ⟨source, target, hsource, htarget, rfl⟩⟩, hline, _,
    format_copy hcopy ha⟩

theorem inserts_insertionLine (hcopy : i.op = "COPY") (h : ∃ a, i.allShown = .ok a) :
    i.Inserts i.insertionLine := by
  obtain ⟨snap, hs⟩ := exists_stepOf_alone hcopy h 0 (by decide +kernel)
  exact ⟨⟨_, _, _, hs⟩, fun _ _ _ hs => hs.inserted hcopy⟩

theorem insertionLine_of_operand {operand : Datum} (hoperand : i.operands[1]? = some operand)
    (r : Registers) (origin : Int) : i.insertionLine r origin = r.resolve operand := by
  unfold insertionLine
  rw [hoperand]

theorem insertionLine_of_none (hoperand : i.operands[1]? = none) (r : Registers) (origin : Int) :
    i.insertionLine r origin = .ok (origin + 1) := by
  unfold insertionLine
  rw [hoperand]

/-- In a program of one line an insertion after the line leaves every other line but the next empty. -/
theorem insertAt_alone_ne {line target : Int} (hne : target ≠ line) (hnext : target ≠ line + 1)
    (j k : Instruction) : (SparseProgram.ofList [(line, i)]).insertAt target j
      ≠ (SparseProgram.ofList [(line, i)]).insertAt (line + 1) k := by
  intro heq
  have hprev : target - 1 ≠ line := by omega
  have hstored := congrArg (SparseProgram.get? · target) heq
  rw [Program.get?_insertAt_self, SparseProgram.get?_insertAt, if_neg hnext, get?_alone, get?_alone,
    if_neg hne, if_neg hprev, ite_self] at hstored
  cases hstored

/-- A copy with a second operand does not always insert after its own line: where the operand gives
the same target, there is a line that is neither the target nor the one before it. -/
theorem not_inserts_after (hcopy : i.op = "COPY") {operand : Datum}
    (hoperand : i.operands[1]? = some operand) : ¬ i.Inserts fun _ origin => .ok (origin + 1) := by
  intro ⟨⟨m, h, snap, hs⟩, hafter⟩
  have hsecond : operand = i.operand 1 := by
    unfold Instruction.operand
    rw [hoperand]
    rfl
  obtain ⟨target, htarget⟩ := exists_resolve_alone i 0 (.inr hsecond)
  have hfar : ∃ line : Int, line.natAbs < Numeral.writeLimit ∧ target ≠ line ∧ target ≠ line + 1 := by
    by_cases hnear : target = 0 ∨ target = 1
    · exact ⟨2, by decide +kernel, by omega, by omega⟩
    · exact ⟨0, by decide +kernel, by omega, by omega⟩
  obtain ⟨line, hline, hne, hnext⟩ := hfar
  obtain ⟨snap', hs'⟩ := exists_stepOf_alone hcopy (hs.exists_allShown hcopy) line hline
  obtain ⟨source, place, -, hplace, hinto⟩ := hs'.inserted hcopy
  obtain ⟨source', place', -, hplace', hafter⟩ := hafter _ _ _ hs'
  rw [insertionLine_of_operand hoperand] at hplace
  cases htarget.symm.trans hplace
  cases hplace'
  exact insertAt_alone_ne hne hnext _ _ (Program.sparse.inj (hinto.symm.trans hafter))

/-- **Which form of a copy is executed.** -/
theorem executes_iff (hcopy : i.op = "COPY") :
    i.Executes form ↔ (∃ a, i.allShown = .ok a) ∧ form = i.executedForm := by
  unfold executedForm
  cases hoperand : i.operands[1]? with
  | some operand =>
    have hlength : 2 ≤ i.operands.length := (List.getElem?_eq_some_iff.mp hoperand).1
    have hplace := funext₂ (insertionLine_of_operand hoperand)
    rw [if_pos hlength]
    constructor
    · intro hexec
      cases form with
      | into =>
        obtain ⟨-, -, ⟨m, h, snap, hs⟩, -⟩ := hexec
        exact ⟨hs.exists_allShown hcopy, rfl⟩
      | after => exact absurd hexec (not_inserts_after hcopy hoperand)
    · intro ⟨hshown, hform⟩
      have hinserts := inserts_insertionLine hcopy hshown
      rw [hplace] at hinserts
      rw [hform]
      exact ⟨operand, hoperand, hinserts⟩
  | none =>
    have hlength : i.operands.length ≤ 1 := List.getElem?_eq_none_iff.mp hoperand
    have hplace := funext₂ (insertionLine_of_none hoperand)
    rw [if_neg (by omega)]
    constructor
    · intro hexec
      cases form with
      | into =>
        obtain ⟨operand, hsome, -⟩ := hexec
        cases hoperand.symm.trans hsome
      | after =>
        obtain ⟨⟨m, h, snap, hs⟩, -⟩ := hexec
        exact ⟨hs.exists_allShown hcopy, rfl⟩
    · intro ⟨hshown, hform⟩
      have hinserts := inserts_insertionLine hcopy hshown
      rw [hplace] at hinserts
      rw [hform]
      exact hinserts

/-! ## What the displays tell -/

/-- The line of the program table is that of a form. -/
def FormatTells (i : Instruction) (form : CopyForm) : Prop :=
  i.Displays (Architecture.sparse.format i) form.line

/-- The explanation is that of a form. -/
def ExplanationTells (i : Instruction) (form : CopyForm) : Prop :=
  i.Displays (Architecture.sparse.explain i) form.sentence

theorem formatTells_iff (hcopy : i.op = "COPY") :
    i.FormatTells form ↔ (∃ a, i.allShown = .ok a) ∧ form = i.shownForm := by
  constructor
  · intro h
    have hdisplays := h
    obtain ⟨source, target, hsource, htarget, htext⟩ := hdisplays
    obtain ⟨a, ha⟩ := exists_allShown_of_format hcopy htext
    exact ⟨⟨a, ha⟩, (displays_iff CopyForm.line_into_ne ha (format_copy hcopy ha)).mp h⟩
  · intro ⟨⟨a, ha⟩, hform⟩
    exact (displays_iff CopyForm.line_into_ne ha (format_copy hcopy ha)).mpr hform

theorem explanationTells_iff (hcopy : i.op = "COPY") (h : ∃ a, i.allShown = .ok a) :
    i.ExplanationTells form ↔ form = i.shownForm := by
  obtain ⟨a, ha⟩ := h
  exact displays_iff CopyForm.sentence_into_ne ha (explain_copy hcopy ha)

/-- Up to two operands can all be shown if a display shows them as source and target. -/
theorem exists_allShown_of_displays {display : Except Fault String}
    {text : String → String → String} (hlength : i.operands.length ≤ 2)
    (h : i.Displays display text) : ∃ a, i.allShown = .ok a := by
  obtain ⟨source, target, hsource, htarget, -⟩ := h
  refine exists_mapM_iff.mpr fun d hd => ?_
  obtain ⟨n, hn⟩ := List.mem_iff_getElem?.mp hd
  have hlt := (List.getElem?_eq_some_iff.mp hn).1
  unfold shownAt at hsource htarget
  rcases n with _ | _ | n
  · rw [hn] at hsource
    exact ⟨_, hsource⟩
  · rw [hn] at htarget
    exact ⟨_, htarget⟩
  · omega

/-- The form that is shown is the one that is executed if there are no more than two operands. -/
theorem shownForm_eq_executedForm (hlength : i.operands.length ≤ 2) :
    i.shownForm = i.executedForm := by
  unfold shownForm executedForm
  by_cases htwo : i.operands.length = 2
  · rw [if_pos htwo, if_pos (by omega)]
  · rw [if_neg htwo, if_neg (by omega)]

/-- **What the displays of a copy tell.** With up to two operands, of any kind, each display is that of
a form if and only if this form is executed. With more, both displays are those of a copy that inserts
after its own line, while it inserts at the line that its second operand gives; that is, if the
instruction can be displayed at all, as without its display it cannot be executed. -/
theorem copy_displayed (hcopy : i.op = "COPY") :
    (i.operands.length ≤ 2 → ∀ form, (i.FormatTells form ↔ i.Executes form) ∧
      (i.ExplanationTells form ↔ i.Executes form)) ∧
    (2 < i.operands.length → ∀ text, Architecture.sparse.format i = .ok text → ∀ form,
      (i.FormatTells form ↔ form = .after) ∧ (i.ExplanationTells form ↔ form = .after) ∧
      (i.Executes form ↔ form = .into)) := by
  constructor
  · intro hlength form
    rw [formatTells_iff hcopy, executes_iff hcopy, shownForm_eq_executedForm hlength]
    refine ⟨Iff.rfl, ?_⟩
    constructor
    · intro h
      have hshown := exists_allShown_of_displays hlength h
      rw [explanationTells_iff hcopy hshown, shownForm_eq_executedForm hlength] at h
      exact ⟨hshown, h⟩
    · intro ⟨hshown, hform⟩
      rwa [explanationTells_iff hcopy hshown, shownForm_eq_executedForm hlength]
  · intro hlength text htext form
    have hshown := exists_allShown_of_format hcopy htext
    have hafter : i.shownForm = .after := if_neg (by omega)
    have hinto : i.executedForm = .into := if_pos (by omega)
    rw [formatTells_iff hcopy, explanationTells_iff hcopy hshown, executes_iff hcopy, hafter, hinto]
    exact ⟨and_iff_right hshown, Iff.rfl, and_iff_right hshown⟩

/-- A copy whose two operands are names, and one with an operand too many. -/
theorem copy_displayed_operands :
    (⟨"COPY", [.text "A", .text "T"]⟩ : Instruction).Executes .into ∧
    let i : Instruction := ⟨"COPY", [.int 3, .int 7, .int 9]⟩
    Architecture.sparse.format i = .ok "COPY 3" ∧ i.ExplanationTells .after ∧ i.Executes .into := by
  constructor
  · obtain ⟨htold, -⟩ := copy_displayed (i := ⟨"COPY", [.text "A", .text "T"]⟩) rfl
    exact (htold (by decide) .into).1.mp ⟨"A", "T", rfl, rfl, by cbv⟩
  · intro i
    have htext : Architecture.sparse.format i = .ok "COPY 3" := by cbv
    obtain ⟨-, htold⟩ := copy_displayed (i := i) rfl
    have htold := htold (by decide) _ htext
    exact ⟨htext, (htold .after).2.1.mpr rfl, (htold .into).2.2.mpr rfl⟩

/-- With three operands neither display tells the form that is executed, and each tells the other. -/
theorem copy_displayed_otherwise :
    let i : Instruction := ⟨"COPY", [.int 3, .int 7, .int 9]⟩
    ∀ form, ¬ (i.FormatTells form ↔ i.Executes form) ∧
      ¬ (i.ExplanationTells form ↔ i.Executes form) := by
  intro i form
  have hshown : ∃ a, i.allShown = .ok a := by decide +kernel
  rw [formatTells_iff rfl, explanationTells_iff rfl hshown, executes_iff rfl, and_iff_right hshown,
    and_iff_right hshown]
  cases form <;> decide

end Instruction

end Defusal
