import Defusal.Proofs.Fault.Chain
import Defusal.Proofs.Program.Viewport
import Defusal.Proofs.Session.Layout
import Defusal.Window.ProgramTable
import Defusal.Window.RegisterPanel

/-!
# What the views of a session show

The register panel shows a session if it has one label for each register, with the register's value
as its text; the program table shows a session if its rows are those of the viewport, and the row of
the line that the machine stands on is the one that is highlighted.

Both views are written from top to bottom, and a number that is too long stops the writing. So each
shows a session that it was told to show if everything in that session can be written
(`RegisterPanel.shows_setSession`, `ProgramTable.shows_update`), whatever it showed before. All that
the panel has to bring along is that no two labels have the same name, which no way of writing it
can change (`RegisterPanel.nodup_setSession`).
-/

namespace Defusal

variable {s : Session}

/-! ## The register panel -/

namespace RegisterPanel

/-- The labels from top to bottom. -/
def labels (p : RegisterPanel) : List RegisterLabel := p.boxes.flatMap (·.labels)

/-- The panel has one label for each register of a session, with its value. -/
structure Shows (p : RegisterPanel) (s : Session) : Prop where
  nodup : (p.labels.map (·.name)).Nodup
  mem_iff : ∀ name, name ∈ p.labels.map (·.name) ↔ s.registers.contains name = true
  value : ∀ l ∈ p.labels, ∃ n, s.registers.get? l.name = some n ∧ Numeral.write n = .ok l.value

variable {p : RegisterPanel}

theorem names_eq_map_labels (p : RegisterPanel) : p.names = p.labels.map (·.name) :=
  List.map_flatMap.symm

theorem showLabels_cons (family : String) (value : String → Int) (l : RegisterLabel)
    (ls : List RegisterLabel) (shown : Table String Int) : showLabels family value (l :: ls) shown =
      match Numeral.write (value l.name) with
      | .error f => (l :: ls, shown, some f)
      | .ok text =>
        let changed := (shown.get? l.name).any (· != value l.name)
        let rest := showLabels family value ls (shown.put l.name (value l.name))
        ({ l with value := text, style := some (valueStyle family changed) } :: rest.1, rest.2) :=
  rfl

/-- Showing values leaves everything on the labels alone but values and styles. -/
theorem map_showLabels {β : Type} {f : RegisterLabel → β}
    (hf : ∀ l value style, f { l with value, style } = f l) (family : String)
    (value : String → Int) (ls : List RegisterLabel) (shown : Table String Int) :
    (showLabels family value ls shown).1.map f = ls.map f := by
  induction ls generalizing shown with
  | nil => rfl
  | cons l ls ih =>
    unfold showLabels
    dsimp only
    split
    next => rfl
    next => rw [List.map_cons, List.map_cons, hf, ih]

/-- Labels are shown to the end if and only if all their values can be written. -/
theorem showLabels_eq_none_iff (family : String) (value : String → Int) (ls : List RegisterLabel)
    (shown : Table String Int) : (showLabels family value ls shown).2.2 = none ↔
      ∀ l ∈ ls, (value l.name).natAbs < Numeral.writeLimit := by
  induction ls generalizing shown with
  | nil => exact iff_of_true rfl nofun
  | cons l ls ih =>
    rw [List.forall_mem_cons, ← Numeral.exists_write_iff]
    unfold showLabels
    dsimp only
    cases Numeral.write (value l.name) with
    | error f => exact iff_of_false nofun fun ⟨⟨_, h⟩, _⟩ => nomatch h
    | ok text => exact (ih _).trans (and_iff_right ⟨text, rfl⟩).symm

theorem write_of_showLabels (family : String) (value : String → Int) (ls : List RegisterLabel)
    (shown : Table String Int) (h : (showLabels family value ls shown).2.2 = none) :
    ∀ l ∈ (showLabels family value ls shown).1, Numeral.write (value l.name) = .ok l.value := by
  induction ls generalizing shown with
  | nil => exact nofun
  | cons l ls ih =>
    unfold showLabels at h ⊢
    dsimp only at h ⊢
    cases hwrite : Numeral.write (value l.name) with
    | error f => rw [hwrite] at h; cases h
    | ok text =>
      rw [hwrite] at h
      exact List.forall_mem_cons.mpr ⟨hwrite, ih _ h⟩

/-- Labels in two rows are shown as in one: the second row only if the first was shown to its
end. -/
theorem showLabels_append (family : String) (value : String → Int) (xs ys : List RegisterLabel)
    (shown : Table String Int) : showLabels family value (xs ++ ys) shown =
      match showLabels family value xs shown with
      | (ls, shown, some f) => (ls ++ ys, shown, some f)
      | (ls, shown, none) =>
        (ls ++ (showLabels family value ys shown).1, (showLabels family value ys shown).2) := by
  induction xs generalizing shown with
  | nil => rfl
  | cons l xs ih =>
    rw [List.cons_append, showLabels_cons, showLabels_cons]
    cases Numeral.write (value l.name) with
    | error f => rfl
    | ok text =>
      dsimp only
      rw [ih]
      rcases showLabels family value xs (shown.put l.name (value l.name)) with ⟨ls, shown, _ | f⟩
      · rfl
      · rfl

/-- Groups are shown as all their labels in one row are. -/
theorem flatMap_showBoxes (family : String) (value : String → Int) (bs : List RegisterBox)
    (shown : Table String Int) :
    ((showBoxes family value bs shown).1.flatMap (·.labels), (showBoxes family value bs shown).2)
      = showLabels family value (bs.flatMap (·.labels)) shown := by
  induction bs generalizing shown with
  | nil => rfl
  | cons b bs ih =>
    rw [List.flatMap_cons, showLabels_append]
    unfold showBoxes
    rcases showLabels family value b.labels shown with ⟨labels, shown, _ | f⟩
    · dsimp only
      rw [← ih, List.flatMap_cons]
    · rfl

/-- Showing values leaves everything on the groups alone but values and styles. -/
theorem map_showBoxes {β : Type} {f : RegisterLabel → β}
    (hf : ∀ l value style, f { l with value, style } = f l) (family : String)
    (value : String → Int) (bs : List RegisterBox) (shown : Table String Int) :
    (showBoxes family value bs shown).1.map (fun b => (b.title, b.labels.map f))
      = bs.map fun b => (b.title, b.labels.map f) := by
  induction bs generalizing shown with
  | nil => rfl
  | cons b bs ih =>
    have hb := map_showLabels hf family value b.labels shown
    unfold showBoxes
    generalize showLabels family value b.labels shown = written at hb ⊢
    rcases written with ⟨labels, shown, _ | f⟩
    all_goals
      dsimp only at hb ⊢
      rw [List.map_cons, List.map_cons, hb]
    rw [ih]

/-! The panel is laid out anew for other registers than it has. -/

/-- A panel that is laid out for a session has its registers, each once. -/
theorem names_layOut (p : RegisterPanel) (s : Session) :
    (p.layOut s).names.Perm s.registers.names := by
  have hplaced : (p.layOut s).names = (Session.placed s.layout).map Prod.snd := by
    unfold names layOut Session.placed
    rw [List.flatMap_map, List.map_flatMap]
    refine List.flatMap_congr fun g _ => ?_
    rw [List.map_map, List.map_map]
    rfl
  have hperm := (Session.placed_registerLayout s.registers s.level.playerRegister).map Prod.snd
  rw [List.map_map] at hperm
  rw [hplaced]
  exact hperm.trans (.of_eq (List.map_id' _))

theorem nodup_layOut (p : RegisterPanel) (s : Session) : (p.layOut s).names.Nodup :=
  (names_layOut p s).nodup_iff.mpr s.registers.nodup_names

theorem mem_names_layOut (p : RegisterPanel) (s : Session) (name : String) :
    name ∈ (p.layOut s).names ↔ s.registers.contains name = true := by
  rw [Registers.contains_iff_mem_names]
  exact (names_layOut p s).mem_iff

theorem mem_names_of_fits (h : p.fits s = true) (name : String) :
    name ∈ p.names ↔ s.registers.contains name = true := by
  unfold fits at h
  rw [Bool.and_eq_true, List.all_eq_true, List.all_eq_true] at h
  rw [Registers.contains_iff_mem_names]
  constructor
  · intro hname
    exact List.contains_iff_mem.mp (h.1 name hname)
  · intro hname
    exact List.contains_iff_mem.mp (h.2 name hname)

/-- The labels of a panel are shown in one row. -/
theorem update_eq (p : RegisterPanel) (values : Table String Int) :
    let written := showLabels p.family (fun name => (values.get? name).getD 0) p.labels p.shown
    (p.update values).1.labels = written.1 ∧ (p.update values).1.shown = written.2.1 ∧
      (p.update values).2 = written.2.2 := by
  have h := flatMap_showBoxes p.family (fun name => (values.get? name).getD 0) p.boxes p.shown
  exact ⟨congrArg Prod.fst h, congrArg (·.2.1) h, congrArg (·.2.2) h⟩

theorem names_update (p : RegisterPanel) (values : Table String Int) :
    (p.update values).1.names = p.names := by
  rw [names_eq_map_labels, names_eq_map_labels, (p.update_eq values).1]
  exact map_showLabels (fun _ _ _ => rfl) ..

theorem update_eq_none_iff (p : RegisterPanel) (values : Table String Int) :
    (p.update values).2 = none ↔
      ∀ l ∈ p.labels, ((values.get? l.name).getD 0).natAbs < Numeral.writeLimit := by
  rw [(p.update_eq values).2.2]
  exact showLabels_eq_none_iff ..

theorem write_of_update (p : RegisterPanel) (values : Table String Int)
    (h : (p.update values).2 = none) : ∀ l ∈ (p.update values).1.labels,
      Numeral.write ((values.get? l.name).getD 0) = .ok l.value := by
  rw [(p.update_eq values).2.2] at h
  rw [(p.update_eq values).1]
  exact write_of_showLabels _ _ _ _ h

theorem name_mem {l : RegisterLabel} (hl : l ∈ p.labels) : l.name ∈ p.names := by
  rw [names_eq_map_labels]
  exact List.mem_map_of_mem hl

/-- The panel on which a session is shown: a panel with other registers is laid out anew. -/
def laidOutFor (p : RegisterPanel) (s : Session) : RegisterPanel :=
  if p.fits s then p else p.layOut s

theorem setSession_eq (p : RegisterPanel) (s : Session) :
    p.setSession s = (p.laidOutFor s).update s.registers.table := rfl

/-- A session is shown on a panel that has its registers. -/
theorem mem_names_laidOutFor (p : RegisterPanel) (s : Session) (name : String) :
    name ∈ (p.laidOutFor s).names ↔ s.registers.contains name = true := by
  unfold laidOutFor
  split
  next hfits => exact mem_names_of_fits hfits name
  next => exact mem_names_layOut p s name

theorem nodup_laidOutFor (hp : p.names.Nodup) (s : Session) : (p.laidOutFor s).names.Nodup := by
  unfold laidOutFor
  split
  next => exact hp
  next => exact nodup_layOut p s

theorem names_setSession (p : RegisterPanel) (s : Session) :
    (p.setSession s).1.names = (p.laidOutFor s).names := by
  rw [setSession_eq, names_update]

/-- However the writing of the panel ends, no two labels have the same name. -/
theorem nodup_setSession (hp : p.names.Nodup) (s : Session) : (p.setSession s).1.names.Nodup := by
  rw [names_setSession]
  exact nodup_laidOutFor hp s

theorem getD_of_contains {name : String} (h : s.registers.contains name = true) :
    s.registers.get? name = some ((s.registers.table.get? name).getD 0) := by
  obtain ⟨n, hn⟩ := Option.isSome_iff_exists.mp h
  have htable : s.registers.table.get? name = some n := hn
  rw [htable]
  exact htable

/-- **The panel is written to the end if and only if all registers of the session can be written**,
whatever it showed before. -/
theorem setSession_eq_none_iff (p : RegisterPanel) (s : Session) : (p.setSession s).2 = none ↔
    ∀ name n, s.registers.get? name = some n → n.natAbs < Numeral.writeLimit := by
  rw [setSession_eq, update_eq_none_iff]
  constructor
  · intro h name n hn
    have hname := (mem_names_laidOutFor p s name).mpr (Option.isSome_of_eq_some hn)
    rw [names_eq_map_labels] at hname
    obtain ⟨l, hl, rfl⟩ := List.mem_map.mp hname
    have htable : s.registers.table.get? l.name = some n := hn
    have hlt := h l hl
    rw [htable] at hlt
    exact hlt
  · intro h l hl
    exact h _ _ (getD_of_contains ((mem_names_laidOutFor p s l.name).mp (name_mem hl)))

/-- A panel that is written to the end shows the session. -/
theorem shows_setSession (hp : p.names.Nodup) (hnone : (p.setSession s).2 = none) :
    (p.setSession s).1.Shows s := by
  have hnames := names_setSession p s
  refine ⟨?_, fun name => ?_, fun l hl => ?_⟩
  · rw [← names_eq_map_labels]
    exact nodup_setSession hp s
  · rw [← names_eq_map_labels, hnames]
    exact mem_names_laidOutFor p s name
  · have hname := name_mem hl
    rw [hnames] at hname
    have hcontains := (mem_names_laidOutFor p s l.name).mp hname
    exact ⟨_, getD_of_contains hcontains, write_of_update _ _ hnone l hl⟩

end RegisterPanel

/-! ## The program table -/

namespace ProgramTable

/-- The table has a row for each row of the viewport of a session, and the row of the line that the
machine stands on is the one that is highlighted. -/
structure Shows (t : ProgramTable) (s : Session) : Prop where
  rows : s.viewport.mapM (rowOf s.architecture s.pc) = .ok t.rows
  current : ∃ n : Nat, t.current = some n ∧
    s.viewport[n]? = some (.line s.pc (s.program.get s.pc)) ∧
    ∀ (k : Nat) row, t.rows[k]? = some row → (row.isHighlighted = true ↔ k = n)

variable {a : Architecture} {pc : Int}

/-- The rows are written to the end if and only if each of them can be written. -/
theorem rowsUpToFault_eq_none_iff (viewport : List ViewportRow) :
    (rowsUpToFault a pc viewport).2 = none ↔ ∀ v ∈ viewport, ∃ row, rowOf a pc v = .ok row := by
  induction viewport with
  | nil => exact iff_of_true rfl nofun
  | cons v vs ih =>
    unfold rowsUpToFault
    rw [List.forall_mem_cons, ← ih]
    cases rowOf a pc v with
    | error f => exact iff_of_false nofun fun ⟨⟨_, h⟩, _⟩ => nomatch h
    | ok row => exact (and_iff_right ⟨row, rfl⟩).symm

theorem rowsUpToFault_of_mapM {viewport : List ViewportRow} {rows : List ProgramRow}
    (h : viewport.mapM (rowOf a pc) = .ok rows) : rowsUpToFault a pc viewport = (rows, none) := by
  induction viewport generalizing rows with
  | nil => cases h; rfl
  | cons v vs ih =>
    rw [List.mapM_cons] at h
    obtain ⟨row, hrow, h⟩ := bind_eq_ok h
    obtain ⟨rest, hrest, h⟩ := bind_eq_ok h
    cases h
    unfold rowsUpToFault
    rw [hrow]
    dsimp only
    rw [ih hrest]

/-- The current row of the viewport is highlighted in the table. -/
theorem isHighlighted_of_rowOf {v : ViewportRow} {row : ProgramRow} (h : rowOf a pc v = .ok row) :
    row.isHighlighted = v.isCurrent pc := by
  cases v with
  | gap => cases h; rfl
  | line number i =>
    obtain ⟨line, -, h⟩ := bind_eq_ok h
    obtain ⟨text, -, h⟩ := bind_eq_ok h
    obtain ⟨tooltip, -, h⟩ := bind_eq_ok h
    cases h
    rfl

/-- **The table is written to the end if and only if every row of the viewport can be written**,
whatever it showed before. -/
theorem update_eq_none_iff (t : ProgramTable) (s : Session) : (t.update s).2 = none ↔
    ∀ v ∈ s.viewport, ∃ row, rowOf s.architecture s.pc v = .ok row := by
  rw [← rowsUpToFault_eq_none_iff]
  unfold update
  dsimp only
  rcases rowsUpToFault s.architecture s.pc s.viewport with ⟨rows, _ | f⟩
  · exact Iff.rfl
  · exact iff_of_false nofun nofun

/-- A table that is written to the end shows the session. -/
theorem shows_update {t : ProgramTable} (hnone : (t.update s).2 = none) :
    (t.update s).1.Shows s := by
  obtain ⟨rows, hrows⟩ := exists_mapM_iff.mpr ((update_eq_none_iff t s).mp hnone)
  obtain ⟨n, hn, hcurrent⟩ := Viewport.exists_current s.program s.pc
  have hhighlighted : ∀ (k : Nat) row, rows[k]? = some row →
      (row.isHighlighted = true ↔ k = n) := by
    intro k row hk
    obtain ⟨v, hv, hrow⟩ := (getElem?_of_mapM hrows k row).mp hk
    rw [isHighlighted_of_rowOf hrow]
    exact hcurrent k v hv
  -- No other row is highlighted, so the first that is found is this one.
  have hfound : currentOf rows = some n := by
    obtain ⟨row, hrow⟩ : ∃ row, rows[n]? = some row := by
      rw [← Option.isSome_iff_exists, isSome_getElem?, length_of_mapM hrows]
      exact (List.getElem?_eq_some_iff.mp hn).1
    obtain ⟨hlt, hat⟩ := List.getElem?_eq_some_iff.mp hrow
    unfold currentOf
    rw [List.findIdx?_eq_some_iff_getElem]
    refine ⟨hlt, hat ▸ (hhighlighted n row hrow).mpr rfl, fun k hk hhigh => ?_⟩
    have hklt := Nat.lt_trans hk hlt
    exact Nat.ne_of_lt hk ((hhighlighted k _ (List.getElem?_eq_getElem hklt)).mp hhigh)
  unfold update
  dsimp only
  rw [rowsUpToFault_of_mapM hrows]
  exact ⟨hrows, n, hfound, hn, hhighlighted⟩

end ProgramTable

end Defusal
