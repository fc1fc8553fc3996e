import Mathlib.Data.List.Induction
import Mathlib.Data.List.TakeWhile
import Defusal.Proofs.Session.Run
import Defusal.Proofs.Window.Layout

/-!
# What the marks on the register panel tell

A value is marked as changed if the panel remembers another value of its register. The panel does
not forget a register that vanishes. So what it remembers is the value written last since it was
cleared (`Remembers`), be it by the session shown just before (`JustShown`) or by an earlier one.

The marks tell what has changed since the session shown just before as long as no session lacks a
register of the one before it (`marks_tell_changes`). A register that vanishes and comes back with
another value is marked although it was not there just before (`marks_mislead`).
-/

namespace Defusal.RegisterPanel

variable {p : RegisterPanel} {s : Session} {name : String} {n : Int}

/-! ## Showing labels -/

/-- The names of the labels that are written: those before the first value that is too long. -/
def writtenNames (value : String → Int) (names : List String) : List String :=
  names.takeWhile fun name => decide ((value name).natAbs < Numeral.writeLimit)

theorem writtenNames_cons_of_write {value : String → Int} {text : String}
    (h : Numeral.write (value name) = .ok text) (names : List String) :
    writtenNames value (name :: names) = name :: writtenNames value names :=
  List.takeWhile_cons_of_pos (decide_eq_true (Numeral.exists_write_iff.mp ⟨text, h⟩))

theorem writtenNames_cons_of_error {value : String → Int} {f : Fault}
    (h : Numeral.write (value name) = .error f) (names : List String) :
    writtenNames value (name :: names) = [] := by
  refine List.takeWhile_cons_of_neg ?_
  rw [decide_eq_true_iff, ← Numeral.exists_write_iff, h]
  exact fun ⟨_, htext⟩ => nomatch htext

/-- The values that are written are remembered, and beyond these nothing changes. -/
theorem get?_showLabels (family : String) (value : String → Int) (ls : List RegisterLabel)
    (shown : Table String Int) (name : String) :
    (showLabels family value ls shown).2.1.get? name =
      if name ∈ writtenNames value (ls.map (·.name)) then some (value name)
      else shown.get? name := by
  induction ls generalizing shown with
  | nil => rfl
  | cons l ls ih =>
    rw [showLabels_cons, List.map_cons]
    cases hwrite : Numeral.write (value l.name) with
    | error f =>
      rw [writtenNames_cons_of_error hwrite, if_neg List.not_mem_nil]
    | ok text =>
      rw [writtenNames_cons_of_write hwrite]
      dsimp only
      rw [ih, Table.get?_put]
      by_cases hname : name = l.name
      · subst hname
        simp only [List.mem_cons, true_or, if_true, ite_self]
      · simp only [List.mem_cons, hname, false_or, if_false]

/-- A value that is written is styled by what is remembered of it, whatever is written before. -/
theorem style_showLabels (family : String) (value : String → Int) (ls : List RegisterLabel)
    (shown : Table String Int) (h : name ∈ writtenNames value (ls.map (·.name))) :
    ((showLabels family value ls shown).1.find? (·.name == name)).bind (·.style) =
      some (valueStyle family ((shown.get? name).any (· != value name))) := by
  induction ls generalizing shown with
  | nil => cases h
  | cons l ls ih =>
    rw [List.map_cons] at h
    rw [showLabels_cons]
    cases hwrite : Numeral.write (value l.name) with
    | error f =>
      rw [writtenNames_cons_of_error hwrite] at h
      cases h
    | ok text =>
      rw [writtenNames_cons_of_write hwrite] at h
      dsimp only
      by_cases hname : name = l.name
      · subst hname
        simp only [List.find?_cons, beq_self_eq_true]
        rfl
      · have hbelow := (List.mem_cons.mp h).resolve_left hname
        rw [List.find?_cons_of_neg (by simpa using Ne.symm hname), ih _ hbelow, Table.get?_put,
          if_neg hname]

/-! ## Showing a session -/

/-- The registers that are written when a panel is told to show a session. -/
def written (p : RegisterPanel) (s : Session) : List String :=
  writtenNames (fun name => (s.registers.table.get? name).getD 0) (p.laidOutFor s).names

/-- The style of the value of a register. -/
def style? (p : RegisterPanel) (name : String) : Option String := (p.label? name).bind (·.style)

/-- The value of a register is marked as changed. -/
def IsMarked (p : RegisterPanel) (name : String) : Prop :=
  p.style? name = some (valueStyle p.family true)

instance (p : RegisterPanel) (name : String) : Decidable (p.IsMarked name) :=
  inferInstanceAs (Decidable (_ = _))

theorem valueStyle_inj {family : String} {b c : Bool} :
    valueStyle family b = valueStyle family c ↔ b = c := by
  refine ⟨fun h => ?_, congrArg _⟩
  have hlist := congrArg String.toList h
  unfold valueStyle at hlist
  simp only [String.toList_append, List.append_cancel_left_eq, List.append_cancel_right_eq] at hlist
  have hcolours : changedColour.toList ≠ settledColour.toList := by decide
  cases b <;> cases c <;> simp_all

theorem mem_of_written (h : name ∈ p.written s) : s.registers.contains name = true :=
  (mem_names_laidOutFor p s name).mp (List.takeWhile_subset _ h)

/-- Where the panel is written to the end, all registers of the session are written. -/
theorem mem_written_iff (h : (p.setSession s).2 = none) :
    name ∈ p.written s ↔ s.registers.contains name = true := by
  refine ⟨mem_of_written, fun hname => ?_⟩
  have hall : ∀ name ∈ (p.laidOutFor s).names,
      decide (((s.registers.table.get? name).getD 0).natAbs < Numeral.writeLimit) = true := by
    intro name hname
    have hcontains := (mem_names_laidOutFor p s name).mp hname
    exact decide_eq_true ((setSession_eq_none_iff p s).mp h _ _ (getD_of_contains hcontains))
  unfold written writtenNames
  rw [List.takeWhile_eq_self_iff.mpr hall]
  exact (mem_names_laidOutFor p s name).mpr hname

/-- Laying a panel out changes neither its font nor what it remembers. -/
theorem kept_laidOutFor (p : RegisterPanel) (s : Session) :
    (p.laidOutFor s).family = p.family ∧ (p.laidOutFor s).shown = p.shown := by
  unfold laidOutFor
  split <;> exact ⟨rfl, rfl⟩

theorem family_setSession (p : RegisterPanel) (s : Session) :
    (p.setSession s).1.family = p.family :=
  (p.kept_laidOutFor s).1

/-- The panel remembers what it wrote, and of every other register what it remembered before. -/
theorem get?_setSession (p : RegisterPanel) (s : Session) (name : String) :
    (p.setSession s).1.shown.get? name =
      if name ∈ p.written s then s.registers.get? name else p.shown.get? name := by
  rw [setSession_eq, (update_eq ..).2.1, get?_showLabels, (p.kept_laidOutFor s).2,
    ← names_eq_map_labels]
  show (if name ∈ p.written s then _ else _) = _
  split
  next h => exact (getD_of_contains (mem_of_written h)).symm
  next => rfl

/-- **A value that is written is marked if and only if another is remembered.** -/
theorem isMarked_setSession_iff (h : name ∈ p.written s) : (p.setSession s).1.IsMarked name ↔
    ∃ n, p.shown.get? name = some n ∧ s.registers.get? name ≠ some n := by
  have hvalue := getD_of_contains (mem_of_written h)
  have hwritten := h
  unfold written at hwritten
  rw [names_eq_map_labels] at hwritten
  have hstyle := style_showLabels (p.laidOutFor s).family _ _ (p.laidOutFor s).shown hwritten
  rw [← (update_eq ..).1, (p.kept_laidOutFor s).1, (p.kept_laidOutFor s).2] at hstyle
  unfold IsMarked
  rw [family_setSession]
  show (((p.setSession s).1.labels.find? (·.name == name)).bind (·.style)) = _ ↔ _
  rw [setSession_eq, hstyle, Option.some_inj, valueStyle_inj, Option.any_eq_true]
  refine exists_congr fun n => and_congr_right fun _ => ?_
  rw [hvalue, bne_iff_ne, ne_comm, Ne, Ne, Option.some_inj]

/-! ## Showing one session after another -/

/-- The last call made the panel write a value of a register. -/
def JustShown (fonts : FontCatalogue) (calls : List Call) (name : String) (n : Int) : Prop :=
  ∃ before s, calls = before ++ [.session s] ∧ name ∈ ((new fonts).follow before).written s ∧
    s.registers.get? name = some n

/-- A value of a register is the last one that some calls made the panel write since it was
cleared. -/
inductive Remembers (fonts : FontCatalogue) : List Call → String → Int → Prop
  | shown {calls : List Call} {name : String} {n : Int} (h : JustShown fonts calls name n) :
      Remembers fonts calls name n
  | kept {calls before : List Call} {s : Session} {name : String} {n : Int}
      (h : calls = before ++ [.session s])
      (hnot : name ∉ ((new fonts).follow before).written s)
      (hbefore : Remembers fonts before name n) : Remembers fonts calls name n

variable {fonts : FontCatalogue} {calls : List Call}

theorem follow_append (p : RegisterPanel) (calls : List Call) (c : Call) :
    p.follow (calls ++ [c]) = (p.follow calls).after c :=
  List.foldl_concat ..

theorem remembers_session_iff : Remembers fonts (calls ++ [.session s]) name n ↔
    if name ∈ ((new fonts).follow calls).written s then s.registers.get? name = some n
    else Remembers fonts calls name n := by
  have hlast {before : List Call} {t : Session}
      (h : calls ++ [.session s] = before ++ [.session t]) : before = calls ∧ t = s := by
    obtain ⟨hbefore, ht⟩ := List.append_inj' h rfl
    cases ht
    exact ⟨hbefore.symm, rfl⟩
  constructor
  · intro h
    cases h with
    | shown h =>
      obtain ⟨before, t, hcalls, hwritten, hn⟩ := h
      obtain ⟨rfl, rfl⟩ := hlast hcalls
      rw [if_pos hwritten]
      exact hn
    | kept hcalls hnot hbefore =>
      obtain ⟨rfl, rfl⟩ := hlast hcalls
      rw [if_neg hnot]
      exact hbefore
  · intro h
    split at h
    next hwritten => exact .shown ⟨calls, s, rfl, hwritten, h⟩
    next hnot => exact .kept rfl hnot h

/-- Nothing is remembered unless a session was shown last. -/
theorem exists_session_of_remembers (h : Remembers fonts calls name n) :
    ∃ s, calls.getLast? = some (.session s) := by
  cases h with
  | shown h =>
    obtain ⟨before, t, rfl, -⟩ := h
    exact ⟨t, List.getLast?_concat ..⟩
  | kept hcalls =>
    subst hcalls
    exact ⟨_, List.getLast?_concat ..⟩

/-- **A panel remembers the values that it wrote last since it was cleared.** -/
theorem get?_follow_iff : ((new fonts).follow calls).shown.get? name = some n ↔
    Remembers fonts calls name n := by
  induction calls using List.reverseRecOn with
  | nil =>
    refine iff_of_false nofun fun h => ?_
    obtain ⟨s, hs⟩ := exists_session_of_remembers h
    cases hs
  | append_singleton calls c ih =>
    rw [follow_append]
    cases c with
    | session s =>
      rw [remembers_session_iff, ← ih]
      show (((new fonts).follow calls).setSession s).1.shown.get? name = some n ↔ _
      rw [get?_setSession]
      split <;> exact Iff.rfl
    | clear =>
      refine iff_of_false nofun fun h => ?_
      obtain ⟨s, hs⟩ := exists_session_of_remembers h
      rw [List.getLast?_concat] at hs
      cases hs

/-- Of the sessions shown since the panel was cleared, each has the registers of the one before it,
and all its registers can be written. -/
def LosesNone (calls : List Call) : Prop :=
  ∀ before t u later, calls = before ++ .session t :: .session u :: later → .clear ∉ later →
    (∀ name, t.registers.contains name = true → u.registers.contains name = true) ∧
      ∀ name n, u.registers.get? name = some n → n.natAbs < Numeral.writeLimit

/-- Where no register is lost, only values that were just shown are remembered. -/
theorem justShown_of_remembers (h : Remembers fonts calls name n) (hcalls : LosesNone calls) :
    JustShown fonts calls name n := by
  induction h with
  | shown h => exact h
  | @kept calls before u name n hlast hnot _ ih =>
    subst hlast
    have hbefore : LosesNone before := by
      rintro earlier t v later rfl hclear
      refine hcalls earlier t v (later ++ [.session u]) (by simp) ?_
      simpa using hclear
    obtain ⟨earlier, t, rfl, hwritten, -⟩ := ih hbefore
    -- The register was written for the session before, so it is there to be written again.
    obtain ⟨hkept, hshort⟩ := hcalls earlier t u [] (by simp) List.not_mem_nil
    have hname := hkept name (mem_of_written hwritten)
    exact absurd ((mem_written_iff ((setSession_eq_none_iff _ u).mpr hshort)).mpr hname) hnot

/-- **What the marks of a register panel tell.** Tell a new panel any calls and then to show a
session. A register whose value is written then is marked if and only if the value written last
since the panel was cleared is another. So it is not marked if no session was shown just before, and
if no register was lost on the way it is marked if and only if the session shown just before had it
with another value. If all values can be written, these are all registers of the session. -/
theorem marks_tell_changes (fonts : FontCatalogue) (calls : List Call) (s : Session) :
    let before := (new fonts).follow calls
    let p := (new fonts).follow (calls ++ [.session s])
    (∀ name ∈ before.written s,
      (p.IsMarked name ↔
        ∃ n, Remembers fonts calls name n ∧ s.registers.get? name ≠ some n) ∧
      ((∀ t, calls.getLast? ≠ some (.session t)) → ¬ p.IsMarked name) ∧
      (LosesNone calls → (p.IsMarked name ↔
        ∃ n, JustShown fonts calls name n ∧ s.registers.get? name ≠ some n))) ∧
      ((∀ name n, s.registers.get? name = some n → n.natAbs < Numeral.writeLimit) →
        ∀ name, name ∈ before.written s ↔ s.registers.contains name = true) := by
  intro before p
  refine ⟨fun name hname => ?_, fun hshort name => ?_⟩
  · have hmarked : p.IsMarked name ↔
        ∃ n, Remembers fonts calls name n ∧ s.registers.get? name ≠ some n := by
      show ((new fonts).follow (calls ++ [.session s])).IsMarked name ↔ _
      rw [follow_append]
      refine (isMarked_setSession_iff hname).trans (exists_congr fun n => ?_)
      rw [get?_follow_iff]
    refine ⟨hmarked, fun hlast hmark => ?_, fun hcalls => hmarked.trans ?_⟩
    · obtain ⟨n, hn, -⟩ := hmarked.mp hmark
      obtain ⟨t, ht⟩ := exists_session_of_remembers hn
      exact hlast t ht
    · refine exists_congr fun n => and_congr_left fun _ => ?_
      exact ⟨fun h => justShown_of_remembers h hcalls, .shown⟩
  · exact mem_written_iff ((setSession_eq_none_iff before s).mpr hshort)

/-- A level in which a register is made, is lost by a travel in time, and is made again with another
value. -/
def remaking : Datum := .map (Level.fieldsOf
  (.list [.text "ADD 0 1 X", .text "ADD T -3 T", .text "TTRAVEL", .text "ADD 0 2 X"])
  (.map [(.text "A", .int 0), (.text "T", .int 0)]))

/-- The marks do not always tell what has changed since the session shown just before: along this
run the register is marked in the end, and the session shown just before does not have it. -/
theorem marks_mislead : ∃ level s, Level.read remaking = .ok level ∧
    Session.create level = .ok s ∧ Session.IsRun s.along 4 ∧
    (s.along 3).registers.get? "X" = none ∧
    ((new ⟨[], "monospace"⟩).follow ([s.along 0, s.along 1, s.along 2, s.along 3, s.along 4].map
      .session)).IsMarked "X" := by
  let level := (Level.read remaking).toOption.getD default
  let s := (Session.create level).toOption.getD default
  have hlevel : Level.read remaking = .ok level := eq_ok_getD (by decide +kernel) default
  have hs : Session.create level = .ok s := eq_ok_getD (by decide +kernel) default
  have hrun : Session.IsRun s.along 4 := Session.isRun_along (by decide +kernel)
  exact ⟨level, s, hlevel, hs, hrun, by decide +kernel, by decide +kernel⟩

end Defusal.RegisterPanel
