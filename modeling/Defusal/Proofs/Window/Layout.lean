import Defusal.Proofs.Level.Refusal
import Defusal.Proofs.Window.Views

/-!
# How the register panel is laid out

The panel is laid out anew for a session only if it has not exactly the session's registers. So what
can be read on it besides the values is the layout of an earlier session: of the first in the row of
those shown last that all have the same registers (`LaidOut`). One session after another keeps this
(`Bears.setSession`), and clearing the panel does not matter to it.

That is the layout of the session shown if both have their registers in the same order and the same
register for the player (`panel_outlined`), and otherwise it is not (`panel_misleads`).
-/

namespace Defusal

/-! ## Layouts as they are read -/

namespace Session

variable {s t : Session}

/-- The groups of a session's registers as a panel should have them: their titles, and the names and
captions of the registers in them. -/
def outline (s : Session) : List (String × List (String × String)) :=
  s.layout.map fun g => (g.title, g.slots.map fun slot => (slot.name, RegisterPanel.caption slot))

/-- Two sessions have registers of the same names, in whatever order. -/
def SameRegisters (s t : Session) : Prop :=
  ∀ name, s.registers.contains name = true ↔ t.registers.contains name = true

theorem SameRegisters.symm (h : s.SameRegisters t) : t.SameRegisters s := fun name => (h name).symm

theorem SameRegisters.trans {u : Session} (h : s.SameRegisters t) (h' : t.SameRegisters u) :
    s.SameRegisters u :=
  fun name => (h name).trans (h' name)

/-- Two sessions have the registers besides the clock in the same order, and the same one of them is
the player's. -/
structure SameLayout (s t : Session) : Prop where
  names : s.registers.names.filter (· != clockName) = t.registers.names.filter (· != clockName)
  player : ∀ name ∈ t.registers.names.filter (· != clockName),
    (name = s.level.playerRegister ↔ name = t.level.playerRegister)

/-- Whether a register is marked as the player's can be read off its caption. -/
theorem isPlayers_of_caption_eq {name : String} {b c : Bool}
    (h : RegisterPanel.caption ⟨name, b⟩ = RegisterPanel.caption ⟨name, c⟩) : b = c := by
  have hlength := congrArg String.length h
  unfold RegisterPanel.caption at hlength
  simp only [String.length_append] at hlength
  have hmark : " (input)".length = 8 := rfl
  have hnone : "".length = 0 := rfl
  cases b <;> cases c <;> simp_all

/-- The names and the captions of the registers besides the clock. -/
def captioned (s : Session) : List (String × String) :=
  (s.registers.names.filter (· != clockName)).map fun name =>
    (name, RegisterPanel.caption ⟨name, name == s.level.playerRegister⟩)

theorem outline_eq (s : Session) : s.outline = [("Registers", s.captioned),
    ("Time", [(clockName, RegisterPanel.caption ⟨clockName, false⟩)])] := by
  unfold outline layout registerLayout captioned
  simp only [List.map_cons, List.map_nil, List.map_map]
  rfl

theorem names_captioned (s : Session) :
    s.captioned.map Prod.fst = s.registers.names.filter (· != clockName) := by
  unfold captioned
  rw [List.map_map]
  exact List.map_id' _

/-- Two sessions are laid out alike if and only if the order of their registers and the player's
register agree. -/
theorem outline_eq_iff : s.outline = t.outline ↔ s.SameLayout t := by
  have hcaptioned : s.outline = t.outline ↔ s.captioned = t.captioned := by
    rw [outline_eq, outline_eq]
    simp only [List.cons.injEq, Prod.mk.injEq, true_and, and_true]
  rw [hcaptioned]
  constructor
  · intro h
    have hnames := congrArg (List.map Prod.fst) h
    rw [names_captioned, names_captioned] at hnames
    refine ⟨hnames, fun name hname => ?_⟩
    unfold captioned at h
    rw [hnames, List.map_inj_left] at h
    have hcaption := isPlayers_of_caption_eq (congrArg Prod.snd (h name hname))
    rw [← beq_iff_eq (b := s.level.playerRegister), hcaption, beq_iff_eq]
  · rintro ⟨hnames, hplayer⟩
    unfold captioned
    rw [hnames, List.map_inj_left]
    intro name hname
    have hmark : (name == s.level.playerRegister) = (name == t.level.playerRegister) := by
      rw [Bool.eq_iff_iff, beq_iff_eq, beq_iff_eq]
      exact hplayer name hname
    rw [hmark]

end Session

namespace RegisterPanel

variable {p : RegisterPanel} {s t : Session}

/-- What can be read on a panel besides the values: the titles of its groups, and the names and
captions of the registers in them. -/
def outline (p : RegisterPanel) : List (String × List (String × String)) :=
  p.boxes.map fun b => (b.title, b.labels.map fun l => (l.name, l.caption))

theorem outline_layOut (p : RegisterPanel) (s : Session) : (p.layOut s).outline = s.outline := by
  unfold outline layOut Session.outline
  rw [List.map_map]
  refine List.map_congr_left fun g _ => ?_
  show (g.title, (g.slots.map blankLabel).map fun l => (l.name, l.caption)) = _
  rw [List.map_map]
  rfl

/-- Only laying it out changes what can be read on a panel besides the values. -/
theorem outline_setSession (p : RegisterPanel) (s : Session) :
    (p.setSession s).1.outline = (p.laidOutFor s).outline :=
  map_showBoxes (fun _ _ _ => rfl) ..

theorem names_eq_of_outline {q : RegisterPanel} (h : p.outline = q.outline) :
    p.names = q.names := by
  have hnames (r : RegisterPanel) : r.names = r.outline.flatMap fun g => g.2.map Prod.fst := by
    unfold names outline
    rw [List.flatMap_map]
    refine List.flatMap_congr fun b _ => ?_
    rw [List.map_map]
    rfl
  rw [hnames, hnames, h]

/-- A panel laid out for a session has its registers. -/
theorem mem_names_of_outline (h : p.outline = s.outline) (name : String) :
    name ∈ p.names ↔ s.registers.contains name = true := by
  rw [← mem_names_layOut p s name, names_eq_of_outline (h.trans (outline_layOut p s).symm)]

theorem fits_iff : p.fits s = true ↔
    ∀ name, name ∈ p.names ↔ s.registers.contains name = true := by
  constructor
  · exact mem_names_of_fits
  · intro h
    unfold fits
    rw [Bool.and_eq_true, List.all_eq_true, List.all_eq_true]
    constructor
    · intro name hname
      exact List.contains_iff_mem.mpr ((Registers.contains_iff_mem_names ..).mp ((h name).mp hname))
    · intro name hname
      exact List.contains_iff_mem.mpr ((h name).mpr ((Registers.contains_iff_mem_names ..).mpr hname))

/-! ## Calls -/

/-- What a panel can be told: to show a session, or to forget the values it has shown. -/
inductive Call where
  | session (s : Session)
  | clear

/-- The panel after a call; one that breaks off leaves what it has done. -/
def after (p : RegisterPanel) : Call → RegisterPanel
  | .session s => (p.setSession s).1
  | .clear => p.clear

/-- The panel after some calls. -/
def follow (p : RegisterPanel) (calls : List Call) : RegisterPanel := calls.foldl after p

/-- The sessions that some calls show. -/
def sessions (calls : List Call) : List Session :=
  calls.filterMap fun
    | .session s => some s
    | .clear => none

/-- Of a row of sessions, the first of those at its end that all have the same registers. -/
def LaidOut (ss : List Session) (s₀ : Session) : Prop :=
  ∃ before after, ss = before ++ s₀ :: after ∧ (∀ t ∈ after, t.SameRegisters s₀) ∧
    ∀ t, before.getLast? = some t → ¬ t.SameRegisters s₀

/-- A panel bears the layout of the session that `LaidOut` says, after a row of sessions. -/
def Bears (ss : List Session) (p : RegisterPanel) : Prop :=
  ss = [] ∧ p.names = [] ∨ ∃ s₀, LaidOut ss s₀ ∧ p.outline = s₀.outline

theorem LaidOut.getLast? {ss : List Session} {s₀ : Session} (h : LaidOut ss s₀) :
    ∃ t, ss.getLast? = some t ∧ t.SameRegisters s₀ := by
  obtain ⟨before, after, rfl, hafter, -⟩ := h
  rw [List.getLast?_append_cons]
  cases hlast : (s₀ :: after).getLast? with
  | none => exact absurd (List.getLast?_eq_none_iff.mp hlast) (List.cons_ne_nil _ _)
  | some t =>
    refine ⟨t, rfl, ?_⟩
    rcases List.mem_cons.mp (List.mem_of_getLast? hlast) with rfl | ht
    · exact fun _ => Iff.rfl
    · exact hafter t ht

/-- **Showing a session keeps the layout where the panel has its registers**, and makes it the
session's own everywhere else. -/
theorem Bears.setSession {ss : List Session} (h : Bears ss p) (s : Session) :
    Bears (ss ++ [s]) (p.setSession s).1 := by
  refine .inr ?_
  rw [outline_setSession]
  unfold laidOutFor
  split
  next hfits =>
    rcases h with ⟨-, hnone⟩ | ⟨s₀, ⟨before, after, rfl, hafter, hbefore⟩, houtline⟩
    · -- A panel without registers has not even the clock.
      have hclock := (mem_names_of_fits hfits clockName).mpr s.registers.hasClock
      rw [hnone] at hclock
      cases hclock
    · have hsame : s.SameRegisters s₀ := fun name => by
        rw [← mem_names_of_fits hfits, mem_names_of_outline houtline]
      refine ⟨s₀, ⟨before, after ++ [s], by simp, ?_, hbefore⟩, houtline⟩
      intro t ht
      rcases List.mem_append.mp ht with ht | ht
      · exact hafter t ht
      · rw [List.mem_singleton.mp ht]
        exact hsame
  next hfits =>
    refine ⟨s, ⟨ss, [], rfl, List.forall_mem_nil _, fun t ht hsame => hfits ?_⟩,
      outline_layOut p s⟩
    -- Had the session before the same registers, they would be on the panel.
    rcases h with ⟨rfl, -⟩ | ⟨s₀, hlaid, houtline⟩
    · cases ht
    · obtain ⟨t', ht', hsame'⟩ := hlaid.getLast?
      cases ht.symm.trans ht'
      rw [fits_iff]
      intro name
      rw [mem_names_of_outline houtline, ← hsame' name]
      exact hsame name

theorem Bears.follow {ss : List Session} (h : Bears ss p) (calls : List Call) :
    Bears (ss ++ sessions calls) (p.follow calls) := by
  induction calls generalizing ss p with
  | nil => rw [show sessions [] = [] from rfl, List.append_nil]; exact h
  | cons c calls ih =>
    cases c with
    | session s =>
      have hnext := ih (h.setSession s)
      rwa [List.append_assoc] at hnext
    | clear => exact ih h

theorem sessions_append (calls : List Call) (s : Session) :
    sessions (calls ++ [.session s]) = sessions calls ++ [s] := by
  unfold sessions
  rw [List.filterMap_append]
  rfl

/-- **A register panel is laid out as an earlier session has it.** Tell a new panel any calls and
then to show a session. What can be read on it besides the values is the layout of the first of
those sessions at the end that all have the registers of the last. That is the layout of the session
shown if and only if these two have their registers in the same order and the same one for the
player; so it is if this holds of the session shown and of every one before with its registers. -/
theorem panel_outlined (fonts : FontCatalogue) (calls : List Call) (s : Session) :
    let p := (new fonts).follow (calls ++ [.session s])
    (∃ s₀, LaidOut (sessions calls ++ [s]) s₀ ∧ p.outline = s₀.outline ∧
      (p.outline = s.outline ↔ s₀.SameLayout s)) ∧
      ((∀ t ∈ sessions calls, t.SameRegisters s → t.SameLayout s) → p.outline = s.outline) := by
  intro p
  have hbears : Bears (sessions calls ++ [s]) p := by
    have h : Bears [] (new fonts) := .inl ⟨rfl, rfl⟩
    have hfollow := h.follow (calls ++ [.session s])
    rwa [sessions_append] at hfollow
  rcases hbears with ⟨hnil, -⟩ | ⟨s₀, hlaid, houtline⟩
  · exact absurd hnil (List.append_ne_nil_of_right_ne_nil _ (List.cons_ne_nil _ _))
  · have hiff : p.outline = s.outline ↔ s₀.SameLayout s := by
      rw [houtline, Session.outline_eq_iff]
    refine ⟨⟨s₀, hlaid, houtline, hiff⟩, fun hsame => hiff.mpr ?_⟩
    -- The session of the layout is the one shown or comes before it.
    obtain ⟨t, ht, hregisters⟩ := hlaid.getLast?
    rw [List.getLast?_append_cons] at ht
    cases ht
    obtain ⟨before, after, hsplit, -, -⟩ := hlaid
    have hmem : s₀ ∈ sessions calls ++ [s] := by
      rw [hsplit]
      exact List.mem_append_right _ (List.mem_cons_self ..)
    rcases List.mem_append.mp hmem with hearlier | hlast
    · exact hsame s₀ hearlier hregisters.symm
    · rw [List.mem_singleton.mp hlast]
      exact ⟨rfl, fun _ _ => Iff.rfl⟩

/-- A level with two registers besides the clock, of which one is the player's. -/
def playedOn (register : String) : Datum := .map ((.text "player_register", .text register) ::
  Level.fieldsOf (.list []) (.map [(.text "A", .int 0), (.text "B", .int 0), (.text "T", .int 0)]))

/-- The panel does not always have the layout of the session shown: of two games with the same
registers but not the same one for the player, the second is shown with the mark on the register of
the first. -/
theorem panel_misleads : ∃ a b s t, Level.read (playedOn "A") = .ok a ∧
    Level.read (playedOn "B") = .ok b ∧ Session.create a = .ok s ∧ Session.create b = .ok t ∧
    let p := (new ⟨[], "monospace"⟩).follow [.session s, .session t]
    p.outline = s.outline ∧ p.outline ≠ t.outline := by
  let a := (Level.read (playedOn "A")).toOption.getD default
  let b := (Level.read (playedOn "B")).toOption.getD default
  let s := (Session.create a).toOption.getD default
  let t := (Session.create b).toOption.getD default
  have ha : Level.read (playedOn "A") = .ok a := eq_ok_getD (by decide +kernel) default
  have hb : Level.read (playedOn "B") = .ok b := eq_ok_getD (by decide +kernel) default
  have hs : Session.create a = .ok s := eq_ok_getD (by decide +kernel) default
  have ht : Session.create b = .ok t := eq_ok_getD (by decide +kernel) default
  exact ⟨a, b, s, t, ha, hb, hs, ht, by decide +kernel, by decide +kernel⟩

end RegisterPanel

end Defusal
