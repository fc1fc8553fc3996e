import Defusal.Proofs.Level.Kept
import Defusal.Proofs.Window.Driving
import Defusal.Proofs.Window.Views

/-!
# What the window shows

The window keeps its game apart from what it shows of it: the views, the buttons and the banner are
written when a game is displayed, and the timer is started and stopped by the events. `Sound` is the
bundle of facts that hold between events in spite of that. A new window is sound (`sound_new`), and
every event keeps it so, whether or not it is broken off (`Sound.handle`); all of them come down to
what displaying a game does (`sound_display`).

What a window shows is its game, if there is nothing in the game that is too long to be written
(`window_shows_game`). If there is, displaying the game is broken off, and the buttons are left as
they were for another one (`window_lags_behind`).
-/

namespace Defusal

/-! ## What can be shown -/

/-- The number and the instruction of a row can be written. -/
def ViewportRow.Presentable (a : Architecture) : ViewportRow → Prop
  | line number i => number.natAbs < Numeral.writeLimit ∧ (∃ text, a.format i = .ok text) ∧
    ∃ tooltip, a.explain i = .ok tooltip
  | gap => True

theorem ViewportRow.presentable_iff {a : Architecture} {pc : Int} {v : ViewportRow} :
    v.Presentable a ↔ ∃ row, ProgramTable.rowOf a pc v = .ok row := by
  cases v with
  | gap => exact iff_of_true trivial ⟨_, rfl⟩
  | line number i =>
    show (number.natAbs < Numeral.writeLimit ∧ _) ↔ _
    rw [← Numeral.exists_write_iff]
    constructor
    · rintro ⟨⟨line, hline⟩, ⟨text, htext⟩, tooltip, htooltip⟩
      refine ⟨⟨line, text, tooltip, (ViewportRow.line number i).isCurrent pc, false⟩, ?_⟩
      show (Numeral.write number >>= fun line => a.format i >>= fun text =>
        a.explain i >>= fun tooltip => pure (ProgramRow.mk line text tooltip _ false)) = _
      rw [hline, htext, htooltip]
      rfl
    · rintro ⟨row, hrow⟩
      obtain ⟨line, hline, hrow⟩ := bind_eq_ok hrow
      obtain ⟨text, htext, hrow⟩ := bind_eq_ok hrow
      obtain ⟨tooltip, htooltip, -⟩ := bind_eq_ok hrow
      exact ⟨⟨line, hline⟩, ⟨text, htext⟩, tooltip, htooltip⟩

instance (a : Architecture) : (v : ViewportRow) → Decidable (v.Presentable a)
  | .line number i => inferInstanceAs (Decidable (number.natAbs < Numeral.writeLimit ∧
      (∃ text, a.format i = .ok text) ∧ ∃ tooltip, a.explain i = .ok tooltip))
  | .gap => isTrue trivial

/-- The registers of a session and the visible part of its program can be written. -/
structure Session.Presentable (s : Session) : Prop where
  registers : ∀ name n, s.registers.get? name = some n → n.natAbs < Numeral.writeLimit
  rows : ∀ v ∈ s.viewport, v.Presentable s.architecture

/-- A session can be written if its registers and the surroundings of its lines can. -/
theorem Session.presentable_iff {s : Session} : s.Presentable ↔
    (∀ name ∈ s.registers.names, ((s.registers.get? name).getD 0).natAbs < Numeral.writeLimit) ∧
      ∀ l ∈ s.program.lines ++ [s.pc], ∀ line ∈ Viewport.around l,
        (ViewportRow.line line (s.program.get line)).Presentable s.architecture := by
  constructor
  · intro h
    refine ⟨fun name hname => ?_, fun l hl line hline => h.rows _ ?_⟩
    · obtain ⟨n, hn⟩ := Option.isSome_iff_exists.mp ((Table.contains_iff ..).mpr hname)
      have hn : s.registers.get? name = some n := hn
      rw [hn]
      exact h.registers name n hn
    · refine Viewport.line_mem_rows_iff.mpr ⟨Viewport.mem_visibleLines.mpr ⟨l, ?_, hline⟩, rfl⟩
      rwa [List.mem_append, List.mem_singleton] at hl
  · rintro ⟨hregisters, hlines⟩
    refine ⟨fun name n hn => ?_, fun v hv => ?_⟩
    · have hlt := hregisters name ((Table.contains_iff ..).mp (Option.isSome_of_eq_some hn))
      rw [hn] at hlt
      exact hlt
    · cases v with
      | gap => trivial
      | line line i =>
        obtain ⟨hvisible, rfl⟩ := Viewport.line_mem_rows_iff.mp hv
        obtain ⟨l, hl, hline⟩ := Viewport.mem_visibleLines.mp hvisible
        refine hlines l ?_ line hline
        rwa [List.mem_append, List.mem_singleton]

instance (s : Session) : Decidable s.Presentable := decidable_of_iff _ s.presentable_iff.symm

/-- A step that does not end the game leaves it running. -/
theorem Session.running_of_step {s s' : Session} (h : s.step = .ok s')
    (hlive : s'.isTerminal = false) : s'.status = .running := by
  rcases step_cases h with ⟨hover, rfl⟩ | ⟨-, snap, -, rfl⟩
  · cases hover.symm.trans hlive
  · show Status.ofOutcome snap.machine.outcome = .running
    have hlive : (Status.ofOutcome snap.machine.outcome).isTerminal = false := hlive
    generalize snap.machine.outcome = o at hlive ⊢
    rcases o with _ | _ | _
    · rfl
    · cases hlive
    · cases hlive

namespace Window

variable {w : Window} {s : Session}

/-- The buttons, the banner and the views of a window are those of a game. -/
structure Shows (w : Window) (s : Session) : Prop where
  run_iff : w.runEnabled = true ↔ s.status = .waiting
  step_iff : w.stepEnabled = true ↔ s.isTerminal = false
  won_iff : w.statusText = "Bomb defused! You win!" ↔ s.status = .won
  lost_iff : w.statusText = "Boom! The bomb exploded!" ↔ s.status = .lost
  plain : s.isTerminal = false → w.statusText = ""
  panel : w.panel.Shows s
  table : w.table.Shows s

/-- Nothing is shown but what can be written. -/
theorem Shows.presentable (h : w.Shows s) : s.Presentable where
  registers := by
    intro name n hn
    have hcontains : s.registers.contains name = true := by
      unfold Registers.contains Table.contains
      exact Option.isSome_of_eq_some hn
    obtain ⟨l, hl, rfl⟩ := List.mem_map.mp ((h.panel.mem_iff name).mpr hcontains)
    obtain ⟨m, hm, hwrite⟩ := h.panel.value l hl
    cases hn.symm.trans hm
    exact Numeral.exists_write_iff.mp ⟨_, hwrite⟩
  rows := fun v hv =>
    ViewportRow.presentable_iff.mpr (exists_mapM_iff.mp ⟨_, h.table.rows⟩ v hv)

/-- The row of the list, the input and the timer are no part of what is shown of a game. -/
theorem Shows.besides (h : w.Shows s) (row : Option Nat) (playerValue : Int)
    (timerActive : Bool) : { w with row, playerValue, timerActive }.Shows s :=
  ⟨h.run_iff, h.step_iff, h.won_iff, h.lost_iff, h.plain, h.panel, h.table⟩

/-- The text of the banner. -/
def bannerText (status : Status) : String := ((banner? status).map Prod.fst).getD ""

theorem refreshControls_eq (w : Window) (s : Session) : w.refreshControls s = { w with
    runEnabled := s.status == .waiting && !w.timerActive
    stepEnabled := !s.isTerminal
    statusText := bannerText s.status
    statusStyle := ((banner? s.status).getD ("", w.statusStyle)).2 } := by
  unfold refreshControls bannerText
  cases s.status <;> rfl

theorem bannerText_cases (status : Status) :
    (bannerText status = "Bomb defused! You win!" ↔ status = .won) ∧
      (bannerText status = "Boom! The bomb exploded!" ↔ status = .lost) ∧
      (status.isTerminal = false → bannerText status = "") := by
  cases status <;> decide

/-- Refreshing the buttons and the banner completes what is shown, if the timer runs for no game but
a running one. -/
theorem shows_refreshControls (htimer : w.timerActive = true → s.status = .running)
    (hpanel : w.panel.Shows s) (htable : w.table.Shows s) : (w.refreshControls s).Shows s := by
  have hrun : (s.status == .waiting && !w.timerActive) = true ↔ s.status = .waiting := by
    rw [Bool.and_eq_true, beq_iff_eq, Bool.not_eq_true']
    refine and_iff_left_of_imp fun hwaiting => Bool.of_not_eq_true fun hactive => ?_
    cases hwaiting.symm.trans (htimer hactive)
  have hstep : (!s.isTerminal) = true ↔ s.isTerminal = false := by rw [Bool.not_eq_true']
  obtain ⟨hwon, hlost, hplain⟩ := bannerText_cases s.status
  rw [refreshControls_eq]
  exact ⟨hrun, hstep, hwon, hlost, hplain, hpanel, htable⟩

/-! ## Between events -/

/-- What was chosen so far: the row of the list, and the level that was selected last. -/
structure Choice where
  row : Option Nat
  level : Option Level

/-- The place that a row number gives in a list of levels. -/
def Choice.place? (levels : List Level) (row : Int) : Option Nat :=
  if 0 ≤ row ∧ row < levels.length then some row.toNat else none

/-- The choice after a level was selected by its row; a row outside the list selects none. -/
def Choice.select (levels : List Level) (c : Choice) (place : Option Nat) : Choice :=
  { c with level := (place.bind fun n => levels[n]?).or c.level }

/-- What an event chooses. The list tells only of a choice that differs from the one before. -/
def Choice.after (levels : List Level) (c : Choice) : Event → Choice
  | .chooseRow row =>
    let place := place? levels row
    if place = c.row then c else { c with row := place }.select levels place
  | .selectLevel row => c.select levels (place? levels row)
  | _ => c

/-- What some events choose, from no choice at all. -/
def Choice.made (levels : List Level) (events : List Event) : Choice :=
  events.foldl (Choice.after levels) ⟨none, none⟩

/-- What holds of a window between events. -/
structure Sound (levels : List Level) (c : Choice) (w : Window) : Prop where
  levels_eq : w.levels = levels
  row_eq : w.row = c.row
  level_eq : w.session.map (·.level) = c.level
  timer : w.timerActive = true → ∃ s, w.session = some s ∧ s.status = .running
  nodup : w.panel.names.Nodup
  shows : ∀ s, w.session = some s → s.Presentable → w.Shows s

variable {levels : List Level} {c : Choice}

theorem sound_new (fonts : FontCatalogue) (levels : List Level) :
    Sound levels ⟨none, none⟩ (new fonts levels) where
  levels_eq := rfl
  row_eq := rfl
  level_eq := rfl
  timer := nofun
  nodup := List.nodup_nil
  shows := fun _ h => nomatch h

theorem sound_of_session (hsession : w.session = some s) (hlevels : w.levels = levels)
    (hrow : w.row = c.row) (hlevel : c.level = some s.level)
    (htimer : w.timerActive = true → s.status = .running) (hnodup : w.panel.names.Nodup)
    (hshows : s.Presentable → w.Shows s) : Sound levels c w where
  levels_eq := hlevels
  row_eq := hrow
  level_eq := by rw [hsession, hlevel]; rfl
  timer := fun h => ⟨s, hsession, htimer h⟩
  nodup := hnodup
  shows := by
    intro t ht hp
    cases hsession.symm.trans ht
    exact hshows hp

/-- A game can be written if and only if both views can be written to the end, whatever they showed
before. -/
theorem presentable_iff (w : Window) : s.Presentable ↔
    (w.panel.setSession s).2 = none ∧ (w.table.update s).2 = none := by
  rw [RegisterPanel.setSession_eq_none_iff, ProgramTable.update_eq_none_iff]
  simp only [← ViewportRow.presentable_iff]
  exact ⟨fun h => ⟨h.registers, h.rows⟩, fun ⟨hregisters, hrows⟩ => ⟨hregisters, hrows⟩⟩

/-- A game that can be written is displayed to the end. -/
theorem display_of_presentable (w : Window) (h : s.Presentable) : w.display s =
    ({ w with
      session := some s
      panel := (w.panel.setSession s).1
      table := (w.table.update s).1 }.refreshControls s, none) := by
  obtain ⟨hpanel, htable⟩ := w.presentable_iff.mp h
  unfold display
  dsimp only
  generalize w.panel.setSession s = panelled at hpanel ⊢
  generalize w.table.update s = tabled at htable ⊢
  obtain ⟨panel, _⟩ := panelled
  obtain ⟨table, _⟩ := tabled
  cases hpanel
  cases htable
  rfl

/-- Displaying any other game is broken off before the buttons are written. -/
theorem display_of_not_presentable (w : Window) (h : ¬ s.Presentable) : ∃ table f, w.display s =
    ({ w with session := some s, panel := (w.panel.setSession s).1, table }, some f) := by
  rw [w.presentable_iff] at h
  unfold display
  dsimp only
  generalize w.panel.setSession s = panelled at h ⊢
  generalize w.table.update s = tabled at h ⊢
  rcases panelled with ⟨panel, _ | f⟩
  · rcases tabled with ⟨table, _ | f⟩
    · exact absurd ⟨rfl, rfl⟩ h
    · exact ⟨table, f, rfl⟩
  · exact ⟨w.table, f, rfl⟩

/-- A game is displayed to the end if and only if it can be written. -/
theorem display_eq_none_iff (w : Window) (s : Session) :
    (w.display s).2 = none ↔ s.Presentable := by
  constructor
  · intro h
    refine Decidable.byContradiction fun hp => ?_
    obtain ⟨table, f, hdisplay⟩ := w.display_of_not_presentable hp
    rw [hdisplay] at h
    cases h
  · intro hp
    rw [w.display_of_presentable hp]

/-- **Displaying a game makes a window sound**, even where it is broken off. -/
theorem sound_display (hlevels : w.levels = levels) (hrow : w.row = c.row)
    (hlevel : c.level = some s.level) (htimer : w.timerActive = true → s.status = .running)
    (hnodup : w.panel.names.Nodup) : Sound levels c (w.display s).1 := by
  have hnames := RegisterPanel.nodup_setSession hnodup s
  by_cases hp : s.Presentable
  · obtain ⟨hpanel, htable⟩ := w.presentable_iff.mp hp
    have hdisplay := w.display_of_presentable hp
    have hshows : (w.display s).1.Shows s := by
      rw [hdisplay]
      exact shows_refreshControls htimer (RegisterPanel.shows_setSession hnodup hpanel)
        (ProgramTable.shows_update htable)
    rw [refreshControls_eq] at hdisplay
    rw [hdisplay] at hshows ⊢
    exact sound_of_session rfl hlevels hrow hlevel htimer hnames fun _ => hshows
  · obtain ⟨table, f, hdisplay⟩ := w.display_of_not_presentable hp
    rw [hdisplay]
    exact sound_of_session rfl hlevels hrow hlevel htimer hnames fun h => absurd h hp

/-! ## Events -/

section Events

variable (h : Sound levels c w)
include h

/-- The input may be set and the timer may be stopped. -/
theorem Sound.besides (playerValue : Int) {timerActive : Bool}
    (hactive : timerActive = true → w.timerActive = true) :
    Sound levels c { w with playerValue, timerActive } where
  levels_eq := h.levels_eq
  row_eq := h.row_eq
  level_eq := h.level_eq
  timer := fun ht => h.timer (hactive ht)
  nodup := h.nodup
  shows := fun s hs hp => (h.shows s hs hp).besides w.row playerValue timerActive

theorem Sound.stopTimer : Sound levels c w.stopTimer := h.besides w.playerValue nofun

theorem Sound.setRow (row : Option Nat) : Sound levels { c with row } { w with row } where
  levels_eq := h.levels_eq
  row_eq := rfl
  level_eq := h.level_eq
  timer := h.timer
  nodup := h.nodup
  shows := fun s hs hp => (h.shows s hs hp).besides row w.playerValue w.timerActive

theorem Sound.level_of_session (hs : w.session = some s) : c.level = some s.level := by
  rw [← h.level_eq, hs]
  rfl

/-- A window whose timer stands still displays games of its level soundly. -/
theorem Sound.display (hlevel : c.level = some s.level)
    (htimer : w.timerActive = true → s.status = .running) : Sound levels c (w.display s).1 :=
  sound_display h.levels_eq h.row_eq hlevel htimer h.nodup

theorem Sound.selectLevel (hlevels : ∀ level ∈ levels, ∃ s, Session.create level = .ok s)
    (place : Option Nat) : Sound levels (c.select levels place) (w.selectLevel place).1 := by
  unfold Choice.select Window.selectLevel
  rw [h.levels_eq]
  cases hplace : place.bind fun n => levels[n]? with
  | none => exact h
  | some level =>
    obtain ⟨n, -, hn⟩ := Option.bind_eq_some_iff.mp hplace
    obtain ⟨s, hs⟩ := hlevels level (List.mem_of_getElem? hn)
    dsimp only
    rw [hs]
    have hlevel := Session.fresh_level hs
    exact sound_display h.levels_eq h.row_eq (congrArg some hlevel.symm) nofun h.nodup

theorem Sound.place_eq (row : Int) : w.place? row = Choice.place? levels row := by
  unfold Window.place? Choice.place?
  rw [h.levels_eq]

theorem Sound.chooseRow (hlevels : ∀ level ∈ levels, ∃ s, Session.create level = .ok s)
    (row : Int) : Sound levels (c.after levels (.chooseRow row)) (w.chooseRow row).1 := by
  unfold Window.chooseRow Choice.after
  dsimp only
  rw [h.place_eq, h.row_eq]
  split
  · exact h
  · exact (h.setRow _).selectLevel hlevels _

theorem Sound.reset : Sound levels c w.reset.1 := by
  unfold Window.reset
  split
  next => exact h
  next s hs =>
    dsimp only
    cases hreset : s.reset (.int w.stopTimer.playerValue) with
    | error f => exact h.stopTimer
    | ok t =>
      have hlevel : t.level = s.level := Session.fresh_level hreset
      exact sound_display h.levels_eq h.row_eq (hlevel ▸ h.level_of_session hs) nofun h.nodup

theorem Sound.setValue (n : Int) : Sound levels c (w.setValue n).1 := by
  unfold Window.setValue
  split
  · exact h
  · exact (h.besides _ id).reset

theorem Sound.run : Sound levels c w.run.1 := by
  unfold Window.run
  split
  next => exact h
  next s hs =>
    split
    next hwaiting =>
      -- The timer starts before the game is displayed, which is running by then.
      have hstart : s.start = { s with status := .running } := if_pos hwaiting
      have hlevel : c.level = some s.level := h.level_of_session hs
      rw [hstart]
      exact sound_display h.levels_eq h.row_eq hlevel (fun _ => rfl) h.nodup
    next => exact h

theorem Sound.step : Sound levels c w.step.1 := by
  unfold Window.step
  split
  next => exact h
  next s hs =>
    rw [Session.step_start]
    unfold Window.displayIfOk
    cases hstep : s.step with
    | error f =>
      -- The game stays as it was, and so does what is shown of it.
      exact h.stopTimer
    | ok t =>
      have hlevel := Session.step_level hstep
      exact h.stopTimer.display (hlevel ▸ h.level_of_session hs) nofun

theorem Sound.tick : Sound levels c w.tick.1 := by
  unfold Window.tick
  split
  next => exact h.stopTimer
  next s hs =>
    split
    next => exact h.stopTimer
    next hlive =>
      cases hstep : s.step with
      | error f => exact h
      | ok t =>
        have hlevel : c.level = some t.level := by
          rw [Session.step_level hstep]
          exact h.level_of_session hs
        dsimp only
        -- The timer stops with the game, so while it is active the game is running.
        split
        next => exact h.stopTimer.display hlevel nofun
        next hlive' =>
          exact h.display hlevel fun _ => Session.running_of_step hstep (by simpa using hlive')

/-- **Every event keeps a window sound**, whether or not it is broken off. -/
theorem Sound.handle (hlevels : ∀ level ∈ levels, ∃ s, Session.create level = .ok s) (e : Event) :
    Sound levels (c.after levels e) (w.handle e).1 := by
  cases e with
  | chooseRow row => exact h.chooseRow hlevels row
  | selectLevel row =>
    show Sound levels (c.select levels (Choice.place? levels row)) (w.selectLevel _).1
    rw [h.place_eq]
    exact h.selectLevel hlevels _
  | setValue n => exact h.setValue n
  | reset => exact h.reset
  | run => exact h.run
  | step => exact h.step
  | tick => exact h.tick

theorem Sound.follow (hlevels : ∀ level ∈ levels, ∃ s, Session.create level = .ok s)
    (events : List Event) :
    Sound levels (events.foldl (Choice.after levels) c) (w.follow events) := by
  induction events generalizing c w with
  | nil => exact h
  | cons e events ih => exact ih (h.handle hlevels e)

end Events

/-- A step to a game that cannot be written is made, and leaves the buttons and the banner as they
were. -/
theorem step_of_not_presentable {s' : Session} (hs : w.session = some s) (hstep : s.step = .ok s')
    (hlate : ¬ s'.Presentable) : w.step.1.session = some s' ∧
      w.step.1.runEnabled = w.runEnabled ∧ w.step.1.stepEnabled = w.stepEnabled ∧
      w.step.1.statusText = w.statusText := by
  have hdisplayed : w.step = w.stopTimer.display s' := by
    unfold step displayIfOk
    rw [hs]
    dsimp only
    rw [Session.step_start, hstep]
  obtain ⟨table, f, hdisplay⟩ := w.stopTimer.display_of_not_presentable hlate
  rw [hdisplayed, hdisplay]
  exact ⟨rfl, rfl, rfl, rfl⟩

theorem session_selectLevel {level : Level} {place : Option Nat}
    (hlevel : (place.bind fun n => w.levels[n]?) = some level)
    (hs : Session.create level = .ok s) : (w.selectLevel place).1.session = some s := by
  unfold selectLevel
  rw [hlevel]
  dsimp only
  rw [hs]
  exact session_display _ s

/-- A window that is opened on a level has a game of it. -/
theorem session_new_chooseRow {level : Level} (fonts : FontCatalogue)
    (hs : Session.create level = .ok s) :
    ((new fonts [level]).handle (.chooseRow 0)).1.session = some s := by
  show (selectLevel { new fonts [level] with row := some 0 } (some 0)).1.session = _
  exact session_selectLevel rfl hs

theorem follow_cons (w : Window) (e : Event) (events : List Event) :
    w.follow (e :: events) = (w.handle e).1.follow events := rfl

theorem follow_nil (w : Window) : w.follow [] = w := rfl

/-- **A window shows its game.** Open a window on levels that were accepted, and let any events
happen to it, whether or not they are broken off. If it has a game then, it is a game of the level
that was selected last, and the timer runs only if the game does. The window shows the game in its
buttons, its banner, its registers and its program if and only if the registers and the visible
lines of the game can be written. -/
theorem window_shows_game (fonts : FontCatalogue) {levels : List Level}
    (haccepted : ∀ level ∈ levels, ∃ d, Level.read d = .ok level) (events : List Event)
    {s : Session} (hs : ((new fonts levels).follow events).session = some s) :
    let w := (new fonts levels).follow events
    (w.timerActive = true → s.status = .running) ∧
      (Choice.made levels events).level = some s.level ∧ (w.Shows s ↔ s.Presentable) := by
  intro w
  have hcreate : ∀ level ∈ levels, ∃ s, Session.create level = .ok s := by
    intro level hlevel
    obtain ⟨d, hd⟩ := haccepted level hlevel
    obtain ⟨-, -, -, -, p, hp⟩ := Level.program_of_read hd
    obtain ⟨s, hs, -⟩ := Level.exists_create hp
    exact ⟨s, hs⟩
  have hsound : Sound levels (Choice.made levels events) w :=
    (sound_new fonts levels).follow hcreate events
  refine ⟨fun hactive => ?_, hsound.level_of_session hs, Shows.presentable, hsound.shows s hs⟩
  obtain ⟨t, ht, hrunning⟩ := hsound.timer hactive
  cases hs.symm.trans ht
  exact hrunning

/-- A program whose first line adds a register. -/
def adding : Datum := Level.numberedBy [(.int 1, .text "ADD A, 2, B"), (.int 2, .text "DEFUSE")]

/-- After a start and a tick the window shows the register that was added to the game. -/
theorem window_shows_game_adding : ∃ level s, Level.read adding = .ok level ∧
    let w := (new ⟨[], "monospace"⟩ [level]).follow [.chooseRow 0, .run, .tick]
    w.session = some s ∧ s.level = level ∧ s.registers.get? "B" = some 2 ∧
      s.status = .running ∧ w.Shows s := by
  let level := (Level.read adding).toOption.getD default
  let s := (Session.create level).toOption.getD default
  let s' := s.start.step.toOption.getD s.start
  have hread : Level.read adding = .ok level := eq_ok_getD (by decide +kernel) default
  have hs : Session.create level = .ok s := eq_ok_getD (by decide +kernel) default
  have hwaiting : s.status = .waiting := by decide +kernel
  have hB : s'.registers.get? "B" = some 2 := by decide +kernel
  have hstatus : s'.status = .running := by decide +kernel
  have hp : s'.Presentable := by decide +kernel
  have hstep : s' = s.start.step.toOption.getD s.start := rfl
  clear_value s'
  clear_value s
  clear_value level
  have hgame : ((new ⟨[], "monospace"⟩ [level]).follow [.chooseRow 0, .run, .tick]).session
      = some s' := by
    rw [follow_cons, follow_cons, follow_cons, follow_nil, hstep]
    exact isStep_tick.session _ _ (session_run (session_new_chooseRow _ hs) hwaiting)
  obtain ⟨-, hlevel, hshows⟩ := window_shows_game ⟨[], "monospace"⟩
    (fun l hl => ⟨adding, List.mem_singleton.mp hl ▸ hread⟩) [.chooseRow 0, .run, .tick] hgame
  exact ⟨level, s', hread, hgame, Option.some.inj hlevel.symm, hB, hstatus, hshows.mpr hp⟩

/-- A level that begins at the last time that can be written. -/
def lateStart : Datum := .map (Level.fieldsOf (.list [.text "WAIT"])
  (.map [(.text "A", .int 0), (.text "T", .int (Numeral.writeLimit - 1))]))

/-- A window does not always show its game: after a step to a time that cannot be written the game
is running, and still the window lets it be started. -/
theorem window_lags_behind : ∃ level s, Level.read lateStart = .ok level ∧
    level.registers.get? level.playerRegister = some 0 ∧
    let w := (new ⟨[], "monospace"⟩ [level]).follow [.chooseRow 0, .step]
    w.session = some s ∧ s.status = .running ∧ w.runEnabled = true := by
  obtain ⟨level, hread, hplayer, s, s', hs, hwaiting, hp, hstep, hrunning, hlate⟩ : ∃ level,
      Level.read lateStart = .ok level ∧
      level.registers.get? level.playerRegister = some 0 ∧
      ∃ s s', Session.create level = .ok s ∧ s.status = .waiting ∧ s.Presentable ∧
        s.step = .ok s' ∧ s'.status = .running ∧ ¬ s'.Presentable := by
    let level := (Level.read lateStart).toOption.getD default
    let s := (Session.create level).toOption.getD default
    let s' := s.step.toOption.getD default
    have hread : Level.read lateStart = .ok level := eq_ok_getD (by decide +kernel) default
    have hs : Session.create level = .ok s := eq_ok_getD (by decide +kernel) default
    have hstep : s.step = .ok s' := eq_ok_getD (by decide +kernel) default
    exact ⟨level, hread, by decide +kernel, s, s', hs, by decide +kernel, by decide +kernel, hstep,
      by decide +kernel, by decide +kernel⟩
  have hsound := (sound_new ⟨[], "monospace"⟩ [level]).handle
    (fun l hl => ⟨s, List.mem_singleton.mp hl ▸ hs⟩) (.chooseRow 0)
  have hgame := session_new_chooseRow ⟨[], "monospace"⟩ hs
  refine ⟨level, s', hread, hplayer, ?_⟩
  dsimp only
  rw [follow_cons, follow_cons, follow_nil]
  generalize ((new ⟨[], "monospace"⟩ [level]).handle (.chooseRow 0)).1 = w at hsound hgame ⊢
  obtain ⟨hsession, hrun, -⟩ := step_of_not_presentable hgame hstep hlate
  refine ⟨hsession, hrunning, hrun.trans ?_⟩
  exact (hsound.shows s hgame hp).run_iff.mpr hwaiting

end Window

end Defusal
