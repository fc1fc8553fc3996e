import Defusal.Proofs.Session.Playable
import Defusal.Proofs.Window.Showing

/-!
# What the input tells of the game

The value of the player is kept twice: in the input of the window, and in the registers that the
game began with. They come apart only where the input has no room for the value that a level gives
to the player's register. Then the input shows the nearest value that it has room for, and the game
begins on the level's own value all the same. `BeganOn` says of a game that it began on the input, or
in this one other way; every event keeps it (`Telling.handle`).

So a reset of a level that was just selected gives the same game again if and only if the input has
room for its value (`input_tells_beginning`), and the input does not always tell what a game began
on (`input_tells_otherwise`).
-/

namespace Defusal

/-- Writing the value that is there changes nothing. -/
theorem Table.put_eq_self {κ α : Type} [DecidableEq κ] {t : Table κ α} {k : κ} {v : α}
    (h : t.get? k = some v) : t.put k v = t := by
  have hrows : replaceIn k v t.rows = t.rows := by
    obtain ⟨rows, hnodup⟩ := t
    unfold get? at h
    dsimp only at h ⊢
    induction rows with
    | nil => rfl
    | cons r rows ih =>
      obtain ⟨hnotMem, hnodup⟩ := List.nodup_cons.mp hnodup
      unfold lookupIn at h
      show (if r.1 = k then (r.1, v) else r) :: replaceIn k v rows = r :: rows
      split at h
      next hk =>
        -- The key does not occur again, so the rows below are left alone.
        cases h
        rw [if_pos hk, replaceIn_of_notMem (hk ▸ hnotMem)]
      next hk => rw [if_neg hk, ih hnodup h]
  have hthere : t.contains k = true := Option.isSome_of_eq_some h
  have hput : (t.put k v).rows = t.rows := by
    rw [rows_put, if_pos hthere, hrows]
  exact eq_of_toList_eq (congrArg List.reverse hput)

/-- The number that a level gives to the player's register. -/
def Level.firstValue (level : Level) : Int :=
  (level.registers.get? level.playerRegister).getD 0

/-- What a level that is offered has to bring along: a number in the player's register, and a
program that can be read. -/
structure Level.IsPlayable (level : Level) : Prop where
  firstValue : level.registers.get? level.playerRegister = some level.firstValue
  program : ∃ p, Program.read level.architecture level.program = .ok p

theorem Level.isPlayable_of_read {level : Level} {d : Datum} (h : read d = .ok level) :
    level.IsPlayable where
  firstValue := by
    obtain ⟨-, hplayer⟩ := registers_of_read h
    obtain ⟨n, hn⟩ := Option.isSome_iff_exists.mp ((Table.contains_iff ..).mpr hplayer)
    unfold Level.firstValue
    rw [hn]
    rfl
  program := by
    obtain ⟨-, -, -, -, hp⟩ := program_of_read h
    exact hp

namespace Session

variable {level : Level} {first s s' : Session}

/-! ## How games go on -/

/-- The sessions that starting and stepping lead to. -/
inductive Continues (first : Session) : Session → Prop
  | refl : Continues first first
  | start {s : Session} (h : Continues first s) : Continues first s.start
  | step {s s' : Session} (h : Continues first s) (hs : s.step = .ok s') : Continues first s'

/-- A game that waits has not gone on. -/
theorem Continues.eq_of_waiting (h : Continues first s) (hs : s.status = .waiting) : s = first := by
  cases h with
  | refl => rfl
  | start => exact absurd hs (start_status_ne_waiting _)
  | @step t _ _ hstep =>
    -- A step leads to where it leads after a start, so to no waiting game.
    rw [← step_start] at hstep
    exact absurd hs (step_ne_waiting (start_status_ne_waiting t) hstep)

theorem start_level (s : Session) : s.start.level = s.level := by
  unfold start
  split <;> rfl

/-! ## How games begin -/

/-- A level can be begun on every number. -/
theorem exists_fresh_int (h : level.IsPlayable) (n : Int) : ∃ s, fresh level (.int n) = .ok s := by
  obtain ⟨p, hp⟩ := h.program
  exact (exists_fresh_iff hp).mpr ⟨n, rfl⟩

theorem exists_create (h : level.IsPlayable) : ∃ s, create level = .ok s := by
  obtain ⟨p, hp⟩ := h.program
  obtain ⟨s, hs, -⟩ := Level.exists_create hp
  exact ⟨s, hs⟩

theorem reset_of_create (hs : create level = .ok s) (value : Datum) :
    s.reset value = fresh level value := by
  unfold reset
  rw [fresh_level hs]

/-- A new game has the level's own number in the player's register. -/
theorem get?_player_create (h : level.IsPlayable) (hs : create level = .ok s) :
    s.registers.get? level.playerRegister = some level.firstValue := by
  obtain ⟨r, p, hr, -, rfl⟩ := fresh_eq_ok hs
  cases hr
  exact Registers.get?_ofTable_of_eq_some h.firstValue

/-- A game that was begun on a number has it in the player's register. -/
theorem get?_player_fresh {n : Int} (hs : fresh level (.int n) = .ok s) :
    s.registers.get? level.playerRegister = some n := by
  obtain ⟨r, p, hr, -, rfl⟩ := fresh_eq_ok hs
  cases hr
  refine Registers.get?_ofTable_of_eq_some ?_
  rw [Table.get?_put, if_pos rfl]

/-- To begin a level on a number is to begin it as it is if and only if the number is its own. -/
theorem fresh_eq_create_iff (h : level.IsPlayable) {n : Int} :
    fresh level (.int n) = create level ↔ n = level.firstValue := by
  constructor
  · intro heq
    obtain ⟨s, hs⟩ := exists_create h
    have hn := get?_player_fresh (heq.trans hs)
    rw [get?_player_create h hs] at hn
    exact (Option.some.inj hn).symm
  · rintro rfl
    have hsame : level.registers.put level.playerRegister level.firstValue = level.registers :=
      Table.put_eq_self h.firstValue
    unfold create fresh firstMachine firstRegisters
    show (Except.ok (Registers.ofTable (level.registers.put _ _)) >>= _) >>= _ = _
    rw [hsame]

end Session

namespace Window

variable {w : Window} {s s' : Session} {levels : List Level} {level : Level}

/-! ## What the input has room for -/

/-- The input has room for a number. -/
def InRange (n : Int) : Prop := inputRange.1 ≤ n ∧ n ≤ inputRange.2

instance (n : Int) : Decidable (InRange n) :=
  inferInstanceAs (Decidable (inputRange.1 ≤ n ∧ n ≤ inputRange.2))

theorem clamp_eq_self_iff {n : Int} : clamp n = n ↔ InRange n := by
  unfold clamp InRange inputRange
  dsimp only
  omega

/-- A game began on the number that the input shows, or else on the level's own number, which the
input has no room for, so that it shows the nearest one. -/
inductive BeganOn (shown : Int) (s : Session) : Prop
  | input {first : Session} (hfirst : Session.fresh s.level (.int shown) = .ok first)
      (h : first.Continues s)
  | level {first : Session} (hfirst : Session.create s.level = .ok first)
      (hrange : ¬ InRange s.level.firstValue) (hshown : shown = clamp s.level.firstValue)
      (h : first.Continues s)

theorem BeganOn.start {shown : Int} (h : BeganOn shown s) : BeganOn shown s.start := by
  have hlevel : s.start.level = s.level := Session.start_level s
  cases h with
  | input hfirst h => exact .input (hlevel ▸ hfirst) h.start
  | level hfirst hrange hshown h =>
    rw [← hlevel] at hfirst hrange hshown
    exact .level hfirst hrange hshown h.start

theorem BeganOn.step {shown : Int} (h : BeganOn shown s) (hs : s.step = .ok s') :
    BeganOn shown s' := by
  have hlevel : s'.level = s.level := Session.step_level hs
  cases h with
  | input hfirst h => exact .input (hlevel ▸ hfirst) (h.step hs)
  | level hfirst hrange hshown h =>
    rw [← hlevel] at hfirst hrange hshown
    exact .level hfirst hrange hshown (h.step hs)

theorem beganOn_fresh {shown : Int} (hs : Session.fresh level (.int shown) = .ok s) :
    BeganOn shown s := by
  have hlevel := Session.fresh_level hs
  exact .input (hlevel ▸ hs) .refl

/-- A level that is begun as it is shows in the input what there is room for. -/
theorem beganOn_create (h : level.IsPlayable) (hs : Session.create level = .ok s) :
    BeganOn (clamp level.firstValue) s := by
  by_cases hrange : InRange level.firstValue
  · rw [clamp_eq_self_iff.mpr hrange]
    exact beganOn_fresh (((Session.fresh_eq_create_iff h).mpr rfl).trans hs)
  · have hlevel := Session.fresh_level hs
    subst hlevel
    exact .level hs hrange rfl .refl

/-! ## Between events -/

/-- What holds of a window between events: its game is one of an offered level and began on what the
input tells. -/
structure Telling (levels : List Level) (w : Window) : Prop where
  levels_eq : w.levels = levels
  level_mem : ∀ s, w.session = some s → s.level ∈ levels
  began : ∀ s, w.session = some s → BeganOn w.playerValue s

theorem telling_new (fonts : FontCatalogue) (levels : List Level) :
    Telling levels (new fonts levels) where
  levels_eq := rfl
  level_mem := fun _ h => nomatch h
  began := fun _ h => nomatch h

/-- Displaying a game touches neither the input nor the levels on offer. -/
theorem display_input (w : Window) (s : Session) :
    (w.display s).1.playerValue = w.playerValue ∧ (w.display s).1.levels = w.levels := by
  unfold display
  dsimp only
  split
  · exact ⟨rfl, rfl⟩
  · split <;> exact ⟨rfl, rfl⟩

theorem telling_display (hlevels : w.levels = levels) (hmem : s.level ∈ levels)
    (hbegan : BeganOn w.playerValue s) : Telling levels (w.display s).1 := by
  obtain ⟨hvalue, hkept⟩ := w.display_input s
  refine ⟨hkept.trans hlevels, fun t ht => ?_, fun t ht => ?_⟩ <;>
    cases (session_display w s).symm.trans ht
  · exact hmem
  · rw [hvalue]
    exact hbegan

/-- Selecting a level begins it as it is, and the input shows its number as far as there is room. -/
theorem selectLevel_eq {place : Option Nat} (hplayable : level.IsPlayable)
    (hlevel : (place.bind fun n => w.levels[n]?) = some level)
    (hs : Session.create level = .ok s) : ∃ v : Window, w.selectLevel place = v.display s ∧
      v.levels = w.levels ∧ v.playerValue = clamp level.firstValue := by
  unfold selectLevel
  rw [hlevel]
  dsimp only
  rw [hs]
  dsimp only
  rw [Session.get?_player_create hplayable hs]
  exact ⟨_, rfl, rfl, rfl⟩

theorem playerValue_selectLevel {place : Option Nat} (hplayable : level.IsPlayable)
    (hlevel : (place.bind fun n => w.levels[n]?) = some level) :
    (w.selectLevel place).1.playerValue = clamp level.firstValue := by
  obtain ⟨s, hs⟩ := Session.exists_create hplayable
  obtain ⟨v, hv, -, hvalue⟩ := selectLevel_eq hplayable hlevel hs
  rw [hv, (v.display_input s).1]
  exact hvalue

/-- A window that is opened on a level shows its number as far as there is room. -/
theorem playerValue_new_chooseRow (fonts : FontCatalogue) (hplayable : level.IsPlayable) :
    ((new fonts [level]).handle (.chooseRow 0)).1.playerValue = clamp level.firstValue := by
  show (selectLevel { new fonts [level] with row := some 0 } (some 0)).1.playerValue = _
  exact playerValue_selectLevel hplayable rfl

theorem session_reset {t : Session} (hs : w.session = some s)
    (ht : s.reset (.int w.playerValue) = .ok t) : w.reset.1.session = some t := by
  have hreset : s.reset (.int w.stopTimer.playerValue) = .ok t := ht
  unfold reset
  rw [hs]
  dsimp only
  rw [hreset]
  exact session_display _ t

/-- A reset begins the game on whatever number is in the input by then. -/
theorem telling_reset (hplayable : ∀ level ∈ levels, level.IsPlayable) (hlevels : w.levels = levels)
    (hmem : ∀ s, w.session = some s → s.level ∈ levels) : Telling levels w.reset.1 := by
  unfold reset
  split
  next hnone => exact ⟨hlevels, hmem, fun s hs => nomatch hnone.symm.trans hs⟩
  next s hs =>
    obtain ⟨t, ht⟩ := Session.exists_fresh_int (hplayable _ (hmem s hs)) w.playerValue
    have hreset : s.reset (.int w.stopTimer.playerValue) = .ok t := ht
    have hlevel : t.level = s.level := Session.fresh_level ht
    dsimp only
    rw [hreset]
    exact telling_display hlevels (hlevel ▸ hmem s hs) (beganOn_fresh ht)

section Events

variable (hlevels : ∀ level ∈ levels, level.IsPlayable) (h : Telling levels w)
include hlevels h

theorem Telling.selectLevel (place : Option Nat) : Telling levels (w.selectLevel place).1 := by
  cases hplace : place.bind fun n => w.levels[n]? with
  | none =>
    unfold Window.selectLevel
    rw [hplace]
    exact h
  | some level =>
    obtain ⟨n, -, hn⟩ := Option.bind_eq_some_iff.mp hplace
    have hmem : level ∈ levels := h.levels_eq ▸ List.mem_of_getElem? hn
    have hplayable := hlevels level hmem
    obtain ⟨s, hs⟩ := Session.exists_create hplayable
    obtain ⟨v, hv, hkept, hvalue⟩ := selectLevel_eq hplayable hplace hs
    have hlevel : s.level = level := Session.fresh_level hs
    rw [hv]
    refine telling_display (hkept.trans h.levels_eq) (hlevel ▸ hmem) ?_
    rw [hvalue]
    exact beganOn_create hplayable hs

theorem Telling.chooseRow (row : Int) : Telling levels (w.chooseRow row).1 := by
  unfold Window.chooseRow
  dsimp only
  split
  · exact h
  · have hrow : Telling levels { w with row := w.place? row } := ⟨h.levels_eq, h.level_mem, h.began⟩
    exact hrow.selectLevel hlevels _

theorem Telling.setValue (n : Int) : Telling levels (w.setValue n).1 := by
  unfold Window.setValue
  split
  · exact h
  · exact telling_reset hlevels h.levels_eq h.level_mem

omit hlevels in
theorem Telling.run : Telling levels w.run.1 := by
  unfold Window.run
  split
  next => exact h
  next s hs =>
    split
    next =>
      refine telling_display h.levels_eq ?_ (h.began s hs).start
      rw [Session.start_level]
      exact h.level_mem s hs
    next => exact h

omit hlevels in
/-- A step, by hand or by the timer, goes on with the game or leaves it. -/
theorem Telling.displayStep (hs : w.session = some s) (hstep : s.step = .ok s')
    (timerActive : Bool) : Telling levels ({ w with timerActive }.display s').1 := by
  refine telling_display h.levels_eq ?_ ((h.began s hs).step hstep)
  rw [Session.step_level hstep]
  exact h.level_mem s hs

omit hlevels in
theorem Telling.stopTimer : Telling levels w.stopTimer := ⟨h.levels_eq, h.level_mem, h.began⟩

omit hlevels in
theorem Telling.step : Telling levels w.step.1 := by
  unfold Window.step
  split
  next => exact h
  next s hs =>
    rw [Session.step_start]
    unfold Window.displayIfOk
    cases hstep : s.step with
    | error f => exact h.stopTimer
    | ok t => exact h.displayStep hs hstep false

omit hlevels in
theorem Telling.tick : Telling levels w.tick.1 := by
  unfold Window.tick
  split
  next => exact h.stopTimer
  next s hs =>
    split
    next => exact h.stopTimer
    next =>
      cases hstep : s.step with
      | error f => exact h
      | ok t =>
        dsimp only
        split
        · exact h.displayStep hs hstep false
        · exact h.displayStep hs hstep w.timerActive

/-- **Every event keeps what the input tells true**, whether or not it is broken off. -/
theorem Telling.handle (e : Event) : Telling levels (w.handle e).1 := by
  cases e with
  | chooseRow row => exact h.chooseRow hlevels row
  | selectLevel row => exact h.selectLevel hlevels _
  | setValue n => exact h.setValue hlevels n
  | reset => exact telling_reset hlevels h.levels_eq h.level_mem
  | run => exact h.run
  | step => exact h.step
  | tick => exact h.tick

theorem Telling.follow (events : List Event) : Telling levels (w.follow events) := by
  induction events generalizing w with
  | nil => exact h
  | cons e events ih => exact ih (h.handle hlevels e)

end Events

/-! ## Selecting and resetting -/

/-- The level that an event selects, if it selects one. -/
def Choice.selected? (levels : List Level) (c : Choice) : Event → Option Level
  | .chooseRow row =>
    let place := place? levels row
    if place = c.row then none else place.bind fun n => levels[n]?
  | .selectLevel row => (place? levels row).bind fun n => levels[n]?
  | _ => none

variable {c : Choice} {e : Event}

/-- An event that selects a level does so by its place in the list. -/
theorem Sound.handle_selecting (h : Sound levels c w) (he : c.selected? levels e = some level) :
    ∃ (v : Window) (place : Option Nat), w.handle e = v.selectLevel place ∧ v.levels = levels ∧
      (place.bind fun n => v.levels[n]?) = some level := by
  cases e with
  | chooseRow row =>
    unfold Choice.selected? at he
    dsimp only at he
    split at he
    next => cases he
    next hrow =>
      refine ⟨{ w with row := Choice.place? levels row }, Choice.place? levels row, ?_, h.levels_eq,
        ?_⟩
      · show w.chooseRow row = _
        unfold Window.chooseRow
        dsimp only
        rw [h.place_eq, h.row_eq, if_neg hrow]
      · show ((Choice.place? levels row).bind fun n => w.levels[n]?) = _
        rw [h.levels_eq]
        exact he
  | selectLevel row =>
    refine ⟨w, w.place? row, rfl, h.levels_eq, ?_⟩
    rw [h.place_eq, h.levels_eq]
    exact he
  | setValue | reset | run | step | tick => cases he

/-- A reset right after a level was selected gives the same game again if and only if the input has
room for the level's number. -/
theorem session_reset_selectLevel_iff {place : Option Nat} (hplayable : level.IsPlayable)
    (hlevel : (place.bind fun n => w.levels[n]?) = some level)
    (hs : Session.create level = .ok s) :
    (w.selectLevel place).1.reset.1.session = some s ↔ InRange level.firstValue := by
  obtain ⟨t, ht⟩ := Session.exists_fresh_int hplayable (clamp level.firstValue)
  have hreset : s.reset (.int (w.selectLevel place).1.playerValue) = .ok t := by
    rw [playerValue_selectLevel hplayable hlevel, Session.reset_of_create hs, ht]
  rw [session_reset (session_selectLevel hlevel hs) hreset, ← clamp_eq_self_iff,
    ← Session.fresh_eq_create_iff hplayable, ht, hs, Option.some.injEq, Except.ok.injEq]

/-- **The input tells what the game of a window began on.** Open a window on levels that were
accepted, and let any events happen to it. If it has a game then, it is of the level that was
selected last, and starting and stepping lead to it from the game that a reset to the number in the
input gives; or else the input has no room for the number that the level gives to the player's
register, it shows the nearest one, and starting and stepping lead to the game from the level as it
is. An event that selects a level gives it as it is, and a reset right after that gives the same
game again if and only if the input has room for the level's number. -/
theorem input_tells_beginning (fonts : FontCatalogue) {levels : List Level}
    (haccepted : ∀ level ∈ levels, ∃ d, Level.read d = .ok level) (events : List Event) :
    let w := (new fonts levels).follow events
    (∀ s, w.session = some s → (Choice.made levels events).level = some s.level ∧
      ∃ created started, Session.create s.level = .ok created ∧
        created.reset (.int w.playerValue) = .ok started ∧
        (started.Continues s ∨ created.Continues s ∧ ¬ InRange s.level.firstValue ∧
          w.playerValue = clamp s.level.firstValue)) ∧
      ∀ e level, (Choice.made levels events).selected? levels e = some level →
        ∃ s, (w.handle e).1.session = some s ∧ Session.create level = .ok s ∧
          (((w.handle e).1.handle .reset).1.session = some s ↔ InRange level.firstValue) := by
  intro w
  have hplayable : ∀ level ∈ levels, level.IsPlayable := by
    intro level hlevel
    obtain ⟨d, hd⟩ := haccepted level hlevel
    exact Level.isPlayable_of_read hd
  have hgame : Sound levels (Choice.made levels events) w :=
    (sound_new fonts levels).follow
      (fun level hlevel => Session.exists_create (hplayable level hlevel)) events
  have htelling : Telling levels w := (telling_new fonts levels).follow hplayable events
  constructor
  · intro s hs
    have hlevel := hplayable _ (htelling.level_mem s hs)
    obtain ⟨created, hcreated⟩ := Session.exists_create hlevel
    obtain ⟨started, hstarted⟩ := Session.exists_fresh_int hlevel w.playerValue
    refine ⟨hgame.level_of_session hs, created, started, hcreated,
      (Session.reset_of_create hcreated _).trans hstarted, ?_⟩
    cases htelling.began s hs with
    | input hfirst h =>
      cases hstarted.symm.trans hfirst
      exact .inl h
    | level hfirst hrange hshown h =>
      cases hcreated.symm.trans hfirst
      exact .inr ⟨h, hrange, hshown⟩
  · intro e level he
    obtain ⟨v, place, hv, hlevels, hlevel⟩ := hgame.handle_selecting he
    obtain ⟨n, -, hn⟩ := Option.bind_eq_some_iff.mp hlevel
    have hmem := hplayable level (hlevels ▸ List.mem_of_getElem? hn)
    obtain ⟨s, hs⟩ := Session.exists_create hmem
    rw [hv]
    exact ⟨s, session_selectLevel hlevel hs, hs, session_reset_selectLevel_iff hmem hlevel hs⟩

/-- A level that gives the player's register a number which the input has no room for. -/
def oversized : Datum := .map (Level.fieldsOf (.list [.text "ADD A, 1, A"])
  (.map [(.text "A", .int 2000000), (.text "T", .int 0)]))

theorem playerValue_reset (w : Window) : w.reset.1.playerValue = w.playerValue := by
  unfold reset
  split
  next => rfl
  next s _ =>
    dsimp only
    cases s.reset (.int w.stopTimer.playerValue) with
    | error f => rfl
    | ok t => exact (display_input _ t).1

theorem playerValue_step (w : Window) : w.step.1.playerValue = w.playerValue := by
  unfold step displayIfOk
  split
  next => rfl
  next s _ =>
    cases s.start.step with
    | error f => rfl
    | ok t => exact (display_input _ t).1

/-- A new number in the input begins the game on it. -/
theorem setValue_eq {n : Int} (hn : InRange n) (hne : n ≠ w.playerValue) :
    w.setValue n = reset { w with playerValue := n } := by
  unfold setValue
  rw [clamp_eq_self_iff.mpr hn, if_neg hne]

/-- Once the player has put a number into the input, `oversized` is played on it, and the input
tells so. Selected again it is played on its own number, until it is reset. -/
theorem input_tells_beginning_oversized : ∃ level s started, Level.read oversized = .ok level ∧
    let w := (new ⟨[], "monospace"⟩ [level]).follow [.chooseRow 0, .setValue 7, .step]
    w.session = some s ∧ s.registers.get? "A" = some 8 ∧ w.playerValue = 7 ∧
      s.reset (.int 7) = .ok started ∧ started.Continues s ∧
      ∃ t, (w.handle (.selectLevel 0)).1.session = some t ∧
        ((w.handle (.selectLevel 0)).1.handle .reset).1.session ≠ some t := by
  let level := (Level.read oversized).toOption.getD default
  let created := (Session.create level).toOption.getD default
  let started := (Session.fresh level (.int 7)).toOption.getD default
  have hread : Level.read oversized = .ok level := eq_ok_getD (by decide +kernel) default
  have hcreated : Session.create level = .ok created := eq_ok_getD (by decide +kernel) default
  have hstarted : Session.fresh level (.int 7) = .ok started :=
    eq_ok_getD (by decide +kernel) default
  have hA : (started.step.toOption.getD started).registers.get? "A" = some 8 := by decide +kernel
  have hfirst : level.firstValue = 2000000 := by decide +kernel
  have hplayable := Level.isPlayable_of_read hread
  clear_value created started level
  let fonts : FontCatalogue := ⟨[], "monospace"⟩
  -- The number in the input after each event, and the game.
  let w₁ := ((new fonts [level]).handle (.chooseRow 0)).1
  have hgame₁ : w₁.session = some created := session_new_chooseRow fonts hcreated
  have hvalue₁ : w₁.playerValue = clamp 2000000 :=
    hfirst ▸ playerValue_new_chooseRow fonts hplayable
  let w₂ := (w₁.handle (.setValue 7)).1
  have hset : w₂ = (reset { w₁ with playerValue := 7 }).1 :=
    congrArg Prod.fst (setValue_eq (by decide) (hvalue₁ ▸ by decide))
  have hgame₂ : w₂.session = some started := by
    rw [hset]
    exact session_reset (w := { w₁ with playerValue := 7 }) hgame₁
      ((Session.reset_of_create hcreated _).trans hstarted)
  have hvalue₂ : w₂.playerValue = 7 := by rw [hset, playerValue_reset]
  have hgame : (w₂.handle .step).1.session = some (started.step.toOption.getD started) :=
    isStep_step.session w₂ started hgame₂
  have hvalue : (w₂.handle .step).1.playerValue = 7 := (playerValue_step w₂).trans hvalue₂
  obtain ⟨hbegan, hselected⟩ := @input_tells_beginning fonts [level]
    (fun l hl => ⟨oversized, List.mem_singleton.mp hl ▸ hread⟩) [.chooseRow 0, .setValue 7, .step]
  obtain ⟨hchosen, created', started', hcreated', hreset, hplayed⟩ := hbegan _ hgame
  have hlevel : (Choice.made [level] [.chooseRow 0, .setValue 7, .step]).level = some level := rfl
  have hown : level = (started.step.toOption.getD started).level :=
    Option.some.inj (hlevel.symm.trans hchosen)
  have hcontinues : started'.Continues (started.step.toOption.getD started) := by
    rcases hplayed with h | ⟨-, -, hshown⟩
    · exact h
    · rw [← hown, hfirst] at hshown
      exact absurd (hvalue.symm.trans hshown) (by decide)
  have hseven : (started.step.toOption.getD started).reset (.int 7) = .ok started' := by
    -- The window after the three events is the one after the last of them.
    have hreset : created'.reset (.int (w₂.handle .step).1.playerValue) = .ok started' := hreset
    rwa [hvalue, Session.reset_of_create hcreated'] at hreset
  obtain ⟨t, ht, -, hagain⟩ := hselected (.selectLevel 0) level rfl
  have hroom : ¬ InRange level.firstValue := by rw [hfirst]; decide
  exact ⟨level, _, started', hread, hgame, hA, hvalue, hseven, hcontinues, t, ht,
    fun h => hroom (hagain.mp h)⟩

/-- The input does not always tell what a game began on: `oversized` begins on its own number, the
input shows another one, and a reset to that gives a game that this one does not go on from. -/
theorem input_tells_otherwise : ∃ level created started, Level.read oversized = .ok level ∧
    Session.create level = .ok created ∧
    let w := (new ⟨[], "monospace"⟩ [level]).follow [.chooseRow 0]
    w.session = some created ∧ created.reset (.int w.playerValue) = .ok started ∧
      ¬ started.Continues created ∧ (w.handle .reset).1.session = some started ∧
      created.registers.get? "A" = some 2000000 ∧ started.registers.get? "A" = some 1000000 := by
  let level := (Level.read oversized).toOption.getD default
  let created := (Session.create level).toOption.getD default
  let started := (Session.fresh level (.int 1000000)).toOption.getD default
  have hread : Level.read oversized = .ok level := eq_ok_getD (by decide +kernel) default
  have hcreated : Session.create level = .ok created := eq_ok_getD (by decide +kernel) default
  have hstarted : Session.fresh level (.int 1000000) = .ok started :=
    eq_ok_getD (by decide +kernel) default
  have hwaiting : created.status = .waiting := by decide +kernel
  have hown : created.registers.get? "A" = some 2000000 := by decide +kernel
  have hshown : started.registers.get? "A" = some 1000000 := by decide +kernel
  have hfirst : level.firstValue = 2000000 := by decide +kernel
  have hplayable := Level.isPlayable_of_read hread
  clear_value created started level
  let w := ((new ⟨[], "monospace"⟩ [level]).handle (.chooseRow 0)).1
  have hgame : w.session = some created := session_new_chooseRow ⟨[], "monospace"⟩ hcreated
  have hvalue : w.playerValue = clamp 2000000 :=
    hfirst ▸ playerValue_new_chooseRow ⟨[], "monospace"⟩ hplayable
  have hreset : created.reset (.int w.playerValue) = .ok started := by
    rw [hvalue, Session.reset_of_create hcreated]
    exact hstarted
  refine ⟨level, created, started, hread, hcreated, hgame, hreset, fun h => ?_,
    session_reset hgame hreset, hown, hshown⟩
  rw [h.eq_of_waiting hwaiting, hshown] at hown
  exact absurd hown (by decide)

end Window

end Defusal
