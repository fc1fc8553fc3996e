import Defusal.Proofs.Level.Refusal
import Defusal.Proofs.Session.Playable

/-!
# How the registers of a session are laid out

A layout sorts registers into two groups, the clock into one and all others into the other. It puts
every register into its group once and adds none (`placed_registerLayout`), and it marks those of
the names besides the clock that are the player's (`marked_registerLayout`). Both hold of any
registers and any name for the player.

The name that a level has for the player is that of a register in each of its sessions, since what a
level names is never lost (`Reachable.covered`). So exactly one register is marked, the player's,
unless that is the clock, whose group knows no marks (`layout_sorts`, `clock_unmarked`).
-/

namespace Defusal.Session

variable {level : Level} {s : Session}

/-! ## What can be read off a layout -/

/-- Where the registers stand in some groups: each with the title above it, from top to bottom. -/
def placed (groups : List RegisterGroup) : List (String × String) :=
  groups.flatMap fun g => g.slots.map fun slot => (g.title, slot.name)

/-- The names of the registers that are marked as the player's, from top to bottom. -/
def marked (groups : List RegisterGroup) : List String :=
  ((groups.flatMap (·.slots)).filter (·.isPlayers)).map (·.name)

/-- The title that a register belongs under. -/
def titleOf (name : String) : String := if name = clockName then "Time" else "Registers"

/-! ## Layouts of any registers -/

/-- The clock can be taken out of the registers and put last. -/
theorem names_perm (r : Registers) :
    (r.names.filter (· != clockName) ++ [clockName]).Perm r.names := by
  have hclock : clockName ∈ r.names := (r.contains_iff_mem_names clockName).mp r.hasClock
  rw [← r.nodup_names.erase_eq_filter clockName]
  exact (List.perm_append_singleton _ _).trans (List.perm_cons_erase hclock).symm

/-- **Every register stands in a layout once, under its title**, and nothing else does. -/
theorem placed_registerLayout (r : Registers) (player : String) :
    (placed (registerLayout r player)).Perm (r.names.map fun name => (titleOf name, name)) := by
  have hothers : (r.names.filter (· != clockName)).map (fun name => ("Registers", name))
      = (r.names.filter (· != clockName)).map fun name => (titleOf name, name) := by
    refine List.map_congr_left fun name hname => ?_
    unfold titleOf
    rw [if_neg (bne_iff_ne.mp (List.mem_filter.mp hname).2)]
  have hplaced : placed (registerLayout r player)
      = (r.names.filter (· != clockName) ++ [clockName]).map fun name => (titleOf name, name) := by
    rw [List.map_append, ← hothers]
    unfold placed registerLayout
    simp only [List.flatMap_cons, List.flatMap_nil, List.map_map, List.append_nil]
    rfl
  rw [hplaced]
  exact (names_perm r).map _

/-- Marked are the names besides the clock that are the player's. -/
theorem marked_registerLayout (r : Registers) (player : String) :
    marked (registerLayout r player) = (r.names.filter (· != clockName)).filter (· == player) := by
  have hothers (names : List String) :
      ((names.map fun name => (⟨name, name == player⟩ : RegisterSlot)).filter (·.isPlayers)).map
        (·.name) = names.filter (· == player) := by
    rw [List.filter_map, List.map_map]
    exact List.map_id' _
  unfold marked registerLayout
  simp only [List.flatMap_cons, List.flatMap_nil, List.append_nil, List.filter_append,
    List.map_append]
  rw [hothers]
  exact List.append_nil _

/-- **If the player's register is there, it alone is marked**, unless it is the clock. -/
theorem marked_of_contains {r : Registers} {player : String} (h : r.contains player = true) :
    marked (registerLayout r player) = if player = clockName then [] else [player] := by
  rw [marked_registerLayout, List.filter_beq]
  have hmem : player ∈ r.names := (r.contains_iff_mem_names player).mp h
  split
  next hclock =>
    have hnone : player ∉ r.names.filter (· != clockName) := fun hin =>
      bne_iff_ne.mp (List.mem_filter.mp hin).2 hclock
    rw [List.count_eq_zero_of_not_mem hnone]
    rfl
  next hother =>
    have hin : player ∈ r.names.filter (· != clockName) :=
      List.mem_filter.mpr ⟨hmem, bne_iff_ne.mpr hother⟩
    rw [List.count_eq_one_of_mem (r.nodup_names.filter _) hin]
    rfl

/-! ## Layouts of sessions -/

/-- **The layout of a session sorts its registers and marks the player's.** Take any session that
commands lead to in a level that was accepted. No two of its registers have the same name, and its
layout has each of them once, the clock under the title of the time and all others under that of
the registers, and nothing else. The player's register is among them. It alone is marked as the
player's, unless it is the clock; then none is marked. -/
theorem layout_sorts {d : Datum} (h : Level.read d = .ok level) (hs : Reachable level s) :
    s.registers.names.Nodup ∧
    (placed s.layout).Perm (s.registers.names.map fun name => (titleOf name, name)) ∧
    s.registers.contains s.level.playerRegister = true ∧
    marked s.layout
      = if s.level.playerRegister = clockName then [] else [s.level.playerRegister] := by
  have hplayer : s.registers.contains s.level.playerRegister = true := by
    rw [hs.level_eq]
    exact hs.covered.registers _ (Level.registers_of_read h).2
  exact ⟨s.registers.nodup_names, placed_registerLayout _ _, hplayer, marked_of_contains hplayer⟩

/-- Before its journey `traveller` has a register more than it began with, which stands among the
registers, and afterwards it has not. The player's register is marked both times. -/
theorem layout_sorts_traveller : ∃ level s t, Level.read traveller = .ok level ∧
    Reachable level s ∧ s.registers.names = ["A", "T", "X"] ∧
    (placed s.layout).Perm [("Registers", "A"), ("Time", "T"), ("Registers", "X")] ∧
    marked s.layout = ["A"] ∧
    Reachable level t ∧ (placed t.layout).Perm [("Registers", "A"), ("Time", "T")] ∧
    marked t.layout = ["A"] := by
  let level := (Level.read traveller).toOption.getD default
  let s := reached level [.run 3]
  let t := reached level [.run 4]
  -- What is computed of the level and of each session is computed together.
  obtain ⟨hread, hplayer⟩ : (Level.read traveller).toOption.isSome = true ∧
      level.playerRegister = "A" := by decide +kernel
  obtain ⟨hs, hnames⟩ : (played level [.run 3]).toOption.isSome = true ∧
      s.registers.names = ["A", "T", "X"] := by decide +kernel
  obtain ⟨ht, hnames'⟩ : (played level [.run 4]).toOption.isSome = true ∧
      t.registers.names = ["A", "T"] := by decide +kernel
  have hread : Level.read traveller = .ok level := eq_ok_getD hread default
  have hs : Reachable level s := reachable_reached hs
  have ht : Reachable level t := reachable_reached ht
  obtain ⟨-, hplaced, -, hmarked⟩ := layout_sorts hread hs
  obtain ⟨-, hplaced', -, hmarked'⟩ := layout_sorts hread ht
  rw [hs.level_eq, hplayer] at hmarked
  rw [ht.level_eq, hplayer] at hmarked'
  rw [hnames] at hplaced
  rw [hnames'] at hplaced'
  exact ⟨level, s, t, hread, hs, hnames, hplaced, hmarked, ht, hplaced', hmarked'⟩

/-- A level whose only register is the clock, which is the player's. -/
def timed : Datum := .map ((.text "player_register", .text "T") ::
  Level.fieldsOf (.list []) (.map [(.text "T", .int 0)]))

/-- Not in every layout is the player's register marked: a level may give the clock to the player,
and then it is in its layout without a mark. -/
theorem clock_unmarked : ∃ level s, Level.read timed = .ok level ∧ Reachable level s ∧
    s.level.playerRegister = "T" ∧ placed s.layout = [("Time", "T")] ∧ marked s.layout = [] := by
  let level := (Level.read timed).toOption.getD default
  let s := (create level).toOption.getD default
  have hread : Level.read timed = .ok level := eq_ok_getD (by decide +kernel) default
  have hs : create level = .ok s := eq_ok_getD (by decide +kernel) default
  exact ⟨level, s, hread, .create hs, by decide +kernel, by decide +kernel, by decide +kernel⟩

end Defusal.Session
