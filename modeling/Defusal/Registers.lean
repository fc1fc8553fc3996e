import Defusal.Datum.Whole
import Defusal.Table

/-!
# Registers

The registers of a machine: whole numbers by name, in the order in which the names first appeared.
One register, the clock, is always there. Operands are read against the registers: a text that
names a register gives its value, and every other value is read as a number.
-/

namespace Defusal

/-- The register that counts the steps. -/
def clockName : String := "T"

/-- Named whole numbers, the clock among them. -/
structure Registers where
  table : Table String Int
  hasClock : table.contains clockName = true

namespace Registers

/-- The registers of a table; a missing clock is added at zero. -/
def ofTable (t : Table String Int) : Registers :=
  if h : t.contains clockName = true then ⟨t, h⟩
  else ⟨t.put clockName 0, by unfold Table.contains; rw [Table.get?_put]; simp⟩

instance : Inhabited Registers := ⟨ofTable .empty⟩

/-- The registers of some names and values. -/
def ofList (entries : List (String × Int)) : Registers := ofTable (.ofList entries)

/-- The names and values in order. -/
def toList (r : Registers) : List (String × Int) := r.table.toList

/-- The value of a register, if there is one of that name. -/
def get? (r : Registers) (name : String) : Option Int := r.table.get? name

/-- Whether there is a register of a name. -/
def contains (r : Registers) (name : String) : Bool := r.table.contains name

/-- The names in order. -/
def names (r : Registers) : List String := r.table.keys

/-- The clock. -/
def time (r : Registers) : Int := (r.get? clockName).get r.hasClock

/-- Writes a register, which is added at the end if there is none of that name. -/
def put (r : Registers) (name : String) (value : Int) : Registers where
  table := r.table.put name value
  hasClock := by
    have h := r.hasClock
    unfold Table.contains at h ⊢
    rw [Table.get?_put]
    split
    · rfl
    · exact h

theorem get?_clock (r : Registers) : r.get? clockName = some r.time :=
  (Option.some_get r.hasClock).symm

theorem nodup_names (r : Registers) : r.names.Nodup := r.table.nodup_keys

theorem contains_iff_mem_names (r : Registers) (name : String) :
    r.contains name = true ↔ name ∈ r.names :=
  Table.contains_iff r.table name

/-- The registers of a table are those that it has, and the clock at zero where it has none. -/
theorem get?_ofTable (t : Table String Int) (name : String) :
    (ofTable t).get? name = (t.get? name).or (if name = clockName then some 0 else none) := by
  unfold ofTable
  split
  next h =>
    obtain ⟨v, hv⟩ := Option.isSome_iff_exists.mp h
    show t.get? name = _
    split
    next hname => rw [hname, hv]; rfl
    next => exact Option.or_none.symm
  next h =>
    show (t.put clockName 0).get? name = _
    rw [Table.get?_put]
    split
    next hname => rw [hname, Option.not_isSome_iff_eq_none.mp h]; rfl
    next => exact Option.or_none.symm

theorem get?_ofTable_of_eq_some {t : Table String Int} {name : String} {n : Int}
    (h : t.get? name = some n) : (ofTable t).get? name = some n := by
  rw [get?_ofTable, h]
  rfl

/-- The clock of a table is at zero where the table has none. -/
theorem time_ofTable (t : Table String Int) :
    (ofTable t).time = (t.get? clockName).getD 0 := by
  have hclock := (ofTable t).get?_clock
  rw [get?_ofTable, if_pos rfl] at hclock
  cases h : t.get? clockName with
  | none => rw [h] at hclock; exact (Option.some.inj hclock).symm
  | some v => rw [h] at hclock; exact (Option.some.inj hclock).symm

theorem get?_put (r : Registers) (name other : String) (v : Int) :
    (r.put name v).get? other = if other = name then some v else r.get? other :=
  Table.get?_put r.table name other v

theorem contains_put (r : Registers) (name other : String) (v : Int) :
    (r.put name v).contains other = (decide (other = name) || r.contains other) := by
  show ((r.put name v).get? other).isSome = (decide (other = name) || (r.get? other).isSome)
  rw [get?_put]
  split
  next hname => rw [decide_eq_true hname]; rfl
  next hname => rw [decide_eq_false hname, Bool.false_or]

theorem time_put_clock (r : Registers) (v : Int) : (r.put clockName v).time = v := by
  have h := (r.put clockName v).get?_clock
  rw [get?_put, if_pos rfl] at h
  exact (Option.some.inj h).symm

theorem time_put_of_ne (r : Registers) {name : String} (v : Int) (h : name ≠ clockName) :
    (r.put name v).time = r.time := by
  have hclock := (r.put name v).get?_clock
  rw [get?_put, if_neg (Ne.symm h), get?_clock] at hclock
  exact (Option.some.inj hclock).symm

theorem put_put (r : Registers) (name : String) (v w : Int) :
    (r.put name v).put name w = r.put name w := by
  unfold put
  simp only [Table.put_put]

/-- Whether two sets of registers have the same names and values, in whatever order. -/
def agrees (r s : Registers) : Bool := r.table.agrees s.table

/-- The number that an operand stands for. -/
def resolve (r : Registers) : Datum → Except Fault Int
  | .text s =>
    match r.get? s with
    | some n => .ok n
    | none => Datum.lenient (.text s)
  | d => d.lenient

/-- A text that names a register stands for its value, also where the text is a numeral. -/
theorem resolve_of_get? {r : Registers} {name : String} {v : Int} (h : r.get? name = some v) :
    r.resolve (.text name) = .ok v := by
  simp only [resolve, h]

/-- What names no register is read as a number. -/
theorem resolve_of_unnamed {r : Registers} {d : Datum}
    (h : ∀ name, d = .text name → r.contains name = false) : r.resolve d = d.lenient := by
  cases d with
  | text name =>
    have hnone : r.get? name = none :=
      Option.not_isSome_iff_eq_none.mp (Bool.eq_false_iff.mp (h name rfl))
    simp only [resolve, hnone]
  | _ => rfl

/-- The registers as a value. -/
def toDatum (r : Registers) : Datum := .map (r.toList.map fun e => (.text e.1, .int e.2))

/-- The written form of the registers. -/
def literal (r : Registers) : Except Fault String := do
  return "RegisterSnapshot(" ++ (← r.toDatum.literal) ++ ")"

end Registers

end Defusal
