import Defusal.Registers

/-!
# Histories

A history records the registers by time. A later record at the same time replaces the earlier one
and keeps its place, so what a look-up finds is always the last record made for that time.
-/

namespace Defusal

/-- Recorded registers by time. -/
structure History where
  table : Table Int Registers

namespace History

/-- The history that holds some registers at time zero. -/
def start (r : Registers) : History := ⟨Table.empty.put 0 r⟩

instance : Inhabited History := ⟨start default⟩

/-- Records registers at a time. -/
def record (h : History) (time : Int) (r : Registers) : History := ⟨h.table.put time r⟩

/-- The registers last recorded at a time. -/
def lookup (h : History) (time : Int) : Option Registers := h.table.get? time

/-- The recorded times, the oldest first. -/
def recorded (h : History) : List Int := h.table.keys

/-- The recorded times in ascending order. -/
def times (h : History) : List Int := h.recorded.mergeSort (fun a b => decide (a ≤ b))

/-- The number of recorded times. -/
def size (h : History) : Nat := h.table.size

/-- The recorded times with their registers, in ascending order of time. -/
def entries (h : History) : List (Int × Registers) :=
  h.table.toList.mergeSort (fun a b => decide (a.1 ≤ b.1))

/-- The written form of a history. -/
def literal (h : History) : Except Fault String := do
  return "History(times=" ++ (← Datum.literal (.list (h.times.map .int))) ++ ")"

theorem lookup_start (r : Registers) (k : Int) :
    (start r).lookup k = if k = 0 then some r else none := by
  unfold lookup start
  rw [Table.get?_put]
  rfl

theorem lookup_eq_none_iff {h : History} {k : Int} : h.lookup k = none ↔ k ∉ h.recorded := by
  unfold recorded
  rw [← Table.contains_iff]
  exact Option.not_isSome_iff_eq_none.symm

/-- A record at a new time comes after those that are there. -/
theorem recorded_record_of_notMem {h : History} {k : Int} (r : Registers) (hk : k ∉ h.recorded) :
    (h.record k r).recorded = h.recorded ++ [k] :=
  (Table.keys_put h.table k r).trans (if_neg hk)

theorem size_eq_length (h : History) : h.size = h.recorded.length := by
  unfold size recorded Table.keys Table.toList Table.size
  rw [List.length_map, List.length_reverse]

theorem lookup_record (h : History) (time k : Int) (r : Registers) :
    (h.record time r).lookup k = if k = time then some r else h.lookup k :=
  Table.get?_put h.table time k r

end History

end Defusal
