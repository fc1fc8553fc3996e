/-!
# Tables

A table pairs keys with values and remembers the order in which the keys were first written.
Writing to a key that is there replaces its value and keeps its place. `toList` is the table in
that order; `get?_put` and `keys_put` say what a write does to it.
-/

namespace Defusal

/-- A finite map that remembers the order of its keys. The rows are kept with the youngest key
first, so that a new key costs no copying; no key occurs twice. -/
structure Table (κ α : Type) [DecidableEq κ] where
  rows : List (κ × α)
  nodup : (rows.map Prod.fst).Nodup

namespace Table

variable {κ α : Type} [DecidableEq κ]

/-- The table without keys. -/
def empty : Table κ α := ⟨[], List.nodup_nil⟩

instance : Inhabited (Table κ α) := ⟨empty⟩

/-- The rows, the oldest key first. -/
def toList (t : Table κ α) : List (κ × α) := t.rows.reverse

/-- The keys, the oldest first. -/
def keys (t : Table κ α) : List κ := t.toList.map Prod.fst

/-- The number of keys. -/
def size (t : Table κ α) : Nat := t.rows.length

/-- The value at a key in a list of rows. -/
def lookupIn (k : κ) : List (κ × α) → Option α
  | [] => none
  | (k', v) :: rows => if k' = k then some v else lookupIn k rows

/-- The value at a key. -/
def get? (t : Table κ α) (k : κ) : Option α := lookupIn k t.rows

/-- Whether a key is there. -/
def contains (t : Table κ α) (k : κ) : Bool := (t.get? k).isSome

/-- The rows with the value at one key replaced. -/
def replaceIn (k : κ) (v : α) (rows : List (κ × α)) : List (κ × α) :=
  rows.map fun r => if r.1 = k then (r.1, v) else r

theorem keys_replaceIn (k : κ) (v : α) (rows : List (κ × α)) :
    (replaceIn k v rows).map Prod.fst = rows.map Prod.fst := by
  induction rows with
  | nil => rfl
  | cons r rows ih =>
    simp only [replaceIn, List.map_cons, List.map_map] at ih ⊢
    rw [ih]
    by_cases h : r.1 = k <;> simp [h]

theorem lookupIn_eq_none_iff (k : κ) (rows : List (κ × α)) :
    lookupIn k rows = none ↔ k ∉ rows.map Prod.fst := by
  induction rows with
  | nil => simp [lookupIn]
  | cons r rows ih =>
    by_cases h : r.1 = k
    · simp [lookupIn, h]
    · simp [lookupIn, h, ih, Ne.symm h]

/-- Writes a value: in place if the key is there, as the youngest key otherwise. -/
def put (t : Table κ α) (k : κ) (v : α) : Table κ α :=
  match h : lookupIn k t.rows with
  | none =>
    ⟨(k, v) :: t.rows, by
      rw [List.map_cons, List.nodup_cons]
      exact ⟨(lookupIn_eq_none_iff k t.rows).1 h, t.nodup⟩⟩
  | some _ => ⟨replaceIn k v t.rows, by rw [keys_replaceIn]; exact t.nodup⟩

/-- The table of some rows; of rows with equal keys the last gives the value, the first the
place. -/
def ofList (rows : List (κ × α)) : Table κ α := rows.foldl (fun t r => t.put r.1 r.2) empty

theorem lookupIn_replaceIn (k k' : κ) (v : α) (rows : List (κ × α)) :
    lookupIn k' (replaceIn k v rows)
      = if k' = k ∧ k ∈ rows.map Prod.fst then some v else lookupIn k' rows := by
  induction rows with
  | nil => simp [lookupIn, replaceIn]
  | cons r rows ih =>
    simp only [replaceIn, List.map_cons] at ih ⊢
    by_cases hr : r.1 = k
    · by_cases hk : k' = k
      · simp [lookupIn, hr, hk]
      · simp [lookupIn, hr, hk, Ne.symm hk, ih]
    · by_cases hk : r.1 = k'
      · simp [lookupIn, hk, show ¬ k' = k from fun h => hr (hk.trans h)]
      · simp only [hr, if_false, lookupIn, hk, ih, List.mem_cons, Ne.symm hr,
          false_or]

theorem replaceIn_of_notMem {k : κ} {rows : List (κ × α)} (h : k ∉ rows.map Prod.fst) (v : α) :
    replaceIn k v rows = rows := by
  unfold replaceIn
  refine (List.map_congr_left fun r hr => if_neg fun hk => h ?_).trans (List.map_id' rows)
  exact hk ▸ List.mem_map_of_mem hr

theorem replaceIn_replaceIn (k : κ) (v w : α) (rows : List (κ × α)) :
    replaceIn k w (replaceIn k v rows) = replaceIn k w rows := by
  unfold replaceIn
  rw [List.map_map]
  refine List.map_congr_left fun r _ => ?_
  by_cases hk : r.1 = k <;> simp [hk]

/-- A write is seen at its own key and nowhere else. -/
theorem get?_put (t : Table κ α) (k k' : κ) (v : α) :
    (t.put k v).get? k' = if k' = k then some v else t.get? k' := by
  unfold put get?
  split
  next h =>
    by_cases hk : k' = k
    · simp [lookupIn, hk]
    · simp [lookupIn, hk, Ne.symm hk]
  next w h =>
    have hmem : k ∈ t.rows.map Prod.fst := by
      apply Decidable.byContradiction
      intro hk
      simp [(lookupIn_eq_none_iff k t.rows).2 hk] at h
    show lookupIn k' (replaceIn k v t.rows) = _
    rw [lookupIn_replaceIn]
    by_cases hk : k' = k <;> simp [hk, hmem]

/-- A write keeps the order of the keys; a new key comes last. -/
theorem keys_put (t : Table κ α) (k : κ) (v : α) :
    (t.put k v).keys = if k ∈ t.keys then t.keys else t.keys ++ [k] := by
  have hmem : k ∈ t.keys ↔ lookupIn k t.rows ≠ none := by
    rw [Ne, lookupIn_eq_none_iff, Decidable.not_not]
    simp [keys, toList]
  unfold put
  split
  next h =>
    rw [if_neg (fun hk => hmem.1 hk h)]
    simp [keys, toList]
  next w h =>
    rw [if_pos (hmem.2 (by simp [h]))]
    simp only [keys, toList, List.map_reverse, keys_replaceIn]

theorem nodup_keys (t : Table κ α) : t.keys.Nodup := by
  unfold keys toList
  rw [List.map_reverse]
  exact (List.reverse_perm _).nodup_iff.2 t.nodup

/-- A new key comes last, after the rows that are there. -/
theorem toList_put_of_notMem {t : Table κ α} {k : κ} (v : α) (hk : k ∉ t.keys) :
    (t.put k v).toList = t.toList ++ [(k, v)] := by
  have hnone : lookupIn k t.rows = none := by
    rw [lookupIn_eq_none_iff]
    simpa [keys, toList] using hk
  unfold put
  split
  next => exact List.reverse_cons
  next h => exact nomatch hnone.symm.trans h

/-- Of rows with different keys the first is added as it is. -/
theorem toList_put_of_nodup {t : Table κ α} {r : κ × α} {rows : List (κ × α)}
    (h : ((t.toList ++ r :: rows).map Prod.fst).Nodup) :
    r.1 ∉ t.keys ∧ (t.put r.1 r.2).toList ++ rows = t.toList ++ r :: rows := by
  have hnew : r.1 ∉ t.keys := by
    rw [List.map_append, List.map_cons] at h
    exact fun hr => (List.nodup_append.mp h).2.2 r.1 hr r.1 (List.mem_cons_self ..) rfl
  refine ⟨hnew, ?_⟩
  rw [toList_put_of_notMem r.2 hnew, List.append_assoc]
  rfl

/-- Rows with new keys are added as they are. -/
theorem toList_foldl_put (rows : List (κ × α)) : ∀ {t : Table κ α},
    ((t.toList ++ rows).map Prod.fst).Nodup →
      (rows.foldl (fun t r => t.put r.1 r.2) t).toList = t.toList ++ rows := by
  induction rows with
  | nil => intro t _; exact (List.append_nil _).symm
  | cons r rows ih =>
    intro t h
    obtain ⟨-, hput⟩ := toList_put_of_nodup h
    rw [List.foldl_cons, ih (by rwa [hput]), hput]

/-- The table of rows with different keys has these rows. -/
theorem toList_ofList {rows : List (κ × α)} (h : (rows.map Prod.fst).Nodup) :
    (ofList rows).toList = rows :=
  toList_foldl_put rows (t := empty) h

theorem eq_of_toList_eq {t u : Table κ α} (h : t.toList = u.toList) : t = u := by
  obtain ⟨rows, _⟩ := t
  obtain ⟨rows', _⟩ := u
  obtain rfl : rows = rows' := List.reverse_inj.mp h
  rfl

/-- A table is the table of its rows. -/
theorem ofList_toList (t : Table κ α) : ofList t.toList = t :=
  eq_of_toList_eq (toList_ofList t.nodup_keys)

theorem contains_iff (t : Table κ α) (k : κ) : t.contains k = true ↔ k ∈ t.keys := by
  have h := lookupIn_eq_none_iff k t.rows
  unfold contains get? keys toList
  rw [List.map_reverse, List.mem_reverse]
  cases hl : lookupIn k t.rows <;> simp_all

/-- The value at a key is that of the row with the key. -/
theorem get?_eq_some_iff {t : Table κ α} {k : κ} {v : α} : t.get? k = some v ↔ (k, v) ∈ t.toList := by
  unfold get? toList
  rw [List.mem_reverse]
  obtain ⟨rows, hnodup⟩ := t
  dsimp only
  induction rows with
  | nil => exact iff_of_false nofun nofun
  | cons r rows ih =>
    rw [List.map_cons, List.nodup_cons] at hnodup
    rw [List.mem_cons, ← ih hnodup.2, lookupIn]
    split
    next hk =>
      subst hk
      rw [(lookupIn_eq_none_iff ..).mpr hnodup.1]
      simp [eq_comm, Prod.ext_iff]
    next hk =>
      simp [Prod.ext_iff, Ne.symm hk]

/-- The rows after a write: a key that is there keeps its place, a new one comes first. -/
theorem rows_put (t : Table κ α) (k : κ) (v : α) :
    (t.put k v).rows = if t.contains k = true then replaceIn k v t.rows else (k, v) :: t.rows := by
  unfold put contains get?
  split
  next hnone => simp [hnone]
  next hsome => simp [hsome]

/-- Of two writes to one key the later one counts. -/
theorem put_put (t : Table κ α) (k : κ) (v w : α) : (t.put k v).put k w = t.put k w := by
  have hthere : (t.put k v).contains k = true := by
    unfold contains
    rw [get?_put, if_pos rfl]
    rfl
  have hrows : ((t.put k v).put k w).rows = (t.put k w).rows := by
    rw [rows_put, if_pos hthere, rows_put, rows_put]
    by_cases hk : t.contains k = true
    · rw [if_pos hk, if_pos hk, replaceIn_replaceIn]
    · have hnew : k ∉ t.rows.map Prod.fst :=
        (lookupIn_eq_none_iff k t.rows).mp (Option.not_isSome_iff_eq_none.mp hk)
      rw [if_neg hk, if_neg hk]
      show (if k = k then (k, w) else (k, v)) :: replaceIn k w t.rows = _
      rw [if_pos rfl, replaceIn_of_notMem hnew]
  exact eq_of_toList_eq (congrArg List.reverse hrows)

/-- Whether two tables hold the same values at the same keys, in whatever order. -/
def agrees [BEq α] (t u : Table κ α) : Bool :=
  t.size == u.size && t.rows.all fun r => u.get? r.1 == some r.2

end Table

end Defusal
