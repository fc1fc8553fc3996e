import Mathlib.Data.List.Dedup
import Mathlib.Data.List.Induction
import Defusal.Program.Reading
import Defusal.Proofs.Fault.Chain

/-!
# The entries of a program and what is stored of them

A program is written as a list or as a map of entries. `Program.EntryAt a d n line i` says that the
entry at position `n` stands for the instruction `i` on `line`: a list numbers its entries from the
first line of the machine on, and a map gives the numbers by its keys.

`Program.Stores` says what is stored of numbered instructions: of those with one number the last,
and as many lines as there are numbers. A sparse program stores so whatever it is made from
(`stores_ofList`), a fixed one stores its code (`stores_fixed`), and so what is read from a plain
value stores the entries of the value (`stores_of_read`). Nothing is lost if and only if no two
entries have the same line.
-/

namespace Defusal.Program

/-! ## What is stored of numbered instructions -/

/-- A line is listed if and only if it is stored. -/
theorem mem_lines_iff (p : Program) (line : Int) : line ∈ p.lines ↔ p.contains line = true := by
  cases p with
  | sparse p =>
    unfold lines contains get? entries SparseProgram.get?
    simp only [List.mem_map, Option.isSome_map, List.find?_isSome, beq_iff_eq]
  | fixed code =>
    unfold lines contains get? entries
    simp only [List.map_map, List.mem_map, List.mem_zipIdx_iff_getElem?, Function.comp_apply]
    constructor
    · rintro ⟨⟨i, n⟩, hi, rfl⟩
      rw [if_pos (Int.natCast_nonneg n), Int.toNat_natCast, hi]
      rfl
    · intro h
      split at h
      next h0 =>
        obtain ⟨i, hi⟩ := Option.isSome_iff_exists.mp h
        exact ⟨(i, line.toNat), hi, Int.toNat_of_nonneg h0⟩
      next => exact absurd h Bool.false_ne_true

/-- The size of a program is the number of its lines. -/
theorem length_lines (p : Program) : p.lines.length = p.size := by
  unfold lines
  rw [List.length_map]
  cases p with
  | sparse p => rfl
  | fixed code => exact (List.length_map _).trans List.length_zipIdx

/-- No line is stored twice. -/
theorem nodup_lines (p : SparseProgram) : (sparse p).lines.Nodup :=
  List.pairwise_map.mpr (p.ascending.imp Int.ne_of_lt)

/-- What is stored at the lines of a sparse program are its entries. -/
theorem mem_entries_iff (p : SparseProgram) (line : Int) (i : Instruction) :
    (line, i) ∈ p.entries ↔ p.get? line = some i := by
  have hat : ∀ {e}, p.entries.find? (·.1 == line) = some e → e ∈ p.entries ∧ e.1 = line := by
    intro e he
    have hline := List.find?_some he
    exact ⟨List.mem_of_find?_eq_some he, beq_iff_eq.mp hline⟩
  unfold SparseProgram.get?
  rw [Option.map_eq_some_iff]
  constructor
  · intro hmem
    have hfound : (p.entries.find? (·.1 == line)).isSome = true :=
      List.find?_isSome.mpr ⟨(line, i), hmem, beq_self_eq_true line⟩
    obtain ⟨e, he⟩ := Option.isSome_iff_exists.mp hfound
    obtain ⟨hstored, hline⟩ := hat he
    exact ⟨e, he, congrArg Prod.snd
      (List.inj_on_of_nodup_map (nodup_lines p) hstored hmem hline)⟩
  · rintro ⟨e, he, rfl⟩
    obtain ⟨hstored, rfl⟩ := hat he
    exact hstored

/-- Sparse programs that store the same at every line are equal. -/
theorem sparse_ext {p q : SparseProgram} (h : ∀ line, p.get? line = q.get? line) : p = q := by
  have hperm : p.entries.Perm q.entries :=
    (List.perm_ext_iff_of_nodup (nodup_lines p).of_map (nodup_lines q).of_map).mpr fun e => by
      show e ∈ p.entries ↔ e ∈ q.entries
      rw [mem_entries_iff, mem_entries_iff, h]
  have hentries : p.entries = q.entries :=
    hperm.eq_of_pairwise (fun _ _ _ _ hab hba => absurd hab (Int.lt_asymm hba)) p.ascending
      q.ascending
  cases p
  cases q
  cases hentries
  rfl

/-- An instruction is the last with its number. -/
def LastAt (entries : List (Int × Instruction)) (line : Int) (i : Instruction) : Prop :=
  ∃ n : Nat, entries[n]? = some (line, i) ∧ ∀ m > n, ∀ j, entries[m]? ≠ some (line, j)

/-- A program stores of some numbered instructions the last with each number, and no line twice. -/
structure Stores (p : Program) (entries : List (Int × Instruction)) : Prop where
  get?_iff : ∀ line i, p.get? line = some i ↔ LastAt entries line i
  size_eq : p.size = (entries.map Prod.fst).dedup.length

/-- A new last entry is the last with its number and leaves the other numbers as they are. -/
theorem lastAt_concat {entries : List (Int × Instruction)} {e : Int × Instruction} {line : Int}
    {i : Instruction} :
    LastAt (entries ++ [e]) line i ↔ if line = e.1 then e.2 = i else LastAt entries line i := by
  have hnew : (entries ++ [e])[entries.length]? = some e := List.getElem?_concat_length
  have hold : ∀ {n}, n < entries.length → (entries ++ [e])[n]? = entries[n]? :=
    fun hn => List.getElem?_append_left hn
  have hlt : ∀ {l : List (Int × Instruction)} {n x}, l[n]? = some x → n < l.length :=
    fun h => (List.getElem?_eq_some_iff.mp h).1
  split
  next hline =>
    constructor
    · rintro ⟨n, hn, hlast⟩
      have hle : n ≤ entries.length := by
        have h := hlt hn
        rw [List.length_append, List.length_singleton] at h
        omega
      rcases Nat.lt_or_eq_of_le hle with h | rfl
      · exact absurd (hline ▸ hnew) (hlast _ h e.2)
      · rw [hnew] at hn
        exact congrArg Prod.snd (Option.some.inj hn)
    · rintro rfl
      refine ⟨entries.length, hline ▸ hnew, fun m hm j hj => ?_⟩
      have h := hlt hj
      rw [List.length_append, List.length_singleton] at h
      omega
  next hline =>
    have hother : ∀ {n j}, (entries ++ [e])[n]? = some (line, j) → n < entries.length := by
      intro n j hn
      have h := hlt hn
      rw [List.length_append, List.length_singleton] at h
      refine Nat.lt_of_le_of_ne (Nat.le_of_lt_succ h) fun heq => hline ?_
      rw [heq, hnew] at hn
      exact (congrArg Prod.fst (Option.some.inj hn)).symm
    constructor
    · rintro ⟨n, hn, hlast⟩
      rw [hold (hother hn)] at hn
      exact ⟨n, hn, fun m hm j hj => hlast m hm j (hold (hlt hj) ▸ hj)⟩
    · rintro ⟨n, hn, hlast⟩
      exact ⟨n, (hold (hlt hn)).trans hn, fun m hm j hj =>
        hlast m hm j (hold (hother hj) ▸ hj)⟩

/-- Where no number is given twice, every entry is the last with its number. -/
theorem lastAt_iff_mem {entries : List (Int × Instruction)} (h : (entries.map Prod.fst).Nodup)
    {line : Int} {i : Instruction} : LastAt entries line i ↔ (line, i) ∈ entries := by
  constructor
  · rintro ⟨n, hn, -⟩
    exact List.mem_of_getElem? hn
  · intro hmem
    obtain ⟨n, hn⟩ := List.mem_iff_getElem?.mp hmem
    refine ⟨n, hn, fun m hm j hj => ?_⟩
    have hkeys : (entries.map Prod.fst)[n]? = (entries.map Prod.fst)[m]? := by
      rw [List.getElem?_map, List.getElem?_map, hn, hj]
      rfl
    have hlt : m < (entries.map Prod.fst).length := by
      rw [List.length_map]
      exact (List.getElem?_eq_some_iff.mp hj).1
    exact List.nodup_iff_getElem?_ne_getElem?.mp h n m hm hlt hkeys

theorem ofList_concat (entries : List (Int × Instruction)) (e : Int × Instruction) :
    SparseProgram.ofList (entries ++ [e]) = (SparseProgram.ofList entries).put e.1 e.2 := by
  unfold SparseProgram.ofList
  rw [List.foldl_append]
  rfl

theorem get?_ofList_iff (entries : List (Int × Instruction)) (line : Int) (i : Instruction) :
    (SparseProgram.ofList entries).get? line = some i ↔ LastAt entries line i := by
  -- The last entry is the one that is stored last.
  induction entries using List.reverseRecOn with
  | nil => exact iff_of_false (nomatch ·) fun ⟨n, hn, _⟩ => nomatch hn
  | append_singleton entries e ih =>
    rw [ofList_concat, SparseProgram.get?_put, lastAt_concat]
    split
    · exact Option.some_inj
    · exact ih

/-- Where no number is given twice, the order of the entries does not matter. -/
theorem ofList_of_perm {entries others : List (Int × Instruction)} (hperm : entries.Perm others)
    (h : (others.map Prod.fst).Nodup) : SparseProgram.ofList entries = SparseProgram.ofList others := by
  have hentries : (entries.map Prod.fst).Nodup := (hperm.map Prod.fst).nodup_iff.mpr h
  refine sparse_ext fun line => Option.ext fun i => ?_
  rw [get?_ofList_iff, get?_ofList_iff, lastAt_iff_mem hentries, lastAt_iff_mem h, hperm.mem_iff]

theorem mem_lines_ofList (entries : List (Int × Instruction)) (line : Int) :
    line ∈ (sparse (.ofList entries)).lines ↔ line ∈ entries.map Prod.fst := by
  induction entries using List.reverseRecOn with
  | nil => rfl
  | append_singleton entries e ih =>
    rw [mem_lines_iff] at ih ⊢
    show ((SparseProgram.ofList (entries ++ [e])).get? line).isSome = true ↔ _
    rw [ofList_concat, SparseProgram.get?_put, List.map_append, List.mem_append, ← ih]
    split
    next hline => simp [hline]
    next hline => simp [hline, contains, get?]

/-- **A sparse program stores what it is made from.** -/
theorem stores_ofList (entries : List (Int × Instruction)) :
    Stores (sparse (.ofList entries)) entries where
  get?_iff := get?_ofList_iff entries
  size_eq := by
    have hperm : (sparse (.ofList entries)).lines.Perm (entries.map Prod.fst).dedup :=
      (List.perm_ext_iff_of_nodup (nodup_lines _) (List.nodup_dedup _)).mpr fun line =>
        (mem_lines_ofList entries line).trans List.mem_dedup.symm
    exact (List.length_map _).symm.trans hperm.length_eq

theorem getElem?_numbered (first : Int) (code : List Instruction) (n : Nat) :
    (numbered first code)[n]? = code[n]?.map fun i => (first + (n : Int), i) := by
  unfold numbered
  rw [List.getElem?_map, List.getElem?_zipIdx, Option.map_map, Nat.zero_add]
  rfl

theorem length_numbered (first : Int) (code : List Instruction) :
    (numbered first code).length = code.length := by
  unfold numbered
  rw [List.length_map, List.length_zipIdx]

/-- Numbering in order gives no number twice. -/
theorem nodup_numbered (first : Int) (code : List Instruction) :
    ((numbered first code).map Prod.fst).Nodup := by
  rw [List.nodup_iff_getElem?_ne_getElem?]
  intro m n hmn hn heq
  rw [List.length_map, length_numbered] at hn
  rw [List.getElem?_map, List.getElem?_map, getElem?_numbered, getElem?_numbered,
    List.getElem?_eq_getElem hn, List.getElem?_eq_getElem (Nat.lt_trans hmn hn)] at heq
  have heq : first + (m : Int) = first + (n : Int) := Option.some.inj heq
  omega

/-- Instructions numbered from a first line are found by their position. -/
theorem get?_ofList_numbered (first : Int) (code : List Instruction) (n : Nat) :
    (SparseProgram.ofList (numbered first code)).get? (first + n) = code[n]? := by
  refine Option.ext fun i => ?_
  rw [get?_ofList_iff, lastAt_iff_mem (nodup_numbered first code), List.mem_iff_getElem?]
  simp only [getElem?_numbered, Option.map_eq_some_iff, Prod.mk.injEq]
  constructor
  · rintro ⟨m, j, hj, hm, rfl⟩
    obtain rfl : m = n := by omega
    exact hj
  · exact fun hi => ⟨n, i, hi, rfl, rfl⟩

/-- A fixed program stores its code, numbered from zero. -/
theorem stores_fixed (code : List Instruction) : Stores (fixed code) (numbered 0 code) where
  get?_iff line i := by
    rw [lastAt_iff_mem (nodup_numbered 0 code), List.mem_iff_getElem?]
    simp only [getElem?_numbered, Int.zero_add, Option.map_eq_some_iff, Prod.mk.injEq]
    show (if 0 ≤ line then code[line.toNat]? else none) = some i ↔ _
    constructor
    · intro h
      split at h
      next h0 => exact ⟨line.toNat, i, h, Int.toNat_of_nonneg h0, rfl⟩
      next => cases h
    · rintro ⟨n, j, hj, rfl, rfl⟩
      rw [if_pos (Int.natCast_nonneg n), Int.toNat_natCast]
      exact hj
  size_eq := by
    rw [(nodup_numbered 0 code).dedup, List.length_map, length_numbered]
    rfl

/-- No more is stored than was given. -/
theorem Stores.size_le {p : Program} {entries : List (Int × Instruction)} (h : Stores p entries) :
    p.size ≤ entries.length := by
  rw [h.size_eq]
  exact Nat.le_trans (List.dedup_sublist _).length_le (Nat.le_of_eq (List.length_map _))

/-- What is stored is as much as was given if and only if no number was given twice. -/
theorem Stores.size_eq_length_iff {p : Program} {entries : List (Int × Instruction)}
    (h : Stores p entries) : p.size = entries.length ↔ (entries.map Prod.fst).Nodup := by
  have hlength : (entries.map Prod.fst).length = entries.length := List.length_map _
  rw [h.size_eq, ← List.dedup_eq_self, ← hlength]
  exact ⟨(List.dedup_sublist _).eq_of_length, congrArg List.length⟩

/-! ## The entries of a written program -/

/-- The entry at a position of a written program stands for an instruction on a line. -/
inductive EntryAt (a : Architecture) (d : Datum) (n : Nat) : Int → Instruction → Prop
  | numbered {entries : List (Datum × Datum)} {e : Datum × Datum} {line : Int} {i : Instruction}
      (hd : d.opened = .map entries) (he : entries[n]? = some e) (hline : e.1.strict = .ok line)
      (hi : Instruction.ofDatum e.2 = .ok i) : EntryAt a d n line i
  | listed {items : List Datum} {item : Datum} {i : Instruction} (hd : d.opened = .list items)
      (hitem : items[n]? = some item) (hi : Instruction.ofDatum item = .ok i) :
      EntryAt a d n (a.firstLine + n) i

/-- The number of entries of a written program. -/
def entryCount (d : Datum) : Nat :=
  match d.opened with
  | .map entries => entries.length
  | .list items => items.length
  | _ => 0

variable {a : Architecture} {d : Datum} {p : Program}

theorem entryOf_eq_ok_iff {e : Datum × Datum} {line : Int} {i : Instruction} :
    entryOf e = .ok (line, i) ↔ e.1.strict = .ok line ∧ Instruction.ofDatum e.2 = .ok i := by
  constructor
  · intro h
    obtain ⟨line', hline, h⟩ := bind_eq_ok h
    obtain ⟨i', hi, h⟩ := bind_eq_ok h
    cases h
    exact ⟨hline, hi⟩
  · rintro ⟨hline, hi⟩
    unfold entryOf
    rw [hline, hi]
    rfl

/-- What is read from a list stores its items, numbered from the first line on. -/
theorem stores_of_read_list {items : List Datum} (hd : d.opened = .list items)
    (h : read a d = .ok p) : ∃ code, items.mapM Instruction.ofDatum = .ok code ∧
      Stores p (numbered a.firstLine code) := by
  have helements : d.elements = .ok items := by
    unfold Datum.elements Datum.elements?
    rw [hd]
  unfold read ofElements at h
  simp only [hd, helements] at h
  cases a with
  | sparse =>
    obtain ⟨code, hcode, h⟩ := bind_eq_ok h
    cases h
    exact ⟨code, hcode, stores_ofList _⟩
  | fixed =>
    obtain ⟨code, hcode, h⟩ := bind_eq_ok h
    cases h
    exact ⟨code, hcode, stores_fixed code⟩

/-- What is read from a map stores its entries, numbered by their keys. -/
theorem stores_of_read_map {entries : List (Datum × Datum)} (hd : d.opened = .map entries)
    (h : read a d = .ok p) : ∃ lines, entries.mapM entryOf = .ok lines ∧ Stores p lines := by
  unfold read at h
  simp only [hd] at h
  cases a with
  | sparse =>
    obtain ⟨lines, hlines, h⟩ := bind_eq_ok h
    cases h
    exact ⟨lines, hlines, stores_ofList lines⟩
  | fixed => cases h

/-- **What is read from a plain value stores the entries of the value**, each under its own line. -/
theorem stores_of_read (hd : (∃ items, d.opened = .list items) ∨ ∃ entries, d.opened = .map entries)
    (h : read a d = .ok p) : ∃ lines : List (Int × Instruction), Stores p lines ∧
      lines.length = entryCount d ∧
      ∀ (n : Nat) (line : Int) (i : Instruction),
        lines[n]? = some (line, i) ↔ EntryAt a d n line i := by
  rcases hd with ⟨items, hd⟩ | ⟨entries, hd⟩
  · obtain ⟨code, hcode, hp⟩ := stores_of_read_list hd h
    refine ⟨_, hp, ?_, fun n line i => ?_⟩
    · rw [length_numbered, length_of_mapM hcode, entryCount, hd]
    · rw [getElem?_numbered, Option.map_eq_some_iff]
      simp only [getElem?_of_mapM hcode, Prod.mk.injEq]
      constructor
      · rintro ⟨j, ⟨item, hitem, hj⟩, rfl, rfl⟩
        exact .listed hd hitem hj
      · intro hentry
        cases hentry with
        | numbered hd' => rw [hd] at hd'; cases hd'
        | listed hd' hitem hi =>
          rw [hd] at hd'
          cases hd'
          exact ⟨i, ⟨_, hitem, hi⟩, rfl, rfl⟩
  · obtain ⟨lines, hlines, hp⟩ := stores_of_read_map hd h
    refine ⟨lines, hp, ?_, fun n line i => ?_⟩
    · rw [length_of_mapM hlines, entryCount, hd]
    · rw [getElem?_of_mapM hlines]
      simp only [entryOf_eq_ok_iff]
      constructor
      · rintro ⟨e, he, hline, hi⟩
        exact .numbered hd he hline hi
      · intro hentry
        cases hentry with
        | numbered hd' he hline hi =>
          rw [hd] at hd'
          cases hd'
          exact ⟨_, he, hline, hi⟩
        | listed hd' => rw [hd] at hd'; cases hd'

end Defusal.Program
