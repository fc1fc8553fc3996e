import Defusal.Fault

/-!
# Chains of readings

Reading is a chain of steps of which each can fail, and the first fault ends the chain. The lemmas
here take chains apart: `bind_eq_ok` and `bind_eq_error` for one link, `exists_mapM_iff`,
`mapM_eq_error_iff` and `getElem?_of_mapM` for a row of equal ones.

`FailsOnly P` says that a chain fails with no faults but those of which `P` holds; a chain of such
links is of this sort again (`FailsOnly.bind`, `failsOnly_mapM`). If `P` holds of no fault, this
says that the chain succeeds (`failsOnly_false_iff`). A chain is `Tame` if it fails only with faults
of the kind that malformed levels are reported by.

Two chains are `Alike` if they fail with the same fault or give results that belong together; links
that are alike make chains that are (`Alike.bind`).
-/

namespace Defusal

theorem ok_bind {α β : Type} (a : α) (next : α → Except Fault β) :
    (Except.ok a >>= next) = next a := rfl

/-- A chain of readings that succeeds did so at its first link. -/
theorem bind_eq_ok {α β : Type} {x : Except Fault α} {next : α → Except Fault β} {b : β}
    (h : x >>= next = .ok b) : ∃ a, x = .ok a ∧ next a = .ok b := by
  cases x with
  | error f => cases h
  | ok a => exact ⟨a, rfl, h⟩

/-- A chain of readings that fails does so at its first link or after it. -/
theorem bind_eq_error {α β : Type} {x : Except Fault α} {next : α → Except Fault β} {f : Fault}
    (h : x >>= next = .error f) : x = .error f ∨ ∃ a, x = .ok a ∧ next a = .error f := by
  cases x with
  | error g => cases h; exact .inl rfl
  | ok a => exact .inr ⟨a, rfl, h⟩

theorem map_eq_error_iff {α β : Type} {x : Except Fault α} {use : α → β} {f : Fault} :
    x.map use = .error f ↔ x = .error f := by
  cases x with
  | error g => exact ⟨fun h => by cases h; rfl, fun h => by cases h; rfl⟩
  | ok a => exact iff_of_false nofun nofun

/-- A reading that succeeds, with its result named. -/
theorem eq_ok_getD {α : Type} {x : Except Fault α} (h : x.toOption.isSome = true) (a : α) :
    x = .ok (x.toOption.getD a) := by
  cases x with
  | error f => exact absurd h Bool.false_ne_true
  | ok b => rfl

theorem isSome_toOption_iff {α : Type} {x : Except Fault α} :
    x.toOption.isSome = true ↔ ∃ a, x = .ok a := by
  cases x with
  | error f => exact iff_of_false Bool.false_ne_true fun ⟨_, h⟩ => nomatch h
  | ok a => exact iff_of_true rfl ⟨a, rfl⟩

/-- Whether a reading succeeds can be found out by reading. -/
instance {α : Type} (x : Except Fault α) : Decidable (∃ a, x = .ok a) :=
  decidable_of_iff _ isSome_toOption_iff

/-- So can be whether it gives something. -/
instance {α : Type} (x : Except Fault (Option α)) : Decidable (∃ a, x = .ok (some a)) :=
  decidable_of_iff ((x.toOption.getD none).isSome = true) <| by
    rcases x with f | a?
    · exact iff_of_false Bool.false_ne_true fun ⟨_, h⟩ => nomatch h
    · cases a? with
      | none => exact iff_of_false Bool.false_ne_true fun ⟨_, h⟩ => nomatch h
      | some a => exact iff_of_true rfl ⟨a, rfl⟩

/-- A reading of which the result is only put to use succeeds if and only if the reading does. -/
theorem exists_bind_pure_iff {α β : Type} {x : Except Fault α} {use : α → β} :
    (∃ b, (x >>= fun a => pure (use a)) = .ok b) ↔ ∃ a, x = .ok a := by
  constructor
  · rintro ⟨b, hb⟩
    obtain ⟨a, ha, -⟩ := bind_eq_ok hb
    exact ⟨a, ha⟩
  · rintro ⟨a, rfl⟩
    exact ⟨use a, rfl⟩

/-- Readings in a row succeed if and only if each of them does. -/
theorem exists_mapM_iff {α β : Type} {f : α → Except Fault β} {xs : List α} :
    (∃ ys, xs.mapM f = .ok ys) ↔ ∀ x ∈ xs, ∃ y, f x = .ok y := by
  induction xs with
  | nil => exact iff_of_true ⟨[], rfl⟩ fun x hx => nomatch hx
  | cons x xs ih =>
    rw [List.mapM_cons, List.forall_mem_cons, ← ih]
    constructor
    · rintro ⟨ys, hys⟩
      obtain ⟨y, hy, hys⟩ := bind_eq_ok hys
      obtain ⟨zs, hzs, -⟩ := bind_eq_ok hys
      exact ⟨⟨y, hy⟩, zs, hzs⟩
    · rintro ⟨⟨y, hy⟩, zs, hzs⟩
      rw [hy, hzs]
      exact ⟨y :: zs, rfl⟩

/-- Readings in a row of which the results are known. -/
theorem mapM_map_eq_ok {α β γ : Type} {f : β → Except Fault γ} {g : α → β} {h : α → γ} {xs : List α}
    (hf : ∀ x ∈ xs, f (g x) = .ok (h x)) : (xs.map g).mapM f = .ok (xs.map h) := by
  induction xs with
  | nil => rfl
  | cons x xs ih =>
    obtain ⟨hx, hxs⟩ := List.forall_mem_cons.mp hf
    rw [List.map_cons, List.mapM_cons, hx, ok_bind, ih hxs]
    rfl

/-- Readings in a row fail with the fault of the first that fails. -/
theorem mapM_eq_error_iff {α β : Type} {g : α → Except Fault β} {xs : List α} {f : Fault} :
    xs.mapM g = .error f ↔ ∃ before x after, xs = before ++ x :: after ∧ g x = .error f ∧
      ∀ y ∈ before, ∃ b, g y = .ok b := by
  induction xs with
  | nil =>
    refine iff_of_false (nomatch ·) ?_
    rintro ⟨before, x, after, hxs, -⟩
    exact List.append_ne_nil_of_right_ne_nil before (List.cons_ne_nil x after) hxs.symm
  | cons x xs ih =>
    rw [List.mapM_cons]
    constructor
    · intro h
      rcases bind_eq_error h with hx | ⟨b, hb, h⟩
      · exact ⟨[], x, xs, rfl, hx, fun y hy => nomatch hy⟩
      rcases bind_eq_error h with hxs | ⟨bs, -, h⟩
      · obtain ⟨before, y, after, rfl, hy, hbefore⟩ := ih.mp hxs
        exact ⟨x :: before, y, after, rfl, hy, List.forall_mem_cons.mpr ⟨⟨b, hb⟩, hbefore⟩⟩
      · cases h
    · rintro ⟨before, y, after, hxs, hy, hbefore⟩
      cases before with
      | nil =>
        obtain ⟨rfl, rfl⟩ := List.cons.inj hxs
        rw [hy]
        rfl
      | cons z before =>
        obtain ⟨rfl, rfl⟩ := List.cons.inj hxs
        obtain ⟨⟨b, hb⟩, hbefore⟩ := List.forall_mem_cons.mp hbefore
        rw [hb, ih.mpr ⟨before, y, after, rfl, hy, hbefore⟩]
        rfl

/-- What readings in a row give at a position is what the reading there gives. -/
theorem getElem?_of_mapM {α β : Type} {g : α → Except Fault β} {xs : List α} {ys : List β}
    (h : xs.mapM g = .ok ys) (n : Nat) (y : β) :
    ys[n]? = some y ↔ ∃ x, xs[n]? = some x ∧ g x = .ok y := by
  induction xs generalizing ys n with
  | nil => cases h; simp
  | cons x xs ih =>
    rw [List.mapM_cons] at h
    obtain ⟨z, hz, h⟩ := bind_eq_ok h
    obtain ⟨zs, hzs, h⟩ := bind_eq_ok h
    cases h
    cases n with
    | zero =>
      simp only [List.getElem?_cons_zero, Option.some.injEq, exists_eq_left', hz, Except.ok.injEq]
    | succ n => exact ih hzs n

theorem length_of_mapM {α β : Type} {g : α → Except Fault β} {xs : List α} {ys : List β}
    (h : xs.mapM g = .ok ys) : ys.length = xs.length := by
  induction xs generalizing ys with
  | nil => cases h; rfl
  | cons x xs ih =>
    rw [List.mapM_cons] at h
    obtain ⟨y, -, h⟩ := bind_eq_ok h
    obtain ⟨zs, hzs, h⟩ := bind_eq_ok h
    cases h
    exact congrArg Nat.succ (ih hzs)

/-- What readings in a row give comes from one of them. -/
theorem exists_of_mem_mapM {α β : Type} {g : α → Except Fault β} {xs : List α} {ys : List β}
    (h : xs.mapM g = .ok ys) {y : β} (hy : y ∈ ys) : ∃ x ∈ xs, g x = .ok y := by
  obtain ⟨n, hn⟩ := List.mem_iff_getElem?.mp hy
  obtain ⟨x, hx, hgx⟩ := (getElem?_of_mapM h n y).mp hn
  exact ⟨x, List.mem_of_getElem? hx, hgx⟩

/-! ## What readings fail with -/

/-- A reading that fails with no fault but those of which something holds. -/
def FailsOnly {α : Type} (P : Fault → Prop) (x : Except Fault α) : Prop := ∀ f, x = .error f → P f

section FailsOnly

variable {α β : Type} {P Q : Fault → Prop} {x : Except Fault α} {f : Fault}

theorem failsOnly_ok (a : α) : FailsOnly P (.ok a : Except Fault α) := fun _ h => nomatch h

theorem failsOnly_error (h : P f) : FailsOnly P (.error f : Except Fault α) :=
  fun _ hf => Except.error.inj hf ▸ h

theorem failsOnly_false_iff : FailsOnly (fun _ => False) x ↔ ∃ a, x = .ok a := by
  cases x with
  | error f => exact iff_of_false (fun h => h f rfl) fun ⟨_, h⟩ => nomatch h
  | ok a => exact iff_of_true (failsOnly_ok a) ⟨a, rfl⟩

theorem FailsOnly.imp (h : FailsOnly P x) (hPQ : ∀ f, P f → Q f) : FailsOnly Q x :=
  fun f hf => hPQ f (h f hf)

theorem FailsOnly.bind {next : α → Except Fault β} (hx : FailsOnly P x)
    (hnext : ∀ a, x = .ok a → FailsOnly P (next a)) : FailsOnly P (x >>= next) := by
  intro f h
  rcases bind_eq_error h with h | ⟨a, ha, h⟩
  · exact hx f h
  · exact hnext a ha f h

theorem FailsOnly.map {use : α → β} (hx : FailsOnly P x) : FailsOnly P (x.map use) := by
  cases x with
  | error f => exact failsOnly_error (hx f rfl)
  | ok a => exact failsOnly_ok _

theorem failsOnly_mapM {g : α → Except Fault β} {xs : List α} (h : ∀ x ∈ xs, FailsOnly P (g x)) :
    FailsOnly P (xs.mapM g) := by
  intro f hf
  obtain ⟨before, x, after, rfl, hx, -⟩ := mapM_eq_error_iff.mp hf
  exact h x (List.mem_append_right before (List.mem_cons_self ..)) f hx

/-- Readings in a row fail if one of them does. -/
theorem exists_mapM_eq_error {g : α → Except Fault β} {xs : List α}
    (h : ∀ x ∈ xs, FailsOnly P (g x)) (hbad : ∃ x ∈ xs, ∃ f, g x = .error f) :
    ∃ f, P f ∧ xs.mapM g = .error f := by
  cases hread : xs.mapM g with
  | error f => exact ⟨f, failsOnly_mapM h f hread, rfl⟩
  | ok ys =>
    obtain ⟨x, hx, f, hf⟩ := hbad
    obtain ⟨y, hy⟩ := exists_mapM_iff.mp ⟨ys, hread⟩ x hx
    exact nomatch hf.symm.trans hy

end FailsOnly

/-! ## Tame readings -/

/-- A reading that fails with no fault but those that malformed levels are reported by. -/
def Tame {α : Type} (x : Except Fault α) : Prop := ∀ f, x = .error f → f.kind = .value

/-- A reading that fails with a fault of some kind. -/
def FailsAs {α : Type} (k : FaultKind) (x : Except Fault α) : Prop := ∃ f, x = .error f ∧ f.kind = k

/-- Whether a reading fails with a fault of some kind can be found out by reading. -/
instance {α : Type} (k : FaultKind) (x : Except Fault α) : Decidable (FailsAs k x) :=
  match x with
  | .ok _ => isFalse fun ⟨_, h, _⟩ => nomatch h
  | .error f => decidable_of_iff (f.kind = k)
      ⟨fun h => ⟨f, rfl, h⟩, fun ⟨_, h, hk⟩ => Except.error.inj h ▸ hk⟩

/-- A chain fails as one of its links does. -/
theorem failsAs_bind_iff {α β : Type} {k : FaultKind} {x : Except Fault α}
    {next : α → Except Fault β} :
    FailsAs k (x >>= next) ↔ FailsAs k x ∨ ∃ a, x = .ok a ∧ FailsAs k (next a) := by
  constructor
  · rintro ⟨f, hf, hk⟩
    exact (bind_eq_error hf).imp (fun h => ⟨f, h, hk⟩) fun ⟨a, ha, h⟩ => ⟨a, ha, f, h, hk⟩
  · rintro (⟨f, rfl, hk⟩ | ⟨a, rfl, h⟩)
    · exact ⟨f, rfl, hk⟩
    · exact h

variable {α β : Type} {x : Except Fault α} {f : Fault}

theorem tame_iff : Tame x ↔ ∀ k, k ≠ .value → ¬ FailsAs k x := by
  constructor
  · rintro h k hk ⟨f, hf, rfl⟩
    exact hk (h f hf)
  · intro h f hf
    exact Decidable.byContradiction fun hk => h f.kind hk ⟨f, hf, rfl⟩

/-- A reading of which the untame failures are listed is tame if none on the list happens. -/
theorem tame_iff_of_failsAs {Listed : FaultKind → Prop} (hne : ∀ k, Listed k → k ≠ .value)
    (h : ∀ k, k ≠ .value → (FailsAs k x ↔ Listed k)) : Tame x ↔ ∀ k, ¬ Listed k := by
  rw [tame_iff]
  constructor
  · intro htame k hk
    exact htame k (hne k hk) ((h k (hne k hk)).mpr hk)
  · intro hnone k hk hf
    exact hnone k ((h k hk).mp hf)

theorem tame_ok (a : α) : Tame (.ok a : Except Fault α) := failsOnly_ok a

theorem tame_error (h : f.kind = .value) : Tame (.error f : Except Fault α) := failsOnly_error h

theorem Tame.bind {next : α → Except Fault β} (hx : Tame x)
    (hnext : ∀ a, x = .ok a → Tame (next a)) : Tame (x >>= next) :=
  FailsOnly.bind hx hnext

theorem Tame.map {use : α → β} (hx : Tame x) : Tame (x.map use) := FailsOnly.map hx

theorem tame_mapM {g : α → Except Fault β} {xs : List α} (h : ∀ x ∈ xs, Tame (g x)) :
    Tame (xs.mapM g) :=
  failsOnly_mapM h

/-! ## Readings side by side -/

/-- Two readings that fail with the same fault, or give results that belong together. -/
inductive Alike {α β : Type} (R : α → β → Prop) : Except Fault α → Except Fault β → Prop
  | ok {a : α} {b : β} (h : R a b) : Alike R (.ok a) (.ok b)
  | error (f : Fault) : Alike R (.error f) (.error f)

theorem Alike.imp {α β : Type} {R S : α → β → Prop} {x : Except Fault α} {y : Except Fault β}
    (h : Alike R x y) (hRS : ∀ {a b}, R a b → S a b) : Alike S x y := by
  cases h with
  | ok h => exact .ok (hRS h)
  | error f => exact .error f

theorem Alike.bind {α β γ δ : Type} {R : α → β → Prop} {S : γ → δ → Prop} {x : Except Fault α}
    {y : Except Fault β} {next : α → Except Fault γ} {next' : β → Except Fault δ}
    (h : Alike R x y) (hnext : ∀ {a b}, R a b → Alike S (next a) (next' b)) :
    Alike S (x >>= next) (y >>= next') := by
  cases h with
  | ok h => exact hnext h
  | error f => exact .error f

/-- Chains with a common first link are alike if what follows it is. -/
theorem Alike.bind_same {α γ δ : Type} {S : γ → δ → Prop} (x : Except Fault α)
    {next : α → Except Fault γ} {next' : α → Except Fault δ}
    (hnext : ∀ a, Alike S (next a) (next' a)) : Alike S (x >>= next) (x >>= next') := by
  cases x with
  | ok a => exact hnext a
  | error f => exact .error f

/-- Of two readings that are alike, one succeeds if the other does. -/
theorem Alike.exists_of_ok {α β : Type} {R : α → β → Prop} {y : Except Fault β} {a : α}
    (h : Alike R (.ok a) y) : ∃ b, y = .ok b ∧ R a b := by
  cases h with
  | ok h => exact ⟨_, rfl, h⟩

end Defusal
