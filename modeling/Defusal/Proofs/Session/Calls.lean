import Defusal.Level.Bundled
import Defusal.Proofs.Session.Runner

/-!
# Where the runner stops

A call of the runner is a run and then a word on how the game ended. `Obeys` says what is expected
of one: nothing happens after a stop, the limit is kept, the call does not end without a reason, and
something is said exactly if the game is over.

`Calls` are calls on one runner that ended, one after the other. `calls_faithful` says that the
steps of all of them together are plain steps from the start, none left out and none made twice, and
that each call obeyed its own stops and its limit.
-/

namespace Defusal.Runner

variable {plan : StopPlan} {limit : Option Int} {r r' : Runner} {s s' : Session} {fuel : Nat}

/-! ## One call -/

/-- A call obeyed its stops and its limit, and ended properly. -/
structure Obeys (plan : StopPlan) (limit : Option Int) (a : Answer) : Prop where
  /-- The observer was told of every step. -/
  told : a.runner.seen.length = a.runner.steps
  /-- After a stop in a sleep no step was made. -/
  inSleep : ∀ n, 1 ≤ n → n ≤ a.runner.sleeps → plan.inSleep n = true →
    a.runner.sleeps = n ∧ a.runner.steps + 1 = n
  /-- After a stop that followed a step there was no further sleep or step. -/
  afterStep : ∀ n, 1 ≤ n → n ≤ a.runner.steps → plan.afterStep n = true →
    a.runner.steps = n ∧ a.runner.sleeps = n
  within : ∀ n, limit = some n → (a.runner.steps : Int) ≤ max 0 n
  slept : a.runner.sleeps = a.runner.steps ∨ a.runner.sleeps = a.runner.steps + 1
  overslept_iff : a.runner.sleeps = a.runner.steps + 1 ↔
    0 < a.runner.sleeps ∧ plan.inSleep a.runner.sleeps = true
  /-- It did not end without a reason. -/
  ended : a.returned.isTerminal = true ∨ isReached limit a.runner.steps = true ∨
    0 < a.runner.sleeps ∧ plan.inSleep a.runner.sleeps = true ∨
    0 < a.runner.steps ∧ plan.afterStep a.runner.steps = true
  stopped : a.runner.running = false
  returned : a.returned = a.runner.session
  said : verdict a.returned = .ok a.printed
  printed_iff : a.printed ≠ "" ↔ a.returned.isTerminal = true

/-- Something is said at the end if and only if the game is over. -/
theorem verdict_ne_empty_iff {text : String} (h : verdict s = .ok text) :
    text ≠ "" ↔ s.isTerminal = true := by
  unfold verdict at h
  unfold Session.isTerminal
  split at h
  next hs =>
    obtain ⟨t, -, h⟩ := bind_eq_ok h
    cases h
    simp [hs, Status.isTerminal]
  next hs =>
    obtain ⟨line, -, h⟩ := bind_eq_ok h
    obtain ⟨t, -, h⟩ := bind_eq_ok h
    cases h
    simp [hs, Status.isTerminal]
  next hwon hlost =>
    cases h
    cases hs : s.status with
    | won => exact absurd hs hwon
    | lost => exact absurd hs hlost
    | _ => simp [Status.isTerminal]

/-- A stop in a sleep was the last thing to happen. -/
theorem Faithful.of_inSleep (h : Faithful plan limit s r) {n : Nat} (hn : 1 ≤ n)
    (hle : n ≤ r.sleeps) (hstop : plan.inSleep n = true) : r.sleeps = n ∧ r.steps + 1 = n := by
  rcases Nat.lt_or_eq_of_le hle with hlt | rfl
  · exact absurd (hstop.symm.trans (h.quiet n hn hlt).1) (nomatch ·)
  cases h.last with
  | none _ hsleeps => omega
  | woken hsleeps => exact ⟨rfl, hsleeps.symm⟩
  | stepped _ hsleeps hawake =>
    rw [hsleeps] at hstop
    exact absurd (hstop.symm.trans hawake) (nomatch ·)

/-- A stop after a step was the last thing to happen. -/
theorem Faithful.of_afterStep (h : Faithful plan limit s r) {n : Nat} (hn : 1 ≤ n)
    (hle : n ≤ r.steps) (hstop : plan.afterStep n = true) : r.steps = n ∧ r.sleeps = n := by
  have hlast : r.sleeps ≤ n := by
    refine Nat.le_of_not_lt fun hlt => ?_
    exact absurd (hstop.symm.trans (h.quiet n hn hlt).2) (nomatch ·)
  cases h.last with
  | none hsteps => omega
  | woken hsleeps => omega
  | stepped _ hsleeps => omega

/-- A run that does not go on was ended by its game, its limit or a stop. -/
theorem Faithful.ended (h : Faithful plan limit s r) (hover : ¬ r.Goes limit) :
    r.session.isTerminal = true ∨ isReached limit r.steps = true ∨
      0 < r.sleeps ∧ plan.inSleep r.sleeps = true ∨
      0 < r.steps ∧ plan.afterStep r.steps = true := by
  cases hterminal : r.session.isTerminal with
  | true => exact .inl rfl
  | false =>
    cases hreached : isReached limit r.steps with
    | true => exact .inr (.inl rfl)
    | false =>
      have hstopped : r.running = false :=
        Bool.eq_false_iff.mpr fun hrunning => hover ⟨hrunning, hterminal, hreached⟩
      cases h.last with
      | none _ _ hrunning => exact absurd (hrunning.symm.trans hstopped) (nomatch ·)
      | woken hsleeps hstop => exact .inr (.inr (.inl ⟨by omega, hstop⟩))
      | stepped hsteps _ _ hafter =>
        exact .inr (.inr (.inr ⟨hsteps, by simpa using hafter.symm.trans hstopped⟩))

theorem Faithful.obeys {text : String} (h : Faithful plan limit s r) (hover : ¬ r.Goes limit)
    (htext : verdict r.session = .ok text) : Obeys plan limit ⟨r.session, r.stop, text⟩ where
  told := h.seen_length
  inSleep _ hn hle hstop := h.of_inSleep hn hle hstop
  afterStep _ hn hle hstop := h.of_afterStep hn hle hstop
  within := h.within
  slept := by
    cases h.last with
    | none hsteps hsleeps => exact .inl (hsleeps.trans hsteps.symm)
    | woken hsleeps => exact .inr hsleeps
    | stepped _ hsleeps => exact .inl hsleeps
  overslept_iff := by
    constructor
    · intro hmore
      have hmore : r.sleeps = r.steps + 1 := hmore
      cases h.last with
      | none hsteps hsleeps => omega
      | woken hsleeps hstop => exact ⟨Nat.lt_of_lt_of_eq (Nat.succ_pos _) hsleeps.symm, hstop⟩
      | stepped _ hsleeps => omega
    · rintro ⟨hpos, hstop⟩
      exact (h.of_inSleep hpos (Nat.le_refl _) hstop).2.symm
  ended := h.ended hover
  stopped := rfl
  returned := rfl
  said := htext
  printed_iff := verdict_ne_empty_iff htext

/-- A call that ends has run faithfully and obeyed. -/
theorem obeys_of_call {a : Answer} (h : call? plan limit fuel s = .ok (some a)) :
    Obeys plan limit a ∧ s.start.advance a.runner.seen.length = .ok a.returned ∧
      ∀ (j : Nat) (t : Session), a.runner.seen[j]? = some t → s.start.advance (j + 1) = .ok t := by
  obtain ⟨found, hrun, h⟩ := bind_eq_ok h
  cases found with
  | none => cases h
  | some r =>
    obtain ⟨text, htext, h⟩ := bind_eq_ok h
    cases h
    obtain ⟨r, hr, hover, rfl⟩ := faithful_of_run hrun
    refine ⟨hr.obeys hover htext, ?_, hr.seen⟩
    show s.start.advance r.seen.length = .ok r.session
    rw [hr.seen_length]
    exact hr.advanced

/-- The next call begins where a call ended, and starting does nothing more to the game. -/
theorem advance_after_call {a : Answer} (h : call? plan limit fuel s = .ok (some a)) (n : Nat) :
    a.runner.session.start.advance n = s.start.advance (a.runner.seen.length + n) := by
  obtain ⟨hobeys, hadvanced, -⟩ := obeys_of_call h
  have hstart := Session.start_of_advance_start hadvanced
  rw [Session.advance_add, hadvanced, ← hobeys.returned, hstart]
  rfl

theorem call_of_le {fuel' : Nat} {a : Answer} (hle : fuel ≤ fuel')
    (h : call? plan limit fuel s = .ok (some a)) : call? plan limit fuel' s = .ok (some a) := by
  have hturns : turns limit fuel ≤ turns limit fuel' := by
    cases limit with
    | none => exact hle
    | some n => exact Nat.le_refl _
  obtain ⟨found, hrun, h⟩ := bind_eq_ok h
  obtain ⟨ended, hloop, hrun⟩ := bind_eq_ok hrun
  cases ended with
  | none => cases hrun; cases h
  | some r =>
    cases hrun
    unfold call? run?
    rw [loop_of_le hturns hloop]
    exact h

/-- The fuel decides whether the end of a call is seen, and nothing else. -/
theorem call_unique {fuel' : Nat} {a a' : Answer} (h : call? plan limit fuel s = .ok (some a))
    (h' : call? plan limit fuel' s = .ok (some a')) : a = a' := by
  have hmore := call_of_le (Nat.le_max_left fuel fuel') h
  rw [call_of_le (Nat.le_max_right fuel fuel') h'] at hmore
  cases hmore
  rfl

/-! ## Calls one after the other -/

/-- A call on a runner: when stop is called during it, and its limit on the steps. -/
structure Call where
  plan : StopPlan
  limit : Option Int

/-- Calls on a runner that holds a session, one after the other, and what each gave back. -/
inductive Calls : Session → List (Call × Answer) → Prop
  | done {s : Session} : Calls s []
  | next {s : Session} {c : Call} {a : Answer} {fuel : Nat} {rest : List (Call × Answer)}
      (h : call? c.plan c.limit fuel s = .ok (some a)) (hrest : Calls a.runner.session rest) :
      Calls s ((c, a) :: rest)

/-- What calls give back is determined by the calls. -/
theorem Calls.unique {calls calls' : List (Call × Answer)} (h : Calls s calls)
    (h' : Calls s calls') (hsame : calls'.map Prod.fst = calls.map Prod.fst) : calls' = calls := by
  induction h generalizing calls' with
  | done => exact List.map_eq_nil_iff.mp hsame
  | next hcall hrest ih =>
    cases h' with
    | done => cases hsame
    | next hcall' hrest' =>
      obtain ⟨rfl, hlater⟩ := List.cons.inj hsame
      obtain rfl := call_unique hcall hcall'
      rw [ih hrest' hlater]

/-- Makes calls one after the other, where all of them end. -/
def callAll? (fuel : Nat) : Session → List Call → Except Fault (Option (List (Call × Answer)))
  | _, [] => .ok (some [])
  | s, c :: cs => do
    match ← call? c.plan c.limit fuel s with
    | none => return none
    | some a => return (← callAll? fuel a.runner.session cs).map ((c, a) :: ·)

theorem calls_of_callAll {cs : List Call} {calls : List (Call × Answer)}
    (h : callAll? fuel s cs = .ok (some calls)) : Calls s calls := by
  induction cs generalizing s calls with
  | nil => cases h; exact .done
  | cons c cs ih =>
    obtain ⟨found, hcall, h⟩ := bind_eq_ok h
    cases found with
    | none => cases h
    | some a =>
      obtain ⟨rest, hrest, h⟩ := bind_eq_ok h
      cases rest with
      | none => cases h
      | some rest => cases h; exact .next hcall (ih hrest)

/-- The sessions that the observer was told in some calls, in order. -/
def told (calls : List (Call × Answer)) : List Session :=
  calls.flatMap fun call => call.2.runner.seen

theorem told_nil : told [] = [] := rfl

theorem told_cons (c : Call) (a : Answer) (rest : List (Call × Answer)) :
    told ((c, a) :: rest) = a.runner.seen ++ told rest := List.flatMap_cons

/-- The observer is told the plain steps of the started game, over all calls. -/
theorem Calls.advance_of_told {calls : List (Call × Answer)} (h : Calls s calls) (j : Nat)
    (t : Session) (hj : (told calls)[j]? = some t) : s.start.advance (j + 1) = .ok t := by
  induction h generalizing j with
  | done => cases hj
  | next hcall hrest ih =>
    rw [told_cons, List.getElem?_append] at hj
    split at hj
    next => exact (obeys_of_call hcall).2.2 j t hj
    next hge =>
      -- A later call told it, and that call counts from where this one ended.
      have h := ih _ hj
      rw [advance_after_call hcall, ← Nat.add_assoc] at h
      rwa [Nat.add_sub_cancel' (Nat.le_of_not_lt hge)] at h

/-- The last call gives back the session after all the steps that were told. -/
theorem Calls.advance_of_last {calls : List (Call × Answer)} (h : Calls s calls) {c : Call}
    {a : Answer} (hlast : calls.getLast? = some (c, a)) :
    s.start.advance (told calls).length = .ok a.returned := by
  induction h with
  | done => cases hlast
  | @next _ _ _ _ rest hcall hrest ih =>
    cases rest with
    | nil =>
      cases hlast
      rw [told_cons, told_nil, List.append_nil]
      exact (obeys_of_call hcall).2.1
    | cons next rest =>
      rw [told_cons, List.length_append, ← advance_after_call hcall]
      exact ih hlast

theorem Calls.obeys {calls : List (Call × Answer)} (h : Calls s calls) (c : Call) (a : Answer)
    (hmem : (c, a) ∈ calls) : Obeys c.plan c.limit a := by
  induction h with
  | done => cases hmem
  | next hcall hrest ih =>
    rcases List.mem_cons.mp hmem with heq | hmem
    · cases heq
      exact (obeys_of_call hcall).1
    · exact ih hmem

/-- **The runner stops where it is told to, and leaves no step out and makes none twice.** Whatever
calls ended on one runner: the sessions that its observer was told are the plain steps of the
started game, one after the other, the last call returned the session after all of them, which is
the one that the runner holds, and every call obeyed its stops and its limit. Nothing else decides
what the calls give back. -/
theorem calls_faithful {calls : List (Call × Answer)} (h : Calls s calls) :
    (∀ (j : Nat) (t : Session), (told calls)[j]? = some t → s.start.advance (j + 1) = .ok t) ∧
      (∀ c a, calls.getLast? = some (c, a) → a.returned = a.runner.session ∧
        s.start.advance (told calls).length = .ok a.returned) ∧
      (∀ c a, (c, a) ∈ calls → Obeys c.plan c.limit a) ∧
      ∀ calls', Calls s calls' → calls'.map Prod.fst = calls.map Prod.fst → calls' = calls := by
  refine ⟨h.advance_of_told, fun c a hlast => ⟨?_, h.advance_of_last hlast⟩, h.obeys,
    fun _ => h.unique⟩
  exact (h.obeys c a (List.mem_of_getLast? hlast)).returned

/-- A game that is stopped in the second sleep, goes on for three steps, is stopped after two more,
and is then played to its end. -/
def interruptions : List Call := [
  ⟨⟨(· == 2), fun _ => false⟩, none⟩,
  ⟨.never, some 3⟩,
  ⟨⟨fun _ => false, (· == 2)⟩, none⟩,
  ⟨.never, none⟩]

/-- The doubling level, solved and played with interruptions, is over after twenty-one steps. -/
theorem calls_faithful_interrupted :
    let s := Session.reached .doubling [.reset (.int 16)]
    ∃ calls c a, Calls s calls ∧
      calls.map (fun call => (call.2.runner.steps, call.2.runner.sleeps)) =
        [(1, 2), (3, 3), (2, 2), (15, 15)] ∧
      calls.getLast? = some (c, a) ∧ s.start.advance 21 = .ok a.returned ∧
      Obeys c.plan c.limit a := by
  intro s
  let turns (calls : List (Call × Answer)) :=
    calls.map fun call => (call.2.runner.steps, call.2.runner.sleeps)
  have hrun : ((callAll? 20 s interruptions).toOption.getD none).map
      (fun calls => (turns calls, (told calls).length)) =
        some ([(1, 2), (3, 3), (2, 2), (15, 15)], 21) := by decide +kernel
  obtain ⟨calls, hfound, hturns⟩ := Option.map_eq_some_iff.mp hrun
  obtain ⟨hturns, hlength⟩ := Prod.mk.inj hturns
  have hcalls : Calls s calls := by
    cases hx : callAll? 20 s interruptions with
    | error f => rw [hx] at hfound; cases hfound
    | ok found => rw [hx] at hfound; exact calls_of_callAll (hx.trans (congrArg Except.ok hfound))
  have hne : calls ≠ [] := by
    rintro rfl
    cases hturns
  obtain ⟨-, hlast, hall, -⟩ := calls_faithful hcalls
  let last := calls.getLast hne
  have hgetLast : calls.getLast? = some (last.1, last.2) := List.getLast?_eq_some_getLast hne
  refine ⟨calls, last.1, last.2, hcalls, hturns, hgetLast, ?_, hall _ _ (List.getLast_mem hne)⟩
  rw [← hlength]
  exact (hlast _ _ hgetLast).2

end Defusal.Runner
