import MultiTape.Proofs.Machine.Runs

/-!
# Runs, steps and observers

A machine can be driven in three ways: by single steps, by a run, and by a run with an observer that
may break it off. All three see the same configurations. What decides is the list of the transitions
that fire and of the configurations right after them: a run goes through it once, and an observer is
told of its items in turn until it ends the run at one of them.

Runs have fuel, which is no part of what they do. A run with more fuel than steps to fire ends as it
would with any other such amount.

## Main definitions

* `Machine.StopsAfter`: so many steps fire, and then the machine stops
* `Machine.firings`: what fires in a number of steps, with the configurations after
* `Observer.Hears`, `Observer.BreaksOff`: an observer is told of some firings and ends the run at
  none of them, or at one
* `Observer.noteAll`: what an observer that ends no run notes

## Main results

* `Machine.runFrom_of_hears`, `Machine.runFrom_of_breaksOff`: where a run ends
* `Machine.exists_stopsAfter_of_runFrom`: a run that ends was one of so many steps
* `Machine.runFrom_of_le`: more fuel changes nothing
* `Machine.runFrom_eq_silent`: observers that end no run only take notes
* `Machine.run_iterates`: single steps, runs and observed runs tell the same story
-/

namespace MultiTape

variable {σ ε : Type}

/-! ### Observers -/

/-- What an observer is told at a firing: the transition and the configuration right after it. -/
abbrev Firing := Transition × Config

namespace Observer

/-- Told of some firings one after the other, the observer ends the run at none of them. The last
argument is what it has noted then. -/
inductive Hears (observe : Observer σ ε) : σ → List Firing → σ → Prop where
  /-- It was told of nothing. -/
  | nil (noted : σ) : Hears observe noted [] noted
  /-- It was told of a firing, and then of others. -/
  | cons {noted noted' noted'' : σ} {t : Transition} {c : Config} {calls : List Firing}
    (h : observe noted t c = (noted', none)) (hrest : Hears observe noted' calls noted'') :
    Hears observe noted ((t, c) :: calls) noted''

/-- Told of some firings one after the other, the observer ends the run at the one with number `L`,
counted from one, for the reason `e`. The argument before the reason is what it has noted then. -/
inductive BreaksOff (observe : Observer σ ε) : σ → List Firing → Nat → σ → ε → Prop where
  /-- It ends the run at the first of them. -/
  | first {noted noted' : σ} {t : Transition} {c : Config} {calls : List Firing} {e : ε}
    (h : observe noted t c = (noted', some e)) :
    BreaksOff observe noted ((t, c) :: calls) 1 noted' e
  /-- It ends the run at a later one. -/
  | later {noted noted' noted'' : σ} {t : Transition} {c : Config} {calls : List Firing} {L : Nat}
    {e : ε} (h : observe noted t c = (noted', none))
    (hrest : BreaksOff observe noted' calls L noted'' e) :
    BreaksOff observe noted ((t, c) :: calls) (L + 1) noted'' e

variable {observe : Observer σ ε} {noted noted' : σ} {calls : List Firing} {e : ε}

theorem BreaksOff.pos {L : Nat} (h : observe.BreaksOff noted calls L noted' e) : 0 < L := by
  cases h <;> omega

theorem BreaksOff.le_length {L : Nat} (h : observe.BreaksOff noted calls L noted' e) :
    L ≤ calls.length := by
  induction h with
  | first _ => simp
  | later _ _ ih => simpa using ih

/-- An observer either hears of everything or ends the run at some firing. -/
theorem hears_or_breaksOff (observe : Observer σ ε) (noted : σ) (calls : List Firing) :
    (∃ noted', observe.Hears noted calls noted') ∨
      ∃ L noted' e, observe.BreaksOff noted calls L noted' e := by
  induction calls generalizing noted with
  | nil => exact .inl ⟨noted, .nil noted⟩
  | cons call calls ih =>
    obtain ⟨t, c⟩ := call
    rcases h : observe noted t c with ⟨noted', _ | e⟩
    · rcases ih noted' with ⟨noted'', hears⟩ | ⟨L, noted'', e, hbreaks⟩
      · exact .inl ⟨noted'', .cons h hears⟩
      · exact .inr ⟨L + 1, noted'', e, .later h hbreaks⟩
    · exact .inr ⟨1, noted', e, .first h⟩

/-- What an observer that ends no run has noted after some firings. -/
def noteAll (observe : Observer σ Empty) (noted : σ) (calls : List Firing) : σ :=
  calls.foldl (fun noted call => (observe noted call.1 call.2).1) noted

theorem hears_silent (calls : List Firing) : Observer.silent.Hears () calls () := by
  induction calls with
  | nil => exact .nil ()
  | cons call calls ih => exact .cons rfl ih

end Observer

namespace Machine

variable {m : Machine} {c c' : Config} {t : Transition} {n k fuel fuel' count : Nat}
  {observe : Observer σ ε} {noted noted' : σ}

/-! ### Machines that stop -/

theorem step_fst_eq_halted_iff : (m.step c).1 = .halted ↔ m.next? c = none := by
  rcases step_cases m c with ⟨hnext, h⟩ | ⟨t, i, hnext, -, h⟩ | ⟨t, hnext, -, h⟩ <;>
    simp [h, hnext]

/-- A machine on which nothing fires stays where it is, and is marked as stopped. -/
theorem steps_of_next?_eq_none (h : m.next? c = none) (k : Nat) :
    m.steps (k + 1) c = { c with halted := true } := by
  induction k with
  | zero => rw [steps_succ, steps_zero, step_of_next?_eq_none h]
  | succ k ih =>
    have hstopped : m.next? { c with halted := true } = none := by simp [next?]
    rw [steps_succ, ih, step_of_next?_eq_none hstopped]

/-- A transition fires only on a machine that has not stopped, and does not stop it. -/
theorem halted_of_step_eq_fired (h : m.step c = (.fired t, c')) :
    c.halted = false ∧ c'.halted = false := by
  obtain ⟨hnext, hhalted⟩ := next?_of_step_eq_fired h
  have hrunning := (next?_eq_some hnext).1
  exact ⟨hrunning, hhalted.trans hrunning⟩

/-- The next `n` steps each fire a transition, and the step after them finds none. -/
structure StopsAfter (m : Machine) (n : Nat) (c : Config) : Prop where
  /-- The steps fire. -/
  fired : ∀ k < n, ∃ t, (m.step (m.steps k c)).1 = .fired t
  /-- The step after them does not. -/
  halted : (m.step (m.steps n c)).1 = .halted

theorem stopsAfter_zero_iff : m.StopsAfter 0 c ↔ m.next? c = none :=
  ⟨fun h => step_fst_eq_halted_iff.mp h.halted,
    fun h => ⟨fun _ hk => absurd hk (Nat.not_lt_zero _), step_fst_eq_halted_iff.mpr h⟩⟩

theorem stopsAfter_succ_iff :
    m.StopsAfter (n + 1) c ↔ ∃ t c', m.step c = (.fired t, c') ∧ m.StopsAfter n c' := by
  constructor
  · rintro ⟨hfired, hhalted⟩
    obtain ⟨t, ht⟩ := hfired 0 (Nat.succ_pos n)
    refine ⟨t, (m.step c).2, Prod.ext ht rfl, fun k hk => ?_, ?_⟩
    · rw [← steps_succ']
      exact hfired (k + 1) (Nat.succ_lt_succ hk)
    · rw [← steps_succ']
      exact hhalted
  · rintro ⟨t, c', hstep, hfired, hhalted⟩
    refine ⟨fun k hk => ?_, ?_⟩
    · cases k with
      | zero => exact ⟨t, by rw [steps_zero, hstep]⟩
      | succ k =>
        rw [steps_succ_of_step hstep]
        exact hfired k (Nat.lt_of_succ_lt_succ hk)
    · rw [steps_succ_of_step hstep]
      exact hhalted

theorem StopsAfter.next?_eq_none (h : m.StopsAfter n c) : m.next? (m.steps n c) = none :=
  step_fst_eq_halted_iff.mp h.halted

/-- After some of its steps fewer are left. -/
theorem StopsAfter.of_steps (h : m.StopsAfter n c) (hk : k ≤ n) :
    m.StopsAfter (n - k) (m.steps k c) := by
  refine ⟨fun j hj => ?_, ?_⟩
  · rw [← steps_add]
    exact h.fired (k + j) (by omega)
  · rw [← steps_add, Nat.add_sub_cancel' hk]
    exact h.halted

/-- Once a machine has stopped, nothing changes any more. -/
theorem StopsAfter.step_eq (h : m.StopsAfter n c) (k : Nat) :
    m.step (m.steps (n + 1 + k) c) = (.halted, m.steps (n + 1) c) := by
  have hsteps : ∀ j, m.steps (n + 1 + j) c = { m.steps n c with halted := true } := fun j => by
    rw [Nat.add_assoc, Nat.add_comm 1 j, steps_add, steps_of_next?_eq_none h.next?_eq_none]
  have hstopped : m.next? (m.steps (n + 1 + k) c) = none := by simp [hsteps k, next?]
  rw [step_of_next?_eq_none hstopped, hsteps k, ← hsteps 0]

/-! ### Firings -/

/-- The transitions that fire in the next `n` steps, each with the configuration right after it. -/
def firings (m : Machine) : Nat → Config → List Firing
  | 0, _ => []
  | n + 1, c =>
    match m.step c with
    | (.fired t, c') => (t, c') :: m.firings n c'
    | _ => []

theorem firings_succ (h : m.step c = (.fired t, c')) (n : Nat) :
    m.firings (n + 1) c = (t, c') :: m.firings n c' := by
  rw [firings, h]

/-- Every firing is that of one of the steps. -/
theorem exists_step_of_mem_firings {call : Firing} (h : call ∈ m.firings n c) :
    ∃ k < n, m.step (m.steps k c) = (.fired call.1, call.2) := by
  induction n generalizing c with
  | zero => exact nomatch h
  | succ n ih =>
    rw [firings] at h
    split at h
    · next t c' hstep =>
      rcases List.mem_cons.mp h with rfl | h
      · exact ⟨0, Nat.succ_pos n, hstep⟩
      · obtain ⟨k, hk, hfired⟩ := ih h
        refine ⟨k + 1, Nat.succ_lt_succ hk, ?_⟩
        rw [steps_succ_of_step hstep, hfired]
    · exact nomatch h

theorem StopsAfter.length_firings (h : m.StopsAfter n c) : (m.firings n c).length = n := by
  induction n generalizing c with
  | zero => rfl
  | succ n ih =>
    obtain ⟨t, c', hstep, h'⟩ := stopsAfter_succ_iff.mp h
    rw [firings_succ hstep, List.length_cons, ih h']

/-- The firing with number `k`, counted from zero, is that of the step after `k` steps. -/
theorem StopsAfter.getElem?_firings (h : m.StopsAfter n c) (hk : k < n) :
    ∃ t, (m.step (m.steps k c)).1 = .fired t ∧
      (m.firings n c)[k]? = some (t, m.steps (k + 1) c) ∧
      (m.steps (k + 1) c).halted = false := by
  induction n generalizing c k with
  | zero => exact absurd hk (Nat.not_lt_zero k)
  | succ n ih =>
    obtain ⟨t, c', hstep, h'⟩ := stopsAfter_succ_iff.mp h
    rw [firings_succ hstep, steps_succ_of_step hstep]
    cases k with
    | zero => exact ⟨t, by rw [steps_zero, hstep], rfl, (halted_of_step_eq_fired hstep).2⟩
    | succ k =>
      rw [steps_succ_of_step hstep, List.getElem?_cons_succ]
      exact ih h' (Nat.lt_of_succ_lt_succ hk)

/-! ### Runs -/

section Run

variable {e : ε} {f : Fault}

theorem runFrom_of_halted (h : m.step c = (.halted, c')) :
    m.runFrom observe (fuel + 1) count noted c = ⟨.halted, count, noted, c'⟩ := by
  rw [runFrom, h]

theorem runFrom_of_failed (h : m.step c = (.failed f, c')) :
    m.runFrom observe (fuel + 1) count noted c = ⟨.failed f, count, noted, c'⟩ := by
  rw [runFrom, h]

theorem runFrom_of_fired (h : m.step c = (.fired t, c'))
    (hobserve : observe noted t c' = (noted', none)) :
    m.runFrom observe (fuel + 1) count noted c =
      m.runFrom observe fuel (count + 1) noted' c' := by
  simp only [runFrom, h, hobserve]

theorem runFrom_of_stopped (h : m.step c = (.fired t, c'))
    (hobserve : observe noted t c' = (noted', some e)) :
    m.runFrom observe (fuel + 1) count noted c = ⟨.stopped e, count + 1, noted', c'⟩ := by
  simp only [runFrom, h, hobserve]

/-- **A run whose observer hears of everything** ends when the machine has stopped. -/
theorem runFrom_of_hears (h : m.StopsAfter n c)
    (hears : observe.Hears noted (m.firings n c) noted') (hfuel : n < fuel) (count : Nat) :
    m.runFrom observe fuel count noted c = ⟨.halted, count + n, noted', m.steps (n + 1) c⟩ := by
  obtain ⟨fuel, rfl⟩ := Nat.exists_eq_succ_of_ne_zero (Nat.ne_zero_of_lt hfuel)
  induction n generalizing c noted fuel count with
  | zero =>
    cases hears
    have hnext := stopsAfter_zero_iff.mp h
    rw [runFrom_of_halted (step_of_next?_eq_none hnext), steps_of_next?_eq_none hnext,
      Nat.add_zero]
  | succ n ih =>
    obtain ⟨t, c', hstep, h'⟩ := stopsAfter_succ_iff.mp h
    obtain ⟨fuel, rfl⟩ := Nat.exists_eq_succ_of_ne_zero (show fuel ≠ 0 by omega)
    rw [firings_succ hstep] at hears
    cases hears with
    | cons hobserve hrest =>
      rw [runFrom_of_fired hstep hobserve, ih h' hrest _ fuel (Nat.lt_of_succ_lt_succ hfuel),
        steps_succ_of_step hstep, Nat.add_right_comm, Nat.add_assoc]

/-- **A run that the observer breaks off** ends right after the firing at which it does. -/
theorem runFrom_of_breaksOff {L : Nat}
    (hbreaks : observe.BreaksOff noted (m.firings n c) L noted' e) (hfuel : L ≤ fuel)
    (count : Nat) :
    m.runFrom observe fuel count noted c = ⟨.stopped e, count + L, noted', m.steps L c⟩ := by
  induction n generalizing c noted fuel count L with
  | zero => cases hbreaks
  | succ n ih =>
    obtain ⟨fuel, rfl⟩ := Nat.exists_eq_succ_of_ne_zero
      (Nat.ne_zero_of_lt (Nat.lt_of_lt_of_le hbreaks.pos hfuel))
    rw [firings] at hbreaks
    split at hbreaks
    · next t c' hstep =>
      cases hbreaks with
      | first hobserve =>
        rw [runFrom_of_stopped hstep hobserve, steps_succ_of_step hstep, steps_zero]
      | later hobserve hrest =>
        rw [runFrom_of_fired hstep hobserve, ih hrest (Nat.le_of_succ_le_succ hfuel),
          steps_succ_of_step hstep, Nat.add_right_comm, Nat.add_assoc]
    · cases hbreaks

/-- A run that ended when the machine had stopped was one of so many steps. -/
theorem exists_stopsAfter_of_runFrom
    (h : (m.runFrom observe fuel count noted c).ending = .halted) :
    ∃ n < fuel, m.StopsAfter n c ∧
      (m.runFrom observe fuel count noted c).config = m.steps (n + 1) c := by
  induction fuel generalizing count noted c with
  | zero => exact nomatch h
  | succ fuel ih =>
    rcases hstep : m.step c with ⟨t | _ | f, c'⟩
    case fired =>
      rcases hobserve : observe noted t c' with ⟨noted', _ | e⟩
      · rw [runFrom_of_fired hstep hobserve] at h ⊢
        obtain ⟨n, hn, hstops, hconfig⟩ := ih h
        refine ⟨n + 1, Nat.succ_lt_succ hn, stopsAfter_succ_iff.mpr ⟨t, c', hstep, hstops⟩, ?_⟩
        rw [hconfig, steps_succ_of_step hstep]
      · rw [runFrom_of_stopped hstep hobserve] at h
        exact nomatch h
    case halted =>
      have hnext : m.next? c = none := step_fst_eq_halted_iff.mp (by rw [hstep])
      refine ⟨0, Nat.succ_pos fuel, stopsAfter_zero_iff.mpr hnext, ?_⟩
      rw [runFrom_of_halted hstep, steps_succ_of_step hstep, steps_zero]
    case failed =>
      rw [runFrom_of_failed hstep] at h
      exact nomatch h

/-- **More fuel changes nothing** about a run that ended. -/
theorem runFrom_of_le (h : (m.runFrom observe fuel count noted c).ending ≠ .outOfFuel)
    (hle : fuel ≤ fuel') :
    m.runFrom observe fuel' count noted c = m.runFrom observe fuel count noted c := by
  induction fuel generalizing fuel' count noted c with
  | zero => exact absurd rfl h
  | succ fuel ih =>
    obtain ⟨fuel', rfl⟩ := Nat.exists_eq_succ_of_ne_zero (Nat.ne_zero_of_lt hle)
    rcases hstep : m.step c with ⟨t | _ | f, c'⟩
    case fired =>
      rcases hobserve : observe noted t c' with ⟨noted', _ | e⟩
      · rw [runFrom_of_fired hstep hobserve] at h ⊢
        rw [runFrom_of_fired hstep hobserve, ih h (Nat.le_of_succ_le_succ hle)]
      · rw [runFrom_of_stopped hstep hobserve, runFrom_of_stopped hstep hobserve]
    case halted => rw [runFrom_of_halted hstep, runFrom_of_halted hstep]
    case failed => rw [runFrom_of_failed hstep, runFrom_of_failed hstep]

end Run

/-! ### Observers that break off nothing -/

theorem firings_of_halted (h : m.step c = (.halted, c')) (n : Nat) : m.firings n c = [] := by
  cases n with
  | zero => rfl
  | succ n => rw [firings, h]

/-- Once the machine has stopped, more steps fire no more. -/
theorem StopsAfter.firings_of_le (h : m.StopsAfter n c) (hle : n ≤ k) :
    m.firings k c = m.firings n c := by
  induction n generalizing c k with
  | zero => exact firings_of_halted (step_of_next?_eq_none (stopsAfter_zero_iff.mp h)) k
  | succ n ih =>
    obtain ⟨k, rfl⟩ := Nat.exists_eq_succ_of_ne_zero (Nat.ne_zero_of_lt hle)
    obtain ⟨t, c', hstep, h'⟩ := stopsAfter_succ_iff.mp h
    rw [firings_succ hstep, firings_succ hstep, ih h' (Nat.le_of_succ_le_succ hle)]

/-- **An observer that breaks off nothing only takes notes.** The run is the silent one, and noted
is what the firings of it call for. -/
theorem runFrom_eq_silent (m : Machine) (observe : Observer σ Empty) (fuel count : Nat) (noted : σ)
    (c : Config) :
    m.runFrom observe fuel count noted c =
      { m.runFrom Observer.silent fuel count () c with
        noted := observe.noteAll noted (m.firings fuel c) } := by
  induction fuel generalizing count noted c with
  | zero => rfl
  | succ fuel ih =>
    rcases hstep : m.step c with ⟨t | _ | f, c'⟩
    case fired =>
      rcases hobserve : observe noted t c' with ⟨noted', _ | e⟩
      · have hnoted : observe.noteAll noted (m.firings (fuel + 1) c) =
            observe.noteAll noted' (m.firings fuel c') := by
          rw [firings_succ hstep, Observer.noteAll, List.foldl_cons, hobserve]
          rfl
        rw [runFrom_of_fired hstep hobserve, runFrom_of_fired hstep rfl, ih, hnoted]
      · exact e.elim
    case halted =>
      rw [runFrom_of_halted hstep, runFrom_of_halted hstep, firings, hstep]
      rfl
    case failed =>
      rw [runFrom_of_failed hstep, runFrom_of_failed hstep, firings, hstep]
      rfl

/-! ### Queries -/

/-- Two queries, which may have had different observers, have the same answer or find the same fault
or run out of fuel, and leave the machine alike. -/
structure Query.Agrees {σ ε σ' ε' α : Type} (q : Query σ ε α) (q' : Query σ' ε' α) : Prop where
  /-- They have the same answer. -/
  answer : ∀ a, q.answer = .ok a ↔ q'.answer = .ok a
  /-- They find the same fault. -/
  failed : ∀ e, q.answer = .error (.failed e) ↔ q'.answer = .error (.failed e)
  /-- They run out of fuel together. -/
  outOfFuel : q.answer = .error .outOfFuel ↔ q'.answer = .error .outOfFuel
  /-- They leave the machine alike. -/
  config : q.config = q'.config

section Query

variable {σ' ε' α : Type} {observe' : Observer σ' ε'} {start start' : σ'} {w : Text} {e : ε}

/-- The same is concluded from runs that stopped in the same configuration. -/
theorem conclude_agrees {run : Run σ ε} {run' : Run σ' ε'} (h : run.ending = .halted)
    (h' : run'.ending = .halted) (hconfig : run.config = run'.config)
    (answer : Config → Except Fault α) :
    (m.conclude run answer).Agrees (m.conclude run' answer) := by
  simp only [conclude, h, h', hconfig]
  cases answer run'.config <;> constructor <;> simp

theorem conclude_answer_eq_outOfFuel_iff {run : Run σ ε} {answer : Config → Except Fault α} :
    (m.conclude run answer).answer = .error .outOfFuel ↔ run.ending = .outOfFuel := by
  rw [conclude]
  cases run.ending <;> simp
  cases answer run.config <;> simp

/-- More fuel changes nothing about a query that ended. -/
theorem transform_of_le (h : (m.transform observe fuel noted w).answer ≠ .error .outOfFuel)
    (hle : fuel ≤ fuel') :
    m.transform observe fuel' noted w = m.transform observe fuel noted w := by
  have hending := mt conclude_answer_eq_outOfFuel_iff.mpr h
  rw [transform, transform, run, run, runFrom_of_le hending hle]

theorem accepts_of_le (h : (m.accepts observe fuel noted w).answer ≠ .error .outOfFuel)
    (hle : fuel ≤ fuel') :
    m.accepts observe fuel' noted w = m.accepts observe fuel noted w := by
  rw [accepts] at h
  rw [accepts, accepts]
  split
  · rfl
  · rw [if_neg ‹_›] at h
    have hending := mt conclude_answer_eq_outOfFuel_iff.mpr h
    rw [run, run, runFrom_of_le hending hle]

theorem run_agrees (h : m.StopsAfter n c)
    (hears : observe.Hears noted (m.firings n c) noted')
    (hears' : observe'.Hears start (m.firings n c) start') (hfuel : n < fuel) (hfuel' : n < fuel')
    (answer : Config → Except Fault α) :
    (m.conclude (m.run observe fuel noted c) answer).Agrees
      (m.conclude (m.run observe' fuel' start c) answer) := by
  have hrun := runFrom_of_hears h hears hfuel 0
  have hrun' := runFrom_of_hears h hears' hfuel' 0
  refine conclude_agrees ?_ ?_ ?_ answer <;> simp only [run, hrun, hrun']

theorem transform_agrees (h : m.StopsAfter n (m.initial w))
    (hears : observe.Hears noted (m.firings n (m.initial w)) noted')
    (hears' : observe'.Hears start (m.firings n (m.initial w)) start') (hfuel : n < fuel)
    (hfuel' : n < fuel') :
    (m.transform observe fuel noted w).Agrees (m.transform observe' fuel' start w) :=
  run_agrees h hears hears' hfuel hfuel' _

theorem accepts_agrees (h : m.StopsAfter n (m.initial w))
    (hears : observe.Hears noted (m.firings n (m.initial w)) noted')
    (hears' : observe'.Hears start (m.firings n (m.initial w)) start') (hfuel : n < fuel)
    (hfuel' : n < fuel') :
    (m.accepts observe fuel noted w).Agrees (m.accepts observe' fuel' start w) := by
  rw [accepts, accepts]
  split
  · exact ⟨fun _ => by simp, fun _ => by simp, by simp, rfl⟩
  · exact run_agrees h hears hears' hfuel hfuel' _

/-- A word is transformed as without the observer. -/
theorem transform_eq_silent (m : Machine) (observe : Observer σ Empty) (fuel : Nat) (noted : σ)
    (w : Text) :
    m.transform observe fuel noted w =
      { m.transform Observer.silent fuel () w with
        noted := observe.noteAll noted (m.firings fuel (m.initial w)) } := by
  rw [transform, transform, run, run, runFrom_eq_silent, conclude, conclude]
  dsimp only
  split
  · split <;> rfl
  all_goals rfl

theorem transform_of_breaksOff {L : Nat}
    (hbreaks : observe.BreaksOff noted (m.firings n (m.initial w)) L noted' e) (hfuel : L ≤ fuel) :
    m.transform observe fuel noted w =
      ⟨.error (.stopped e), noted', m.steps L (m.initial w)⟩ := by
  rw [transform, run, runFrom_of_breaksOff hbreaks hfuel]
  rfl

/-- A run from an accepting state has nothing to break off. -/
theorem isAccepting_eq_false_of_breaksOff {L : Nat}
    (hbreaks : observe.BreaksOff noted (m.firings n c) L noted' e) :
    (m.active c).isAccepting = false := by
  cases n with
  | zero => cases hbreaks
  | succ n =>
    rw [firings] at hbreaks
    split at hbreaks
    · next t c' hstep =>
      have hrunning := (next?_eq_some (next?_of_step_eq_fired hstep).1).2.1
      rw [State.isRunning, beq_iff_eq] at hrunning
      rw [State.isAccepting, hrunning]
      rfl
    · cases hbreaks

theorem accepts_of_breaksOff {L : Nat}
    (hbreaks : observe.BreaksOff noted (m.firings n (m.initial w)) L noted' e) (hfuel : L ≤ fuel) :
    m.accepts observe fuel noted w =
      ⟨.error (.stopped e), noted', m.steps L (m.initial w)⟩ := by
  rw [accepts, isAccepting_eq_false_of_breaksOff hbreaks, run,
    runFrom_of_breaksOff hbreaks hfuel]
  rfl

end Query

/-! ### Three ways of driving a machine -/

/-- An observer has made no difference to a run of `n` firings from `c`, nor to the queries that do
that run, and has noted `noted'` at its end. -/
structure Undisturbed (m : Machine) (n : Nat) (c : Config) (observe : Observer σ ε)
    (noted noted' : σ) : Prop where
  /-- The run ends when the machine has stopped. -/
  run_eq : ∀ fuel, n < fuel →
    m.run observe fuel noted c = ⟨.halted, n, noted', m.steps (n + 1) c⟩
  /-- A word is transformed as without an observer. -/
  transform_agrees : ∀ w, c = m.initial w → ∀ fuel, n < fuel →
    (m.transform observe fuel noted w).Agrees (m.transform Observer.silent fuel () w)
  /-- A word is accepted as without an observer. -/
  accepts_agrees : ∀ w, c = m.initial w → ∀ fuel, n < fuel →
    (m.accepts observe fuel noted w).Agrees (m.accepts Observer.silent fuel () w)

/-- An observer has broken off a run from `c`, and the queries that do that run, for the reason `e`,
when it had noted `noted'` and the machine stood where `L` steps lead. -/
structure BrokenOff (m : Machine) (L : Nat) (c : Config) (observe : Observer σ ε)
    (noted noted' : σ) (e : ε) : Prop where
  /-- The run ends right there. -/
  run_eq : ∀ fuel, L ≤ fuel → m.run observe fuel noted c = ⟨.stopped e, L, noted', m.steps L c⟩
  /-- A word is not transformed. -/
  transform_eq : ∀ w, c = m.initial w → ∀ fuel, L ≤ fuel →
    m.transform observe fuel noted w = ⟨.error (.stopped e), noted', m.steps L c⟩
  /-- Nor is it accepted or rejected. -/
  accepts_eq : ∀ w, c = m.initial w → ∀ fuel, L ≤ fuel →
    m.accepts observe fuel noted w = ⟨.error (.stopped e), noted', m.steps L c⟩

/-- **Runs are steps, and observers see the configurations between them.** If `n` steps fire and the
next one does not, the firings are those of the single steps, each with the configuration right
after it, in which the machine has not stopped. A run fires what is left to fire and ends where the
single steps end, after which nothing changes any more. An observer is told of the firings in turn:
either of all of them, and then it makes no difference, or up to the one at which it breaks the run
off, and then the machine stands right behind that one. -/
theorem run_iterates (h : m.StopsAfter n c) :
    (m.firings n c).length = n ∧
      (∀ k < n, ∃ t, (m.step (m.steps k c)).1 = .fired t ∧
        (m.firings n c)[k]? = some (t, m.steps (k + 1) c) ∧
        (m.steps (k + 1) c).halted = false) ∧
      (∀ k ≤ n, ∀ fuel, n - k < fuel →
        m.run Observer.silent fuel () (m.steps k c) = ⟨.halted, n - k, (), m.steps (n + 1) c⟩) ∧
      (∀ k, m.step (m.steps (n + 1 + k) c) = (.halted, m.steps (n + 1) c) ∧
        ∀ fuel, 0 < fuel →
          m.run Observer.silent fuel () (m.steps (n + 1 + k) c) =
            ⟨.halted, 0, (), m.steps (n + 1) c⟩) ∧
      ∀ (σ ε : Type) (observe : Observer σ ε) (noted : σ),
        ((∃ noted', observe.Hears noted (m.firings n c) noted') ∨
          ∃ L noted' e, observe.BreaksOff noted (m.firings n c) L noted' e) ∧
        (∀ noted', observe.Hears noted (m.firings n c) noted' →
          m.Undisturbed n c observe noted noted') ∧
        ∀ L noted' e, observe.BreaksOff noted (m.firings n c) L noted' e →
          L ≤ n ∧ m.BrokenOff L c observe noted noted' e := by
  refine ⟨h.length_firings, fun k hk => h.getElem?_firings hk, fun k hk fuel hfuel => ?_,
    fun k => ⟨h.step_eq k, fun fuel hfuel => ?_⟩, fun σ ε observe noted => ⟨?_, ?_, ?_⟩⟩
  · rw [run, runFrom_of_hears (h.of_steps hk) (Observer.hears_silent _) hfuel, ← steps_add,
      Nat.zero_add, ← Nat.add_assoc, Nat.add_sub_cancel' hk]
  · obtain ⟨fuel, rfl⟩ := Nat.exists_eq_succ_of_ne_zero (Nat.ne_zero_of_lt hfuel)
    rw [run, runFrom_of_halted (h.step_eq k)]
  · exact observe.hears_or_breaksOff noted _
  · intro noted' hears
    refine ⟨fun fuel hfuel => ?_, ?_, ?_⟩
    · rw [run, runFrom_of_hears h hears hfuel, Nat.zero_add]
    · rintro w rfl fuel hfuel
      exact transform_agrees h hears (Observer.hears_silent _) hfuel hfuel
    · rintro w rfl fuel hfuel
      exact accepts_agrees h hears (Observer.hears_silent _) hfuel hfuel
  · intro L noted' e hbreaks
    refine ⟨h.length_firings ▸ hbreaks.le_length, fun fuel hfuel => ?_, ?_, ?_⟩
    · rw [run, runFrom_of_breaksOff hbreaks hfuel, Nat.zero_add]
    · rintro w rfl fuel hfuel
      exact transform_of_breaksOff hbreaks hfuel
    · rintro w rfl fuel hfuel
      exact accepts_of_breaksOff hbreaks hfuel

/-- A machine that goes right over letters `a`, writing a `b` for each. -/
def sweep : Machine where
  numTapes := 0
  start := 0
  startIndex := 0
  alphabet := .standard
  states := [⟨0, .running, [⟨0, ['a'], [['~']], 0, .right, [['b']], [.right]⟩]⟩]

/-- On `aa` it fires twice. An observer that breaks off at the second firing sees the machine behind
both, and the run has not ended then; one that waits for a third makes no difference. -/
theorem sweep_iterates :
    sweep.StopsAfter 2 (sweep.initial ['a', 'a']) ∧
      (sweep.run (Observer.stopAfter (some 2)) 5 0 (sweep.initial ['a', 'a'])).ending =
        .stopped 2 ∧
      (sweep.steps 2 (sweep.initial ['a', 'a'])).halted = false ∧
      sweep.run (Observer.stopAfter (some 3)) 5 0 (sweep.initial ['a', 'a']) =
        ⟨.halted, 2, 2, sweep.steps 3 (sweep.initial ['a', 'a'])⟩ ∧
      (sweep.transform (Observer.stopAfter (some 3)) 5 0 ['a', 'a']).answer =
        .ok [.char 'b', .char 'b'] := by
  have hstops : sweep.StopsAfter 2 (sweep.initial ['a', 'a']) :=
    stopsAfter_succ_iff.mpr ⟨_, _, rfl, stopsAfter_succ_iff.mpr
      ⟨_, _, rfl, stopsAfter_zero_iff.mpr rfl⟩⟩
  obtain ⟨-, -, -, -, hobserved⟩ := run_iterates hstops
  obtain ⟨-, -, hbroken⟩ := hobserved Nat Nat (Observer.stopAfter (some 2)) 0
  obtain ⟨-, hundisturbed, -⟩ := hobserved Nat Nat (Observer.stopAfter (some 3)) 0
  obtain ⟨-, hbroken⟩ := hbroken 2 2 2 (.later rfl (.first rfl))
  have hundisturbed := hundisturbed 2 (.cons rfl (.cons rfl (.nil 2)))
  refine ⟨hstops, ?_, rfl, hundisturbed.run_eq 5 (by decide), ?_⟩
  · rw [hbroken.run_eq 5 (by decide)]
  · exact ((hundisturbed.transform_agrees _ rfl 5 (by decide)).answer _).mpr (by decide +kernel)

end Machine

end MultiTape
