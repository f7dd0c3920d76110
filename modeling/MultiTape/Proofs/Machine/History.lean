import MultiTape.Proofs.Machine.Built
import MultiTape.Proofs.Machine.Runs

/-!
# Machines in use

A machine that is in use stands somewhere: it may have been stepped by hand, or a query may have
been broken off halfway and left the tapes written and the state as it was. A query overwrites all
of that before its run, so nothing shows in it of what was done before except the transitions that
were added.

Operations are given field by field here: resetting writes each field of the configuration, and
queries reset, run and reset again. That they come to the queries about a word and a machine, which
know nothing of where the machine stands, is proved first.

## Main definitions

* `Device`: a machine with where it stands
* `Device.reset`, `Device.step`, `Device.run`, `Device.transform`, `Device.accepts`: its operations
* `Operation`, `Device.perform`, `Device.after`: operations as data, and histories of them
* `Device.AnswersAs`: one device answers as another does
* `Device.AtStart`: a machine that was reset

## Main results

* `Device.transform_eq`, `Device.accepts_eq`: queries are those of the machine and do not depend on
  where it stands
* `Device.machine_after`: of a history only the added transitions remain
* `Device.isolated`: queries after any history are those of a fresh machine with the transitions
  that were added
-/

namespace MultiTape

/-- A machine in use. -/
structure Device where
  /-- The machine. -/
  machine : Machine
  /-- Where it stands. -/
  config : Config

/-- What can be done with a machine in use. An observer may break off what it is told of. -/
inductive Operation : Type 1 where
  /-- A transition is added. -/
  | add (r : Record)
  /-- The machine is put back to its start, with a word on its input tape. -/
  | reset (w : Text)
  /-- The machine does one step. -/
  | step
  /-- The machine runs from where it stands. -/
  | run {σ ε : Type} (observe : Observer σ ε) (fuel : Nat) (noted : σ)
  /-- The machine transforms a word. -/
  | transform {σ ε : Type} (observe : Observer σ ε) (fuel : Nat) (noted : σ) (w : Text)
  /-- The machine is asked whether it accepts a word. -/
  | accepts {σ ε : Type} (observe : Observer σ ε) (fuel : Nat) (noted : σ) (w : Text)

/-- The records that are to be added. -/
def Operation.records (ops : List Operation) : List Record :=
  ops.filterMap fun
    | .add r => some r
    | _ => none

namespace Device

variable {σ ε α : Type} {d d' : Device} {m : Machine}

/-! ### Operations -/

/-- A machine that was just built. -/
def fresh (m : Machine) : Device := ⟨m, m.initial []⟩

/-- Adds the transition of a record; nothing is changed if that fails. -/
def add (d : Device) (r : Record) : Device :=
  match d.machine.addRecord? r with
  | .ok (_, m) => { d with machine := m }
  | .error _ => d

/-- Puts the machine back to its start, with a word on its input tape. -/
def reset (d : Device) (w : Text) : Device :=
  { d with config := { d.config with
      input := Tape.ofWord d.machine.blank w
      work := List.replicate (d.machine.numTapes + 1).toNat (Tape.ofCells d.machine.blank [])
      state := d.machine.startIndex
      halted := false } }

/-- Does one step. -/
def step (d : Device) : Machine.Outcome × Device :=
  ((d.machine.step d.config).1, { d with config := (d.machine.step d.config).2 })

/-- Does a number of steps. -/
def steps : Nat → Device → Device
  | 0, d => d
  | n + 1, d => (steps n d).step.2

/-- Runs from where the machine stands. -/
def run (d : Device) (observe : Observer σ ε) (fuel : Nat) (noted : σ) : Machine.Run σ ε :=
  d.machine.run observe fuel noted d.config

/-- Draws an answer from where a run ended and then resets the machine; without an answer it stays
there. -/
def conclude (d : Device) (run : Machine.Run σ ε) (answer : Config → Except Machine.Fault α) :
    Machine.Query σ ε α :=
  let left : Device := { d with config := run.config }
  match run.ending with
  | .halted =>
    match answer left.config with
    | .ok a => ⟨.ok a, run.noted, (left.reset []).config⟩
    | .error e => ⟨.error (.failed e), run.noted, left.config⟩
  | .failed e => ⟨.error (.failed e), run.noted, left.config⟩
  | .stopped e => ⟨.error (.stopped e), run.noted, left.config⟩
  | .outOfFuel => ⟨.error .outOfFuel, run.noted, left.config⟩

/-- Transforms a word. -/
def transform (d : Device) (observe : Observer σ ε) (fuel : Nat) (noted : σ) (w : Text) :
    Machine.Query σ ε Text :=
  let d := d.reset w
  d.conclude (d.run observe fuel noted) fun c =>
    c.output.map fun tape => d.machine.alphabet.trim tape.text

/-- Asks whether a word is accepted. -/
def accepts (d : Device) (observe : Observer σ ε) (fuel : Nat) (noted : σ) (w : Text) :
    Machine.Query σ ε Bool :=
  let d := d.reset w
  if (d.machine.active d.config).isAccepting then ⟨.ok true, noted, (d.reset []).config⟩
  else d.conclude (d.run observe fuel noted) fun c => .ok (d.machine.active c).isAccepting

/-- The device after an operation. -/
def perform (d : Device) : Operation → Device
  | .add r => d.add r
  | .reset w => d.reset w
  | .step => d.step.2
  | .run observe fuel noted => { d with config := (d.run observe fuel noted).config }
  | .transform observe fuel noted w =>
    { d with config := (d.transform observe fuel noted w).config }
  | .accepts observe fuel noted w => { d with config := (d.accepts observe fuel noted w).config }

/-- The device after a history of operations. -/
def after (d : Device) (ops : List Operation) : Device := ops.foldl perform d

/-! ### Queries do not depend on where the machine stands -/

/-- **Nothing is forgotten when a machine is reset.** -/
theorem config_reset (d : Device) (w : Text) : (d.reset w).config = d.machine.initial w := rfl

theorem reset_congr (h : d.machine = d'.machine) (w : Text) : d.reset w = d'.reset w := by
  rw [reset, reset, h]

theorem conclude_eq (d : Device) (run : Machine.Run σ ε)
    (answer : Config → Except Machine.Fault α) :
    d.conclude run answer = d.machine.conclude run answer := rfl

theorem transform_eq (d : Device) (observe : Observer σ ε) (fuel : Nat) (noted : σ) (w : Text) :
    d.transform observe fuel noted w = d.machine.transform observe fuel noted w := by
  rw [transform, Machine.transform, conclude_eq]
  rfl

theorem accepts_eq (d : Device) (observe : Observer σ ε) (fuel : Nat) (noted : σ) (w : Text) :
    d.accepts observe fuel noted w = d.machine.accepts observe fuel noted w := by
  rw [accepts, Machine.accepts, conclude_eq]
  rfl

/-! ### Histories -/

theorem machine_add_congr (h : d.machine = d'.machine) (r : Record) :
    (d.add r).machine = (d'.add r).machine := by
  rw [add, add, h]
  cases d'.machine.addRecord? r with
  | ok added => rfl
  | error e => exact h

theorem machine_foldl_add_congr (h : d.machine = d'.machine) (rs : List Record) :
    (rs.foldl add d).machine = (rs.foldl add d').machine := by
  induction rs generalizing d d' with
  | nil => exact h
  | cons r rs ih => exact ih (machine_add_congr h r)

/-- **Of a history only the added transitions remain.** -/
theorem machine_after (d : Device) (ops : List Operation) :
    (d.after ops).machine = ((Operation.records ops).foldl add d).machine := by
  induction ops generalizing d with
  | nil => rfl
  | cons op ops ih =>
    refine (ih (d.perform op)).trans ?_
    cases op with
    | add r => rfl
    -- every other operation leaves the machine as it is, wherever it makes it stand
    | _ => exact machine_foldl_add_congr (show (d.perform _).machine = d.machine from rfl) _

/-- One device answers as another does: after a reset they do the same steps, with the same outcomes
and configurations, and queries give the same answers, tell observers the same and leave the same
configuration. -/
structure AnswersAs (d d' : Device) : Prop where
  /-- The same steps lead to the same configurations. -/
  steps_eq : ∀ w n, (d.reset w).steps n = (d'.reset w).steps n
  /-- The steps have the same outcomes. -/
  outcome_eq : ∀ w n, ((d.reset w).steps n).step.1 = ((d'.reset w).steps n).step.1
  /-- Words are transformed alike. -/
  transform_eq : ∀ (σ ε : Type) (observe : Observer σ ε) (fuel : Nat) (noted : σ) (w : Text),
    d.transform observe fuel noted w = d'.transform observe fuel noted w
  /-- The same words are accepted. -/
  accepts_eq : ∀ (σ ε : Type) (observe : Observer σ ε) (fuel : Nat) (noted : σ) (w : Text),
    d.accepts observe fuel noted w = d'.accepts observe fuel noted w

theorem answersAs_of_machine_eq (h : d.machine = d'.machine) : d.AnswersAs d' where
  steps_eq w n := by rw [reset_congr h]
  outcome_eq w n := by rw [reset_congr h]
  transform_eq σ ε observe fuel noted w := by rw [transform, transform, reset_congr h]
  accepts_eq σ ε observe fuel noted w := by rw [accepts, accepts, reset_congr h]

/-! ### The start -/

/-- The machine is in its start state and has not stopped, and all its tapes are single blank cells
under their heads. -/
structure AtStart (m : Machine) (c : Config) : Prop where
  /-- The active state is the start state. -/
  state : Machine.index? m.numStates m.start = some c.state
  /-- The machine has not stopped. -/
  halted : c.halted = false
  /-- The input tape is blank. -/
  input : c.input.cells = [m.blank] ∧ c.input.head = 0
  /-- The output tape and the further work tapes are there. -/
  length_work : c.work.length = (m.numTapes + 1).toNat
  /-- The work tapes are blank. -/
  work : ∀ tape ∈ c.work, tape.cells = [m.blank] ∧ tape.head = 0

theorem index?_start_of_build? {numStates numTapes start : Int} {halting accepting : List Int}
    {a : Alphabet} (h : Machine.build? numStates numTapes start halting accepting a = .ok m) :
    Machine.index? m.numStates m.start = some m.startIndex := by
  rw [Machine.build?] at h
  split at h
  · next i hi =>
    obtain rfl := Except.ok.inj h
    rw [Machine.numStates, Machine.emptyStates, List.length_map, List.length_range]
    exact hi
  · cases h

/-- The start state is still the one asked for when transitions are added. -/
theorem index?_start_foldl_add (h : Machine.index? d.machine.numStates d.machine.start =
      some d.machine.startIndex) (rs : List Record) :
    Machine.index? (rs.foldl add d).machine.numStates (rs.foldl add d).machine.start =
      some (rs.foldl add d).machine.startIndex := by
  induction rs generalizing d with
  | nil => exact h
  | cons r rs ih =>
    refine ih ?_
    rw [add]
    cases hadd : d.machine.addRecord? r with
    | error e => exact h
    | ok added =>
      obtain ⟨i, -, hm⟩ := Machine.exists_of_addRecord? hadd
      have hlength : (d.machine.addAt i added.1).numStates = d.machine.numStates :=
        List.length_modify _ _ _
      simp only [hm, hlength]
      exact h

theorem atStart_initial (h : Machine.index? m.numStates m.start = some m.startIndex) :
    AtStart m (m.initial []) where
  state := h
  halted := rfl
  input := ⟨rfl, rfl⟩
  length_work := List.length_replicate
  work := by
    intro tape htape
    obtain rfl := List.eq_of_mem_replicate htape
    exact ⟨rfl, rfl⟩

/-! ### Isolation -/

/-- **Queries are isolated from everything done before them.** A machine that was built, and then
extended and used in any way, answers as one that was built and only extended: the same transitions
fire, in the same configurations, and the same answers are given or the same faults found. A query
that gives an answer leaves the machine as a reset does. -/
theorem isolated {numStates numTapes start : Int} {halting accepting : List Int} {a : Alphabet}
    (hbuild : Machine.build? numStates numTapes start halting accepting a = .ok m)
    {ops : List Operation} (hd : d = (fresh m).after ops) :
    d.AnswersAs ((Operation.records ops).foldl add (fresh m)) ∧
      AtStart d.machine (d.reset []).config ∧
      (∀ (σ ε : Type) (observe : Observer σ ε) (fuel : Nat) (noted : σ) (w r : Text),
        (d.transform observe fuel noted w).answer = .ok r →
          (d.transform observe fuel noted w).config = (d.reset []).config) ∧
      ∀ (σ ε : Type) (observe : Observer σ ε) (fuel : Nat) (noted : σ) (w : Text) (b : Bool),
        (d.accepts observe fuel noted w).answer = .ok b →
          (d.accepts observe fuel noted w).config = (d.reset []).config := by
  have hmachine : d.machine = ((Operation.records ops).foldl add (fresh m)).machine := by
    rw [hd, machine_after]
  refine ⟨answersAs_of_machine_eq hmachine, ?_, fun σ ε observe fuel noted w r h => ?_,
    fun σ ε observe fuel noted w b h => ?_⟩
  · rw [config_reset]
    refine atStart_initial ?_
    rw [hmachine]
    exact index?_start_foldl_add (index?_start_of_build? hbuild) _
  · rw [transform_eq] at h ⊢
    exact Machine.config_transform_of_ok h
  · rw [accepts_eq] at h ⊢
    exact Machine.config_accepts_of_ok h

/-- A machine with two states, of which the second halts, and without transitions. -/
def twoStates : Machine := ⟨0, 0, 0, .standard, Machine.emptyStates 2 [1] []⟩

/-- A history in which a transition leads to no state, another one starts in none, a query fails in
its first step, the next one is broken off after its first step, and the machine stops. -/
def roughHistory : List Operation :=
  [.add ⟨0, ['a'], [['~']], 7, 1, [['b']], [1]⟩,
    .add ⟨0, ['b'], [['~']], 1, 1, [['c']], [1]⟩,
    .add ⟨9, ['b'], [['~']], 0, 0, [['~']], [0]⟩,
    .accepts Observer.silent 10 () ['a'],
    .transform (Observer.stopAfter (some 1)) 10 0 ['b'],
    .step]

/-- The machine after that history. -/
def roughDevice : Device := (fresh twoStates).after roughHistory

/-- It has stopped halfway, but it answers as a fresh machine would. -/
theorem isolated_roughHistory :
    roughDevice.config.halted = true ∧
      roughDevice.AnswersAs ((Operation.records roughHistory).foldl add (fresh twoStates)) ∧
      (roughDevice.transform Observer.silent 10 () ['a']).answer = .error (.failed .noSuchState) ∧
      (roughDevice.transform Observer.silent 10 () ['b']).answer = .ok [.char 'c'] ∧
      (roughDevice.transform Observer.silent 10 () ['b']).config =
        (roughDevice.reset []).config := by
  have hbuild : Machine.build? 2 0 0 [1] [] .standard = .ok twoStates := rfl
  have hdevice : roughDevice = (fresh twoStates).after roughHistory := rfl
  obtain ⟨hanswers, -, htransform, -⟩ := isolated hbuild hdevice
  have hanswer : (roughDevice.transform Observer.silent 10 () ['b']).answer = .ok [.char 'c'] := by
    decide +kernel
  refine ⟨by decide +kernel, hanswers, by decide +kernel, hanswer, ?_⟩
  exact htransform Unit Empty Observer.silent 10 () ['b'] ['c'] hanswer

end Device

end MultiTape
