import MultiTape.Machine.Basic
import MultiTape.Proofs.Machine.WellFormed
import MultiTape.Proofs.Tape.Cells

/-!
# Steps of a machine

One step does one of three things, and `step_cases` says which. From that follows what every number
of steps keeps: a well-formed machine that starts on a word always stands in one of its states, with
all its work tapes, and with nothing on them but symbols of its alphabet. So no step of it fails.

## Main definitions

* `Machine.steps`: the configuration after a number of steps
* `Config.fire`: the effect of a transition on a configuration
* `Machine.Admits`: what holds of all configurations that a well-formed machine reaches

## Main results

* `Machine.step_cases`: all that a step can do
* `Machine.uses_step`, `Machine.uses_steps`: no symbols get onto the tapes but those written
* `Machine.Admits.step`, `Machine.admits_steps`: the invariant is kept
* `Machine.Admits.step_ne_failed`: no step fails
-/

namespace MultiTape

/-- The configuration after a transition whose target is a state: the tapes are written and moved,
and the target is active. -/
def Config.fire (c : Config) (t : Transition) : Config where
  state := t.target.toNat
  halted := c.halted
  input := (t.apply c.input c.work).1
  work := (t.apply c.input c.work).2

namespace Machine

variable {m : Machine} {c : Config} {t : Transition} {w : Text}

/-- The configuration after `n` steps, those after the machine has stopped included. -/
def steps (m : Machine) : Nat → Config → Config
  | 0, c => c
  | n + 1, c => (m.step (m.steps n c)).2

@[simp] theorem steps_zero (m : Machine) (c : Config) : m.steps 0 c = c := rfl

theorem steps_succ (m : Machine) (n : Nat) (c : Config) :
    m.steps (n + 1) c = (m.step (m.steps n c)).2 := rfl

theorem steps_succ' (m : Machine) (n : Nat) (c : Config) :
    m.steps (n + 1) c = m.steps n (m.step c).2 := by
  induction n with
  | zero => rfl
  | succ n ih => rw [steps_succ, ih, steps_succ]

theorem steps_succ_of_step {m : Machine} {c c' : Config} {outcome : Outcome}
    (h : m.step c = (outcome, c')) (n : Nat) : m.steps (n + 1) c = m.steps n c' := by
  rw [steps_succ', h]

theorem steps_add (m : Machine) (k n : Nat) (c : Config) :
    m.steps (k + n) c = m.steps n (m.steps k c) := by
  induction n with
  | zero => rfl
  | succ n ih => rw [← Nat.add_assoc, steps_succ, steps_succ, ih]

/-! ### One step -/

theorem step_of_next?_eq_none (h : m.next? c = none) :
    m.step c = (.halted, { c with halted := true }) := by
  rw [step, h]

theorem step_of_next?_eq_some {i : Nat} (h : m.next? c = some t)
    (hi : index? m.numStates t.target = some i) :
    m.step c = (.fired t, { c with
      state := i, input := (t.apply c.input c.work).1, work := (t.apply c.input c.work).2 }) := by
  simp only [step, h, hi]

theorem step_of_index?_eq_none (h : m.next? c = some t)
    (hi : index? m.numStates t.target = none) :
    m.step c = (.failed (indexFault t.target), { c with
      input := (t.apply c.input c.work).1, work := (t.apply c.input c.work).2 }) := by
  simp only [step, h, hi]

/-- **All that a step can do**: stop, fire a transition, or fail after the tapes have moved. -/
theorem step_cases (m : Machine) (c : Config) :
    (m.next? c = none ∧ m.step c = (.halted, { c with halted := true })) ∨
    (∃ t i, m.next? c = some t ∧ index? m.numStates t.target = some i ∧
      m.step c = (.fired t, { c with
        state := i, input := (t.apply c.input c.work).1, work := (t.apply c.input c.work).2 })) ∨
    (∃ t, m.next? c = some t ∧ index? m.numStates t.target = none ∧
      m.step c = (.failed (indexFault t.target), { c with
        input := (t.apply c.input c.work).1, work := (t.apply c.input c.work).2 })) := by
  cases h : m.next? c with
  | none => exact .inl ⟨rfl, step_of_next?_eq_none h⟩
  | some t =>
    cases hi : index? m.numStates t.target with
    | none => exact .inr (.inr ⟨t, rfl, hi, step_of_index?_eq_none h hi⟩)
    | some i => exact .inr (.inl ⟨t, i, rfl, hi, step_of_next?_eq_some h hi⟩)

/-- The transition that fires next is one of the active state's, and it waits for what is there. -/
theorem next?_eq_some (h : m.next? c = some t) :
    c.halted = false ∧ (m.active c).isRunning = true ∧ t ∈ (m.active c).transitions ∧
      t.guard = ⟨(m.active c).id, c.input.read, c.symbols⟩ := by
  rw [next?] at h
  split at h
  · next hgo =>
    rw [Bool.and_eq_true, Bool.not_eq_true'] at hgo
    have hfires := List.find?_some h
    exact ⟨hgo.1, hgo.2, List.mem_of_find?_eq_some h, Rule.fires_iff.mp hfires⟩
  · simp at h

/-- A step that fires a transition has found it, and stops no machine. -/
theorem next?_of_step_eq_fired {c' : Config} (h : m.step c = (.fired t, c')) :
    m.next? c = some t ∧ c'.halted = c.halted := by
  rcases step_cases m c with ⟨-, hstep⟩ | ⟨t', i, hnext, -, hstep⟩ | ⟨t', -, -, hstep⟩
  · rw [hstep] at h
    cases h
  · rw [hstep] at h
    obtain ⟨hfired, rfl⟩ := Prod.mk.inj h
    obtain rfl := Outcome.fired.inj hfired
    exact ⟨hnext, rfl⟩
  · rw [hstep] at h
    cases h

/-- What a step does to the tapes: nothing, or what the transition does that was found. It does not
matter here whether the step fails then. -/
theorem tapes_step (m : Machine) (c : Config) :
    ((m.step c).2.input = c.input ∧ (m.step c).2.work = c.work) ∨
    ∃ t, m.next? c = some t ∧ (m.step c).2.input = (t.apply c.input c.work).1 ∧
      (m.step c).2.work = (t.apply c.input c.work).2 := by
  rcases step_cases m c with ⟨-, h⟩ | ⟨t, i, hnext, -, h⟩ | ⟨t, hnext, -, h⟩ <;> rw [h]
  · exact .inl ⟨rfl, rfl⟩
  · exact .inr ⟨t, hnext, rfl, rfl⟩
  · exact .inr ⟨t, hnext, rfl, rfl⟩

theorem input_step (m : Machine) (c : Config) :
    (m.step c).2.input = c.input ∨ ∃ d, (m.step c).2.input = c.input.shift d := by
  rcases tapes_step m c with ⟨hinput, -⟩ | ⟨t, -, hinput, -⟩
  · exact .inl hinput
  · exact .inr ⟨t.inputMove.offset, hinput⟩

/-- The input tape is not written: all its symbols were there before or are blanks. -/
theorem cells_input_steps (m : Machine) (n : Nat) (c : Config) :
    (m.steps n c).input.blank = c.input.blank ∧
      ∀ s ∈ (m.steps n c).input.cells, s = c.input.blank ∨ s ∈ c.input.cells := by
  induction n with
  | zero => exact ⟨rfl, fun s hs => .inr hs⟩
  | succ n ih =>
    rw [steps_succ]
    rcases input_step m (m.steps n c) with h | ⟨d, h⟩
    · rw [h]
      exact ih
    · rw [h, Tape.blank_shift, ih.1]
      refine ⟨rfl, fun s hs => ?_⟩
      rcases Tape.mem_cells_shift hs with rfl | hs
      · exact .inl ih.1
      · exact ih.2 s hs

/-- A transition that fires is one of the machine's. -/
theorem mem_transitions_of_next? (h : m.next? c = some t) : t ∈ m.transitions := by
  have ht := (next?_eq_some h).2.2.1
  rcases Nat.lt_or_ge c.state m.numStates with hlt | hge
  · exact List.mem_flatMap.mpr ⟨m.active c, stateAt_mem hlt, ht⟩
  · rw [active, transitions_stateAt_of_le hge] at ht
    exact absurd ht List.not_mem_nil

/-! ### The symbols on the tapes -/

section Uses

variable {P : Symbol → Prop}

/-- **What a step preserves**: the symbols on the tapes have a property that those have which
transitions write, whether the step fails or not. -/
theorem uses_step (hm : ∀ t ∈ m.transitions, ∀ s ∈ t.writes, P s)
    (hc : ∀ tape ∈ c.input :: c.work, tape.Uses P) :
    ∀ tape ∈ (m.step c).2.input :: (m.step c).2.work, tape.Uses P := by
  rcases tapes_step m c with ⟨hinput, hwork⟩ | ⟨t, hnext, hinput, hwork⟩ <;> rw [hinput, hwork]
  · exact hc
  · rw [List.forall_mem_cons] at hc
    refine List.forall_mem_cons.mpr ⟨hc.1.shift _, Rule.uses_driveTapes (fun e he => ?_) hc.2⟩
    exact hm t (mem_transitions_of_next? hnext) e.1 (List.of_mem_zip he).1

/-- **What a run preserves.** -/
theorem uses_steps (hm : ∀ t ∈ m.transitions, ∀ s ∈ t.writes, P s)
    (hc : ∀ tape ∈ c.input :: c.work, tape.Uses P) (n : Nat) :
    ∀ tape ∈ (m.steps n c).input :: (m.steps n c).work, tape.Uses P := by
  induction n with
  | zero => exact hc
  | succ n ih => exact uses_step hm ih

theorem uses_initial (hblank : P m.blank) (hw : ∀ x ∈ w, P [x]) :
    ∀ tape ∈ (m.initial w).input :: (m.initial w).work, tape.Uses P := by
  refine List.forall_mem_cons.mpr ⟨⟨?_, fun s hs => ?_⟩, fun tape htape => ?_⟩
  · cases w <;> exact hblank
  · rw [initial, Tape.ofWord, Tape.cells_ofCells] at hs
    split at hs
    · exact List.mem_singleton.mp hs ▸ hblank
    · obtain ⟨x, hx, rfl⟩ := List.mem_map.mp hs
      exact hw x hx
  · obtain rfl := List.eq_of_mem_replicate htape
    exact ⟨hblank, fun s hs => List.mem_singleton.mp hs ▸ hblank⟩

end Uses

/-- The work tapes stay as many as they are. -/
theorem length_work_steps (m : Machine) (n : Nat) (c : Config) :
    (m.steps n c).work.length = c.work.length := by
  induction n with
  | zero => rfl
  | succ n ih =>
    rw [steps_succ, ← ih]
    rcases tapes_step m (m.steps n c) with ⟨-, hwork⟩ | ⟨t, -, -, hwork⟩ <;> rw [hwork]
    exact Rule.length_driveTapes _ _

/-! ### The invariant of well-formed machines -/

/-- What holds of a configuration that a well-formed machine reaches. -/
structure Admits (m : Machine) (c : Config) : Prop where
  /-- The active state is one of the machine's. -/
  state_lt : c.state < m.numStates
  /-- All work tapes are there. -/
  length_work : c.work.length = m.width
  /-- The input tape grows by the blank of the machine. -/
  blank_input : c.input.blank = m.blank
  /-- So do the work tapes. -/
  blank_work : ∀ tape ∈ c.work, tape.blank = m.blank
  /-- The work tapes hold symbols of the alphabet. -/
  symbol : ∀ tape ∈ c.work, ∀ s ∈ tape.cells, m.alphabet.isSymbol s = true

theorem isSymbol_blank (a : Alphabet) : a.isSymbol [a.blank] = true := by
  simp [Alphabet.isSymbol]

theorem admits_initial (hm : m.WellFormed) (w : Text) : m.Admits (m.initial w) := by
  have hwork : ∀ tape ∈ (m.initial w).work, tape = Tape.ofCells m.blank [] := fun tape h =>
    List.eq_of_mem_replicate h
  refine ⟨?_, ?_, ?_, fun tape h => ?_, fun tape h s hs => ?_⟩
  · have := hm.start_nonneg
    have := hm.start_lt
    show m.startIndex < m.numStates
    rw [hm.startIndex_eq]
    omega
  · exact List.length_replicate
  · cases w <;> rfl
  · rw [hwork tape h]
    rfl
  · rw [hwork tape h, Tape.cells_ofCells, if_pos rfl, List.mem_singleton] at hs
    rw [hs]
    exact isSymbol_blank m.alphabet

theorem WellFormed.fits_of_next? (hm : m.WellFormed) (hc : c.state < m.numStates)
    (h : m.next? c = some t) : m.Fits t :=
  hm.fits _ (stateAt_mem hc) t (next?_eq_some h).2.2.1

/-- A transition that fits leads where it says. -/
theorem Fits.step_eq (ht : m.Fits t) (h : m.next? c = some t) :
    m.step c = (.fired t, c.fire t) := by
  have hi : index? m.numStates t.target = some t.target.toNat := by
    rw [index?, if_pos ht.target_nonneg, if_pos ht.target_lt]
  exact step_of_next?_eq_some h hi

theorem Fits.admits_fire (ht : m.Fits t) (hc : m.Admits c) : m.Admits (c.fire t) := by
  refine ⟨?_, ?_, ?_, fun tape h => ?_, fun tape h s hs => ?_⟩
  · have := ht.target_nonneg
    have := ht.target_lt
    show t.target.toNat < m.numStates
    omega
  · exact (Rule.length_driveTapes _ _).trans hc.length_work
  · exact (Tape.blank_shift _ _).trans hc.blank_input
  · rcases Rule.mem_driveTapes h with h | ⟨tape', htape, e, -, rfl⟩
    · exact hc.blank_work tape h
    · rw [Tape.blank_shift, Tape.blank_write]
      exact hc.blank_work tape' htape
  · have huses : ∀ tape ∈ c.work, tape.Uses fun s => m.alphabet.isSymbol s = true := by
      refine fun tape h => ⟨?_, hc.symbol tape h⟩
      rw [hc.blank_work tape h]
      exact isSymbol_blank m.alphabet
    refine (Rule.uses_driveTapes (fun e he => ?_) huses tape h).2 s hs
    obtain ⟨c, hs, -, hsymbol⟩ := ht.symbol e.1 (by simp [(List.of_mem_zip he).1])
    rw [hs]
    exact hsymbol

/-- **A step keeps the invariant.** -/
theorem Admits.step (hm : m.WellFormed) (hc : m.Admits c) : m.Admits (m.step c).2 := by
  cases h : m.next? c with
  | none =>
    rw [step_of_next?_eq_none h]
    exact ⟨hc.state_lt, hc.length_work, hc.blank_input, hc.blank_work, hc.symbol⟩
  | some t =>
    have ht := hm.fits_of_next? hc.state_lt h
    rw [ht.step_eq h]
    exact ht.admits_fire hc

theorem Admits.step_ne_failed (hm : m.WellFormed) (hc : m.Admits c) (e : Fault) :
    (m.step c).1 ≠ .failed e := by
  cases h : m.next? c with
  | none =>
    rw [step_of_next?_eq_none h]
    exact Outcome.noConfusion
  | some t =>
    rw [(hm.fits_of_next? hc.state_lt h).step_eq h]
    exact Outcome.noConfusion

theorem Admits.steps (hm : m.WellFormed) (hc : m.Admits c) (n : Nat) : m.Admits (m.steps n c) := by
  induction n with
  | zero => exact hc
  | succ n ih => exact ih.step hm

theorem admits_steps (hm : m.WellFormed) (w : Text) (n : Nat) :
    m.Admits (m.steps n (m.initial w)) :=
  (admits_initial hm w).steps hm n

theorem WellFormed.id_active (hm : m.WellFormed) (hc : c.state < m.numStates) :
    (m.active c).id = c.state :=
  hm.id_eq c.state _ (stateAt_of_lt hc)

end Machine

end MultiTape
