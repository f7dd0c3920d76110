import MultiTape.Proofs.Machine.Runs

/-!
# Machines that follow each other

Two machines with different tables may still do the same with every word: it is enough that they
start alike and take the same step wherever the first of them gets to. What is known of the places
it gets to is a property of configurations that its steps keep. Runs and queries are nothing but
steps, so they are the same then too.

## Main definitions

* `Machine.Follows`: one machine takes the steps of another
* `Machine.BehavesAs`: one machine does with all words what another does

## Main results

* `Machine.Follows.steps_eq`, `Machine.Follows.runFrom_eq`: the same steps and runs
* `Machine.Follows.transform_eq`, `Machine.Follows.accepts_eq`: the same queries
-/

namespace MultiTape

namespace Machine

variable {m m' : Machine} {P : Config → Prop} {c : Config} {σ ε α : Type}

/-- The second machine follows the first: it starts as that one does, and takes the same step from
every configuration with the property `P`, which all those have that the first one gets to. -/
structure Follows (m m' : Machine) (P : Config → Prop) : Prop where
  /-- It trims what it answers alike. -/
  alphabet_eq : m'.alphabet = m.alphabet
  /-- It starts alike. -/
  initial_eq : ∀ w, m'.initial w = m.initial w
  /-- It accepts in the same states. -/
  isAccepting_eq : ∀ c, (m'.active c).isAccepting = (m.active c).isAccepting
  /-- The property holds at the start. -/
  initial : ∀ w, P (m.initial w)
  /-- Steps keep it. -/
  step : ∀ c, P c → P (m.step c).2
  /-- Where it holds, the same step is taken. -/
  step_eq : ∀ c, P c → m'.step c = m.step c

namespace Follows

variable (h : m.Follows m' P)
include h

theorem steps (hc : P c) (n : Nat) : P (m.steps n c) := by
  induction n with
  | zero => exact hc
  | succ n ih => exact h.step _ ih

/-- **The same steps are taken.** -/
theorem steps_eq (hc : P c) (n : Nat) : m'.steps n c = m.steps n c := by
  induction n with
  | zero => rfl
  | succ n ih => rw [steps_succ, steps_succ, ih, h.step_eq _ (h.steps hc n)]

theorem runFrom_eq (hc : P c) (observe : Observer σ ε) (fuel count : Nat) (noted : σ) :
    m'.runFrom observe fuel count noted c = m.runFrom observe fuel count noted c := by
  induction fuel generalizing count noted c with
  | zero => rfl
  | succ fuel ih =>
    have hnext := h.step c hc
    rw [runFrom, runFrom, h.step_eq c hc]
    rcases hstep : m.step c with ⟨t | _ | f, c'⟩
    · rw [hstep] at hnext
      simp only [ih hnext]
    all_goals rfl

/-- The machine is put back to the same start. -/
theorem conclude_eq (run : Run σ ε) {answer answer' : Config → Except Fault α}
    (hanswer : ∀ c, answer' c = answer c) : m'.conclude run answer' = m.conclude run answer := by
  rw [conclude, conclude, hanswer, h.initial_eq]

theorem transform_eq (observe : Observer σ ε) (fuel : Nat) (noted : σ) (w : Text) :
    m'.transform observe fuel noted w = m.transform observe fuel noted w := by
  rw [transform, run, h.initial_eq, h.runFrom_eq (h.initial w)]
  exact h.conclude_eq _ fun c => by rw [h.alphabet_eq]

theorem accepts_eq (observe : Observer σ ε) (fuel : Nat) (noted : σ) (w : Text) :
    m'.accepts observe fuel noted w = m.accepts observe fuel noted w := by
  rw [accepts, accepts, h.isAccepting_eq, h.initial_eq, h.initial_eq, run, run,
    h.runFrom_eq (h.initial w), h.conclude_eq _ fun c => by rw [h.isAccepting_eq]]

end Follows

/-- The second machine does with every word what the first one does: the same transitions fire, the
same configurations are reached or the same faults found, and queries have the same answers and
tell observers the same. -/
structure BehavesAs (m m' : Machine) : Prop where
  /-- The same configurations are reached. -/
  steps_eq : ∀ w n, m'.steps n (m'.initial w) = m.steps n (m.initial w)
  /-- The same transitions fire on the way, and the same faults are found. -/
  outcome_eq : ∀ w n, (m'.step (m'.steps n (m'.initial w))).1 = (m.step (m.steps n (m.initial w))).1
  /-- Words are transformed alike. -/
  transform_eq : ∀ (σ ε : Type) (observe : Observer σ ε) (fuel : Nat) (noted : σ) (w : Text),
    m'.transform observe fuel noted w = m.transform observe fuel noted w
  /-- The same words are accepted. -/
  accepts_eq : ∀ (σ ε : Type) (observe : Observer σ ε) (fuel : Nat) (noted : σ) (w : Text),
    m'.accepts observe fuel noted w = m.accepts observe fuel noted w

theorem Follows.behavesAs (h : m.Follows m' P) : m.BehavesAs m' where
  steps_eq w n := by rw [h.initial_eq, h.steps_eq (h.initial w)]
  outcome_eq w n := by
    rw [h.initial_eq, h.steps_eq (h.initial w), h.step_eq _ (h.steps (h.initial w) n)]
  transform_eq _ _ := h.transform_eq
  accepts_eq _ _ := h.accepts_eq

end Machine

end MultiTape
