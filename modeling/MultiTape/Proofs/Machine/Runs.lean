import MultiTape.Machine.Run
import MultiTape.Proofs.Machine.Steps

/-!
# Runs and queries

A run is nothing but steps, so it ends where steps lead, and a run of a well-formed machine does not
fail. A query adds a conclusion to the run: it has an answer exactly when the machine has stopped
and something can be concluded from where it stands.

## Main definitions

* `Machine.Run.taken`: the number of steps that a run took

## Main results

* `Machine.exists_steps_of_runFrom`: where a run ends, steps lead to
* `Machine.Admits.run`, `Machine.Admits.run_ne_failed`: runs of well-formed machines
* `Machine.conclude_answer_eq_ok_iff`, `Machine.config_conclude_of_ok`: when a query has an answer,
  and what it leaves then
* `Machine.WellFormed.transform_ne_failed`, `Machine.WellFormed.accepts_ne_failed`: queries of
  well-formed machines do not fail
-/

namespace MultiTape

namespace Machine

variable {m : Machine} {c : Config} {σ ε α : Type} {e : Fault}

/-! ### Runs are made of steps -/

/-- The last step of a run if it fired nothing: it found that the machine stops, or it failed. -/
def Ending.idle : Ending ε → Nat
  | .halted => 1
  | .failed _ => 1
  | .stopped _ => 0
  | .outOfFuel => 0

/-- The number of steps that a run took, whether they fired a transition or not. -/
def Run.taken (run : Run σ ε) : Nat := run.steps + run.ending.idle

/-- **A run is made of steps**: it ends where the steps that it took lead, and if it fails, one of
the steps does. -/
theorem exists_steps_of_runFrom (m : Machine) (observe : Observer σ ε) (fuel count : Nat)
    (noted : σ) (c : Config) :
    (∃ n, (m.runFrom observe fuel count noted c).config = m.steps n c ∧
        (m.runFrom observe fuel count noted c).taken = count + n) ∧
      ∀ e, (m.runFrom observe fuel count noted c).ending = .failed e →
        ∃ n, (m.step (m.steps n c)).1 = .failed e := by
  induction fuel generalizing count noted c with
  | zero => exact ⟨⟨0, rfl, rfl⟩, fun e h => by simp [runFrom] at h⟩
  | succ fuel ih =>
    rcases hstep : m.step c with ⟨outcome, c'⟩
    have hc' : m.steps 1 c = c' := by rw [steps_succ, steps_zero, hstep]
    cases outcome with
    | halted =>
      simp only [runFrom, hstep]
      exact ⟨⟨1, hc'.symm, rfl⟩, fun e h => by simp at h⟩
    | failed e =>
      simp only [runFrom, hstep]
      refine ⟨⟨1, hc'.symm, rfl⟩, fun e' h => ⟨0, ?_⟩⟩
      rw [steps_zero, hstep]
      simpa using h
    | fired t =>
      rcases hobserve : observe noted t c' with ⟨noted', _ | e⟩
      · simp only [runFrom, hstep, hobserve]
        obtain ⟨⟨n, hn, htaken⟩, hfailed⟩ := ih (count + 1) noted' c'
        refine ⟨⟨n + 1, by rw [hn, steps_succ_of_step hstep], by omega⟩, fun e h => ?_⟩
        obtain ⟨k, hk⟩ := hfailed e h
        exact ⟨k + 1, by rw [steps_succ_of_step hstep]; exact hk⟩
      · simp only [runFrom, hstep, hobserve]
        exact ⟨⟨1, hc'.symm, rfl⟩, fun e h => by simp at h⟩

/-- A run ends where as many steps lead as it took. -/
theorem config_run (m : Machine) (observe : Observer σ ε) (fuel : Nat) (noted : σ) (c : Config) :
    (m.run observe fuel noted c).config = m.steps (m.run observe fuel noted c).taken c := by
  obtain ⟨⟨n, hconfig, htaken⟩, -⟩ := exists_steps_of_runFrom m observe fuel 0 noted c
  rw [run, hconfig, htaken, Nat.zero_add]

theorem Admits.run (hm : m.WellFormed) (hc : m.Admits c) (observe : Observer σ ε) (fuel : Nat)
    (noted : σ) : m.Admits (m.run observe fuel noted c).config := by
  rw [config_run]
  exact hc.steps hm _

theorem Admits.run_ne_failed (hm : m.WellFormed) (hc : m.Admits c) (observe : Observer σ ε)
    (fuel : Nat) (noted : σ) (e : Fault) : (m.run observe fuel noted c).ending ≠ .failed e := by
  intro h
  obtain ⟨n, hn⟩ := (exists_steps_of_runFrom m observe fuel 0 noted c).2 e h
  exact (hc.steps hm n).step_ne_failed hm e hn

/-! ### Queries -/

/-- A query has an answer when the machine has stopped and the answer can be concluded. -/
theorem conclude_answer_eq_ok_iff {run : Run σ ε} {answer : Config → Except Fault α} {x : α} :
    (m.conclude run answer).answer = .ok x ↔
      run.ending = .halted ∧ answer run.config = .ok x := by
  rw [conclude]
  cases run.ending <;> simp
  cases answer run.config <;> simp

/-- With an answer the machine is put back to its start. -/
theorem config_conclude_of_ok {run : Run σ ε} {answer : Config → Except Fault α} {x : α}
    (h : (m.conclude run answer).answer = .ok x) :
    (m.conclude run answer).config = m.initial [] := by
  obtain ⟨hending, hanswer⟩ := conclude_answer_eq_ok_iff.mp h
  rw [conclude, hending, hanswer]

theorem config_transform_of_ok {observe : Observer σ ε} {fuel : Nat} {noted : σ} {w r : Text}
    (h : (m.transform observe fuel noted w).answer = .ok r) :
    (m.transform observe fuel noted w).config = m.initial [] :=
  config_conclude_of_ok h

theorem config_accepts_of_ok {observe : Observer σ ε} {fuel : Nat} {noted : σ} {w : Text} {b : Bool}
    (h : (m.accepts observe fuel noted w).answer = .ok b) :
    (m.accepts observe fuel noted w).config = m.initial [] := by
  rw [accepts] at h ⊢
  split at h
  · rw [if_pos ‹_›]
  · rw [if_neg ‹_›]
    exact config_conclude_of_ok h

/-- A query fails when the run does or when nothing can be concluded. -/
theorem conclude_answer_eq_failed_iff {run : Run σ ε} {answer : Config → Except Fault α} :
    (m.conclude run answer).answer = .error (.failed e) ↔
      run.ending = .failed e ∨ run.ending = .halted ∧ answer run.config = .error e := by
  rw [conclude]
  cases run.ending <;> simp
  cases answer run.config <;> simp

/-- There is an output tape, the first of the work tapes. -/
theorem Admits.exists_output (hm : m.WellFormed) (hc : m.Admits c) :
    ∃ tape ∈ c.work, c.output = .ok tape := by
  have hpos : 0 < c.work.length := by
    have := hm.numTapes_nonneg
    rw [hc.length_work, width]
    omega
  cases hwork : c.work with
  | nil => simp [hwork] at hpos
  | cons tape work => exact ⟨tape, by simp, by simp [Config.output, hwork]⟩

theorem WellFormed.transform_ne_failed (hm : m.WellFormed) (observe : Observer σ ε) (fuel : Nat)
    (noted : σ) (w : Text) (e : Fault) :
    (m.transform observe fuel noted w).answer ≠ .error (.failed e) := by
  have hc := admits_initial hm w
  rw [transform, Ne, conclude_answer_eq_failed_iff]
  rintro (h | ⟨-, h⟩)
  · exact hc.run_ne_failed hm observe fuel noted e h
  · obtain ⟨tape, -, houtput⟩ := (hc.run hm observe fuel noted).exists_output hm
    rw [houtput] at h
    simp [Except.map] at h

theorem WellFormed.accepts_ne_failed (hm : m.WellFormed) (observe : Observer σ ε) (fuel : Nat)
    (noted : σ) (w : Text) (e : Fault) :
    (m.accepts observe fuel noted w).answer ≠ .error (.failed e) := by
  rw [accepts]
  split
  · simp
  · rw [Ne, conclude_answer_eq_failed_iff]
    rintro (h | ⟨-, h⟩)
    · exact (admits_initial hm w).run_ne_failed hm observe fuel noted e h
    · simp at h

/-- The answer of `transform` is what the output tape holds between blanks. -/
theorem transform_answer_eq_ok_iff {observe : Observer σ ε} {fuel : Nat} {noted : σ} {w r : Text} :
    (m.transform observe fuel noted w).answer = .ok r ↔
      (m.run observe fuel noted (m.initial w)).ending = .halted ∧
        ∃ tape, (m.run observe fuel noted (m.initial w)).config.output = .ok tape ∧
          m.alphabet.trim tape.text = r := by
  rw [transform, conclude_answer_eq_ok_iff]
  refine and_congr_right fun _ => ?_
  cases (m.run observe fuel noted (m.initial w)).config.output <;> simp [Except.map]

end Machine

end MultiTape
