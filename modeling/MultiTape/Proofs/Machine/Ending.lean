import MultiTape.Proofs.Program.Acceptance

/-!
# Where runs end

What a loop of a machine does is said by the configuration it ends in and the number of steps it
takes to get there. Such facts are put together step by step, and what both queries answer is read
off the last of the configurations.

## Main definitions

* `Machine.EndsIn`: from a configuration so many transitions fire, and the machine stops in another

## Main results

* `Machine.EndsIn.fired`: one transition more in front
* `Machine.EndsIn.transform_eq`, `Machine.EndsIn.accepts_eq`: what the queries answer
-/

namespace MultiTape

namespace Machine

variable {m : Machine} {c c' d : Config} {t : Transition} {n fuel : Nat} {w : Text}

/-- From `c` the machine fires `n` transitions. It then stands in `d`, and none fires there. -/
structure EndsIn (m : Machine) (n : Nat) (c d : Config) : Prop where
  /-- So many transitions fire. -/
  stopsAfter : m.StopsAfter n c
  /-- They lead to that configuration. -/
  steps_eq : m.steps n c = d

theorem endsIn_zero (h : m.next? c = none) : m.EndsIn 0 c c := ⟨stopsAfter_zero_iff.mpr h, rfl⟩

theorem EndsIn.fired (hstep : m.step c = (.fired t, c')) (h : m.EndsIn n c' d) :
    m.EndsIn (n + 1) c d :=
  ⟨stopsAfter_succ_iff.mpr ⟨t, c', hstep, h.stopsAfter⟩,
    (steps_succ_of_step hstep n).trans h.steps_eq⟩

/-- **What a word becomes** is what the output tape holds where the run ends. -/
theorem EndsIn.transform_eq (h : m.EndsIn n (m.initial w) d) (hfuel : n < fuel) {tape : Tape}
    {rest : List Tape} (hwork : d.work = tape :: rest) :
    m.transform Observer.silent fuel () w =
      ⟨.ok (m.alphabet.trim tape.text), (), m.initial []⟩ := by
  have hnext : m.next? d = none := h.steps_eq ▸ h.stopsAfter.next?_eq_none
  have hlast : m.steps (n + 1) (m.initial w) = { d with halted := true } := by
    rw [steps_add, h.steps_eq, steps_of_next?_eq_none hnext]
  rw [transform, run, runFrom_of_hears h.stopsAfter (Observer.hears_silent _) hfuel, hlast]
  simp only [conclude, Config.output, hwork]
  rfl

/-- **Whether a word is accepted** is asked of the state in which the run ends. -/
theorem EndsIn.accepts_eq (h : m.EndsIn n (m.initial w) d) (hfuel : n < fuel) :
    m.accepts Observer.silent fuel () w = ⟨.ok (m.active d).isAccepting, (), m.initial []⟩ := by
  rw [accepts_of_stopsAfter h.stopsAfter hfuel, h.steps_eq]

end Machine

end MultiTape
