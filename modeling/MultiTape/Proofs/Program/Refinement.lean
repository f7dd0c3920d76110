import MultiTape.Proofs.Machine.Textbook
import MultiTape.Proofs.Program.Loaded

/-!
# Loaded machines are textbook machines

A loaded machine is well-formed and deterministic, which is all that the refinement asks for. So a
program text may be read as the table of a textbook machine, on tapes without ends, and nothing
about windows and offsets, lists and their order or the flag that says that the machine has stopped
needs to be known to say what the machine does.

## Main results

* `Program.load_refines`: a loaded machine does what the textbook machine of its transitions does
-/

namespace MultiTape

namespace Program

variable {a : Alphabet} {m : Machine} {text : Text}

/-- **A loaded machine refines the textbook machine of its transitions.** After `n` steps from any
word it shows the one configuration in which the textbook machine is after `n` steps; its next step
fires the rule that applies there, and stops exactly when no configuration is next, because the
state is not running or no rule matches. -/
theorem load_refines (hload : load a text = .ok m) (w : Text) (n : Nat) :
    (m.width : Int) = m.numTapes + 1 ∧
      ∃ C : Textbook.Config m.width,
        m.textbook.At w n C ∧ (∀ C', m.textbook.At w n C' → C' = C) ∧
        m.Represents (m.steps n (m.initial w)) C ∧
        ((m.step (m.steps n (m.initial w))).1 = .halted ↔ ¬∃ C', m.textbook.Next C C') ∧
        ((¬∃ C', m.textbook.Next C C') ↔
          C.state ∉ m.textbook.running ∨ ∀ r ∈ m.textbook.rules, ¬r.Matches C) ∧
        ∀ r : Textbook.Rule m.width,
          (m.step (m.steps n (m.initial w))).1 = .fired r.transition ↔
            C.state ∈ m.textbook.running ∧ r ∈ m.textbook.rules ∧ r.Matches C := by
  have hm := wellFormed_of_load hload
  have hdet := deterministic_of_load hload
  obtain ⟨C, hat, htracks⟩ := Machine.exists_tracks_steps hm hdet w n
  refine ⟨?_, C, hat, fun C' hat' => ?_, htracks.represents, ?_, ?_, fun r => ?_⟩
  · have := hm.numTapes_nonneg
    rw [Machine.width]
    omega
  · exact hat'.unique hdet.next_unique hat
  · exact htracks.step_eq_halted_iff hm hdet
  · exact Textbook.Machine.not_exists_next_iff
  · exact htracks.step_eq_fired_iff hm hdet

/-- Six steps bring `ab` to an end: two letters are collected and written, and a blank ends each. -/
theorem reversalMachine_refines :
    load .standard reversal = .ok reversalMachine ∧
      ∃ C : Textbook.Config reversalMachine.width,
        reversalMachine.textbook.At ['a', 'b'] 6 C ∧
        reversalMachine.Represents
          (reversalMachine.steps 6 (reversalMachine.initial ['a', 'b'])) C ∧
        ¬∃ C', reversalMachine.textbook.Next C C' := by
  obtain ⟨-, C, hat, -, hrepresents, hhalted, -, -⟩ := load_refines load_reversal ['a', 'b'] 6
  refine ⟨load_reversal, C, hat, hrepresents, hhalted.mp ?_⟩
  decide +kernel

end Program

end MultiTape
