import MultiTape.Proofs.Machine.Listing
import MultiTape.Proofs.Program.Loaded

/-!
# Listings describe loaded machines

A loaded machine is well-formed and deterministic, so its listing says all there is to know about
its transitions. What else there is to know about it is its size, where it starts and which states
are halting or accepting; and then everything that it does is known.

## Main results

* `Program.load_describe`: two loaded machines have one listing when they have the same transitions,
  and with one listing they take the same steps
-/

namespace MultiTape

namespace Program

variable {a : Alphabet} {m m' : Machine} {text text' : Text}

/-- **A listing is a complete description.** Of two machines of one size, loaded from any texts, it
shows whether they have the same transitions. If they have, and also one start state and states of
the same kinds, then they are in the same configuration after any number of steps from any word. The
listing has one line for each transition, and the lines are sorted by the sources and then by the
texts. -/
theorem load_describe (hload : load a text = .ok m) (hload' : load a text' = .ok m')
    (hstates : m'.numStates = m.numStates) (htapes : m'.numTapes = m.numTapes) :
    (m'.describe = m.describe ↔ ∀ t, t ∈ m'.transitions ↔ t ∈ m.transitions) ∧
    (m'.start = m.start → m'.states.map State.kind = m.states.map State.kind →
      m'.describe = m.describe → ∀ w n, m'.steps n (m'.initial w) = m.steps n (m.initial w)) ∧
    ∃ ts : List Transition, ts.Perm m.transitions ∧
      Text.lines m.describe = ts.map Transition.render ∧
      ts.Pairwise Machine.Precedes := by
  have hm := wellFormed_of_load hload
  have hm' := wellFormed_of_load hload'
  have hdet := deterministic_of_load hload
  have hdet' := deterministic_of_load hload'
  have hwidth : m'.width = m.width := by rw [Machine.width, Machine.width, htapes]
  have halphabet : m'.alphabet = m.alphabet :=
    (alphabet_of_load hload').trans (alphabet_of_load hload).symm
  refine ⟨Machine.describe_eq_iff hm hm' hdet hdet' hstates hwidth,
    fun hstart hkinds hdescribe w n => ?_,
    m.listing, m.listing_perm, hm.lines_describe, hm.pairwise_listing⟩
  have hreorders : m.Reorders m' := Machine.reorders_of_describe_eq hm hm' hdet hdet' hstates
    htapes halphabet hstart hkinds hdescribe
  rw [hreorders.initial_eq, hreorders.steps_eq hdet]

/-- The program that reverses words with its transitions written from the last to the first. -/
def reversalBackwards : Text :=
  Text.unlines <| ["3", "1", "0", "2", "2",
    "1 ~ ~ ~ 2 0 ~ 0 ~ 0",
    "1 ~ ~ b 1 0 b 1 ~ -1",
    "1 ~ ~ a 1 0 a 1 ~ -1",
    "0 ~ ~ ~ 1 0 ~ 0 ~ -1",
    "0 b ~ ~ 0 1 ~ 0 b 1",
    "0 a ~ ~ 0 1 ~ 0 a 1"].map String.toText

/-- The machine of that program. -/
def reversalBackwardsMachine : Machine where
  numTapes := 1
  start := 0
  startIndex := 0
  alphabet := .standard
  states := reversalMachine.states.map fun s => { s with transitions := s.transitions.reverse }

/-- The other order gives another machine, but it is described by the same listing of six lines and
takes the same steps. -/
theorem reversalBackwards_describe :
    load .standard reversal = .ok reversalMachine ∧
      load .standard reversalBackwards = .ok reversalBackwardsMachine ∧
      reversalBackwardsMachine ≠ reversalMachine ∧
      reversalBackwardsMachine.describe = reversalMachine.describe ∧
      (Text.lines reversalMachine.describe).length = 6 ∧
      ∀ w n, reversalBackwardsMachine.steps n (reversalBackwardsMachine.initial w) =
        reversalMachine.steps n (reversalMachine.initial w) := by
  have hload : load .standard reversalBackwards = .ok reversalBackwardsMachine := by
    decide +kernel
  obtain ⟨hiff, hsteps, ts, hperm, hlines, -⟩ := load_describe load_reversal hload rfl rfl
  have hsame : reversalBackwardsMachine.transitions.Perm reversalMachine.transitions := by
    decide +kernel
  have hdescribe := hiff.mpr fun t => hsame.mem_iff
  refine ⟨load_reversal, hload, by decide, hdescribe, ?_, hsteps rfl rfl hdescribe⟩
  rw [hlines, List.length_map, hperm.length_eq]
  rfl

end Program

end MultiTape
