import MultiTape.Proofs.Lists
import MultiTape.Proofs.Machine.Following
import MultiTape.Proofs.Text.Order

/-!
# The order of the transitions

Two machines that differ only in the order in which their states hold the transitions are told apart
by the lists, but by nothing that a machine does, provided they are deterministic: whichever
transition is found first is the only one that fires. Listings sort the transitions, so they are the
same too.

## Main definitions

* `Machine.Reorders`: the same machine with the transitions of each state in another order

## Main results

* `Machine.Reorders.step_eq`, `Machine.Reorders.steps_eq`: the same steps
* `Machine.Reorders.transform_eq`, `Machine.Reorders.accepts_eq`: the same queries
* `Machine.Reorders.describe_eq`: the same listing
-/

namespace MultiTape

/-- States that have the same transitions are listed alike. -/
theorem State.describe_eq_of_perm {s s' : State} (h : s.transitions.Perm s'.transitions) :
    s'.describe = s.describe :=
  Text.sort_eq_sort_iff.mpr (h.symm.map Transition.render)

/-- The same state with its transitions in another order. -/
structure State.Reorders (s s' : State) : Prop where
  /-- It has the same number. -/
  id_eq : s'.id = s.id
  /-- It is of the same kind. -/
  kind_eq : s'.kind = s.kind
  /-- It has the same transitions. -/
  perm : s.transitions.Perm s'.transitions

namespace State.Reorders

variable {s s' : State} (h : s.Reorders s')
include h

theorem find?_eq (hs : (s.transitions.map Rule.guard).Nodup) (input : Symbol)
    (reads : List Symbol) : s'.find? input reads = s.find? input reads := by
  rw [find?, h.id_eq]
  exact find?_fires_of_perm hs h.perm

end State.Reorders

namespace Machine

/-- The same machine with the transitions of each state in another order. -/
structure Reorders (m m' : Machine) : Prop where
  /-- It has as many tapes. -/
  numTapes_eq : m'.numTapes = m.numTapes
  /-- It has the same start state. -/
  start_eq : m'.start = m.start
  /-- It starts in the same state. -/
  startIndex_eq : m'.startIndex = m.startIndex
  /-- It has the same alphabet. -/
  alphabet_eq : m'.alphabet = m.alphabet
  /-- Each state has its transitions in another order. -/
  states : List.Forall₂ State.Reorders m.states m'.states

variable {m m' : Machine} {σ ε : Type}

/-- **The listing is the same** for machines whose states have the same transitions, since it sorts
them. -/
theorem describe_eq_of_forall₂
    (h : List.Forall₂ (fun s s' => s.transitions.Perm s'.transitions) m.states m'.states) :
    m'.describe = m.describe := by
  have hmap : m'.states.map State.describe = m.states.map State.describe :=
    map_eq_map_iff_forall₂.mpr (h.imp fun _ _ => State.describe_eq_of_perm)
  rw [describe, describe, describeLines, describeLines, List.flatMap_def, List.flatMap_def, hmap]

namespace Reorders

section Tables

variable (h : m.Reorders m')
include h

theorem numStates_eq : m'.numStates = m.numStates := h.states.length_eq.symm

theorem active (c : Config) : (m.active c).Reorders (m'.active c) :=
  getD_of_forall₂ h.states ⟨rfl, rfl, .refl _⟩ c.state

theorem isAccepting_active (c : Config) : (m'.active c).isAccepting = (m.active c).isAccepting := by
  rw [State.isAccepting, (h.active c).kind_eq]
  rfl

theorem initial_eq (w : Text) : m'.initial w = m.initial w := by
  rw [initial, initial, blank, blank, h.alphabet_eq, h.numTapes_eq, h.startIndex_eq]

theorem map_kind_eq : m'.states.map State.kind = m.states.map State.kind :=
  map_eq_map_iff_forall₂.mpr (h.states.imp fun _ _ hs => hs.kind_eq)

theorem describe_eq : m'.describe = m.describe :=
  describe_eq_of_forall₂ (h.states.imp fun _ _ hs => hs.perm)

end Tables

section Steps

variable (h : m.Reorders m') (hm : m.Deterministic)
include h hm

theorem next?_eq (c : Config) : m'.next? c = m.next? c := by
  have hfind := (h.active c).find?_eq (hm.nodup_stateAt c.state) c.input.read c.symbols
  have hrunning : (m'.active c).isRunning = (m.active c).isRunning := by
    rw [State.isRunning, (h.active c).kind_eq]
    rfl
  rw [next?, next?, hrunning, hfind]

/-- **The order of the transitions makes no difference to a step.** -/
theorem step_eq (c : Config) : m'.step c = m.step c := by
  rw [step, h.next?_eq hm, h.numStates_eq]
  rfl

/-- Nothing needs to be known of where the machine gets to. -/
theorem follows : m.Follows m' fun _ => True where
  alphabet_eq := h.alphabet_eq
  initial_eq := h.initial_eq
  isAccepting_eq := h.isAccepting_active
  initial _ := trivial
  step _ _ := trivial
  step_eq c _ := h.step_eq hm c

theorem steps_eq (n : Nat) (c : Config) : m'.steps n c = m.steps n c :=
  (h.follows hm).steps_eq trivial n

theorem transform_eq (observe : Observer σ ε) (fuel : Nat) (noted : σ) (w : Text) :
    m'.transform observe fuel noted w = m.transform observe fuel noted w :=
  (h.follows hm).transform_eq observe fuel noted w

theorem accepts_eq (observe : Observer σ ε) (fuel : Nat) (noted : σ) (w : Text) :
    m'.accepts observe fuel noted w = m.accepts observe fuel noted w :=
  (h.follows hm).accepts_eq observe fuel noted w

end Steps

end Reorders

end Machine

end MultiTape
