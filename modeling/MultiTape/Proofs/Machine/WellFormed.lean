import MultiTape.Machine.Basic
import Mathlib.Data.List.Nodup
import Mathlib.Data.List.Perm.Basic

/-!
# Well-formed and deterministic machines

A machine may be built from anything, and its steps are defined for all machines. What keeps them
from failing is that every transition fits: it starts in the state that holds it, leads to a state,
and reads, writes and moves every work tape. What makes the order of the transitions irrelevant is
that no two of them have one guard.

## Main definitions

* `Machine.transitions`, `Machine.width`: all transitions, and the number of work tapes
* `Machine.Fits`: a transition fits a machine
* `Machine.WellFormed`: the states are numbered in order and all transitions fit
* `Machine.Deterministic`: no two transitions have one guard

## Main results

* `find?_fires_eq_some_iff`: with distinct guards the first transition that fires is the only one
* `find?_fires_of_perm`: so it does not matter in which order they are looked through
-/

namespace MultiTape

/-! ### Looking for a transition -/

section Find

variable {ts ts' : List Transition} {t : Transition} {id : Int} {input : Symbol}
  {reads : List Symbol}

theorem Rule.fires_iff {μ : Type} {r : Rule μ} :
    r.fires id input reads = true ↔ r.guard = ⟨id, input, reads⟩ := by
  rw [Rule.fires, beq_iff_eq]

theorem find?_fires_eq_some_iff (h : (ts.map Rule.guard).Nodup) :
    ts.find? (fun t => t.fires id input reads) = some t ↔
      t ∈ ts ∧ t.fires id input reads = true := by
  constructor
  · intro ht
    have hfires := List.find?_some ht
    exact ⟨List.mem_of_find?_eq_some ht, hfires⟩
  · rintro ⟨hmem, hfires⟩
    cases hfind : ts.find? (fun t => t.fires id input reads) with
    | none => exact absurd hfires (List.find?_eq_none.mp hfind t hmem)
    | some t' =>
      have hfires' := List.find?_some hfind
      have hguard : t'.guard = t.guard := by
        rw [Rule.fires_iff.mp hfires', Rule.fires_iff.mp hfires]
      rw [List.inj_on_of_nodup_map h (List.mem_of_find?_eq_some hfind) hmem hguard]

theorem find?_fires_of_perm (h : (ts.map Rule.guard).Nodup) (hperm : ts.Perm ts') :
    ts'.find? (fun t => t.fires id input reads) = ts.find? fun t => t.fires id input reads := by
  ext t
  rw [find?_fires_eq_some_iff h,
    find?_fires_eq_some_iff ((hperm.map Rule.guard).nodup_iff.mp h), hperm.mem_iff]

end Find

namespace Machine

variable {m : Machine} {c : Config} {s : State} {t : Transition}

/-- The number of work tapes, the output tape included. -/
def width (m : Machine) : Nat := (m.numTapes + 1).toNat

/-- All transitions, state by state and in the order they were added. -/
def transitions (m : Machine) : List Transition := m.states.flatMap State.transitions

/-- The transition leads to a state of the machine, serves all its tapes, and deals in symbols of
its alphabet that are not blank characters. -/
structure Fits (m : Machine) (t : Transition) : Prop where
  /-- The target is not negative. -/
  target_nonneg : 0 ≤ t.target
  /-- The target is the number of a state. -/
  target_lt : t.target < m.numStates
  /-- A symbol is read from every work tape. -/
  length_reads : t.reads.length = m.width
  /-- A symbol is written on every work tape. -/
  length_writes : t.writes.length = m.width
  /-- Every work tape is moved. -/
  length_moves : t.moves.length = m.width
  /-- The symbols are single characters of the alphabet that stand in words. -/
  symbol : ∀ s ∈ t.input :: t.reads ++ t.writes,
    ∃ c, s = [c] ∧ Text.isBlank c = false ∧ m.alphabet.isSymbol [c] = true

/-- The states are numbered in order, the start state is one of them, and every transition fits and
belongs to the state that its source numbers. -/
structure WellFormed (m : Machine) : Prop where
  /-- There is an output tape. -/
  numTapes_nonneg : 0 ≤ m.numTapes
  /-- The start state is not counted from the last one back. -/
  start_nonneg : 0 ≤ m.start
  /-- The start state is one of the states. -/
  start_lt : m.start < m.numStates
  /-- The start state is the one asked for. -/
  startIndex_eq : m.startIndex = m.start.toNat
  /-- The states have their indices as numbers. -/
  id_eq : ∀ (i : Nat) (s : State), m.states[i]? = some s → s.id = i
  /-- The transitions of a state start there. -/
  source_eq : ∀ s ∈ m.states, ∀ t ∈ s.transitions, t.source = s.id
  /-- Every transition fits. -/
  fits : ∀ s ∈ m.states, ∀ t ∈ s.transitions, m.Fits t

theorem WellFormed.index?_start (hm : m.WellFormed) :
    index? m.numStates m.start = some m.startIndex := by
  rw [index?, if_pos hm.start_nonneg, if_pos hm.start_lt, hm.startIndex_eq]

/-- No two transitions wait for the same. -/
def Deterministic (m : Machine) : Prop := (m.transitions.map Rule.guard).Nodup

theorem Deterministic.nodup_of_mem (hm : m.Deterministic) (hs : s ∈ m.states) :
    (s.transitions.map Rule.guard).Nodup := by
  rw [Deterministic, transitions, List.map_flatMap] at hm
  exact (List.nodup_flatMap.mp hm).1 s hs

/-! ### The active state -/

theorem stateAt_of_lt {i : Nat} (h : i < m.numStates) : m.states[i]? = some (m.stateAt i) := by
  rw [stateAt, List.getD_eq_getElem?_getD, List.getElem?_eq_getElem h]
  rfl

theorem stateAt_mem {i : Nat} (h : i < m.numStates) : m.stateAt i ∈ m.states :=
  List.mem_of_getElem? (stateAt_of_lt h)

theorem transitions_stateAt_of_le {i : Nat} (h : m.numStates ≤ i) :
    (m.stateAt i).transitions = [] := by
  rw [stateAt, List.getD_eq_getElem?_getD, List.getElem?_eq_none h]
  rfl

theorem Deterministic.nodup_stateAt (hm : m.Deterministic) (i : Nat) :
    ((m.stateAt i).transitions.map Rule.guard).Nodup := by
  rcases Nat.lt_or_ge i m.numStates with h | h
  · exact hm.nodup_of_mem (stateAt_mem h)
  · rw [transitions_stateAt_of_le h]
    exact List.nodup_nil

/-- **One transition at most.** In a deterministic machine, whatever the order in which the
transitions of the active state are looked through, the one found is the one that fires. -/
theorem Deterministic.find?_eq_some_iff (hm : m.Deterministic) {input : Symbol}
    {reads : List Symbol} {order : List Transition}
    (hperm : order.Perm (m.active c).transitions) :
    order.find? (fun t => t.fires (m.active c).id input reads) = some t ↔
      t ∈ (m.active c).transitions ∧ t.fires (m.active c).id input reads = true := by
  have hnodup := hm.nodup_stateAt c.state
  rw [find?_fires_of_perm hnodup hperm.symm]
  exact find?_fires_eq_some_iff hnodup

end Machine

end MultiTape
