import MultiTape.Proofs.Lists
import MultiTape.Proofs.Machine.WellFormed

/-!
# Machines that were put together

A machine is built without transitions, and then transitions are added to it one by one. Little is
asked of them: a source may be counted from the last state back, a target may lead nowhere, and
there may be any number of symbols. What holds of a machine however it was put together is that its
states are numbered in order and that it has the transitions that were added, and no others.

## Main definitions

* `Machine.Built`: the machine was built, and then these transitions were added

## Main results

* `Machine.Built.id_eq`: the states are numbered in order
* `Machine.Built.transitions_perm`: the transitions are those that were added
-/

namespace MultiTape

namespace Machine

variable {m m' : Machine} {t : Transition} {ts : List Transition} {r : Record} {s : State}

/-! ### States -/

theorem index?_lt {count k : Nat} {i : Int} (h : index? count i = some k) : k < count := by
  rw [index?] at h
  split at h
  · split at h
    · obtain rfl := Option.some.inj h
      omega
    · cases h
  · split at h
    · obtain rfl := Option.some.inj h
      omega
    · cases h

theorem getElem?_emptyStates (count : Nat) (halting accepting : List Int) (i : Nat) :
    (emptyStates count halting accepting)[i]? =
      if i < count then some ⟨i, StateKind.classify i halting accepting, []⟩ else none := by
  rw [emptyStates, List.getElem?_map]
  split
  · next hi => simp [List.getElem?_range hi]
  · next hi => simp [hi]

theorem flatMap_modify_add_perm (t : Transition) {states : List State} {i : Nat}
    (hi : i < states.length) :
    ((states.modify i fun s => s.add t).flatMap State.transitions).Perm
      (states.flatMap State.transitions ++ [t]) := by
  induction states generalizing i with
  | nil => simp at hi
  | cons s states ih =>
    cases i with
    | zero =>
      simp only [List.modify_zero_cons, List.flatMap_cons, State.add, List.append_assoc]
      exact List.perm_append_comm.append_left _
    | succ i =>
      simp only [List.modify_succ_cons, List.flatMap_cons, List.append_assoc]
      exact (ih (by simpa using hi)).append_left _

/-! ### Building and adding -/

/-- A machine that was just built has only empty states. -/
theorem states_of_build? {numStates numTapes start : Int} {halting accepting : List Int}
    {a : Alphabet} (h : build? numStates numTapes start halting accepting a = .ok m) :
    m.states = emptyStates numStates.toNat halting accepting := by
  rw [build?] at h
  split at h
  · obtain rfl := Except.ok.inj h
    rfl
  · exact nomatch h

/-- Adding a transition changes nothing but the transitions of the state that its source names. -/
theorem exists_of_addRecord? (h : m.addRecord? r = .ok (t, m')) :
    ∃ i, index? m.numStates t.source = some i ∧ m' = m.addAt i t := by
  simp only [addRecord?, bind_eq_ok_iff, mapError_eq_ok_iff] at h
  obtain ⟨t', -, m'', hadd, h⟩ := h
  obtain ⟨rfl, rfl⟩ := Prod.mk.inj (Except.ok.inj h)
  rw [add?] at hadd
  split at hadd
  · next i hi => exact ⟨i, hi, (Except.ok.inj hadd).symm⟩
  · exact nomatch hadd

/-- The transition of a record waits for what the record does. -/
theorem guard_of_addRecord? (h : m.addRecord? r = .ok (t, m')) : t.guard = r.guard := by
  simp only [addRecord?, Record.check, bind_eq_ok_iff, mapError_eq_ok_iff] at h
  obtain ⟨t', ⟨inputMove, -, moves, -, ht⟩, m'', -, h⟩ := h
  obtain ⟨rfl, rfl⟩ := Prod.mk.inj (Except.ok.inj h)
  rw [← Except.ok.inj ht]
  rfl

/-- The machine was built, and then these transitions were added to it, in this order. -/
inductive Built : List Transition → Machine → Prop where
  /-- It was just built. -/
  | build {numStates numTapes start : Int} {halting accepting : List Int} {a : Alphabet}
    {m : Machine} (h : build? numStates numTapes start halting accepting a = .ok m) : Built [] m
  /-- A transition was added. -/
  | add {ts : List Transition} {m m' : Machine} (h : Built ts m) {r : Record} {t : Transition}
    (hadd : m.addRecord? r = .ok (t, m')) : Built (ts ++ [t]) m'

namespace Built

/-- **The states are numbered in order.** -/
theorem id_eq (h : Built ts m) {i : Nat} (hs : m.states[i]? = some s) : s.id = i := by
  induction h generalizing s with
  | build h =>
    rw [states_of_build? h, getElem?_emptyStates] at hs
    split at hs
    · obtain rfl := Option.some.inj hs
      rfl
    · exact nomatch hs
  | add h hadd ih =>
    obtain ⟨k, -, rfl⟩ := exists_of_addRecord? hadd
    rw [addAt, List.getElem?_modify] at hs
    obtain ⟨s', hs', rfl⟩ := Option.map_eq_some_iff.mp hs
    have hid : s'.id = i := ih hs'
    split <;> exact hid

/-- **The transitions are those that were added.** -/
theorem transitions_perm (h : Built ts m) : m.transitions.Perm ts := by
  induction h with
  | build h =>
    rw [transitions, states_of_build? h, emptyStates, List.flatMap_map]
    simp
  | add h hadd ih =>
    obtain ⟨i, hi, rfl⟩ := exists_of_addRecord? hadd
    exact (flatMap_modify_add_perm _ (index?_lt hi)).trans (ih.append_right _)

end Built

end Machine

end MultiTape
