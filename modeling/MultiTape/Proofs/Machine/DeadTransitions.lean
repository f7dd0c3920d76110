import MultiTape.Proofs.Machine.Built
import MultiTape.Proofs.Machine.Following

/-!
# Dead transitions

A transition fires only if it is the first one in the active state that waits for what is there. It
is dead if that can never be so: because its state is not running; because a transition before it
waits for the same; because it was put into a state other than the one it starts in, which happens
when its source is counted from the last state back; or because it waits for more or fewer symbols
than there are work tapes. Adding such a transition changes what the machine lists, and nothing that
it does.

The last of these causes is the only one that has to do with where the machine gets to: all its
work tapes are there in every configuration that it reaches from a word.

## Main definitions

* `Machine.home?`: the state that a record is added to
* `Machine.Dead`: the record cannot be the first one that fires there

## Main results

* `Machine.next?_addAt_of_dead`: with a dead transition more the same one fires next
* `Machine.behavesAs_of_dead`: the machine does the same with every word
-/

namespace MultiTape

/-- A transition that is added fires if none of those before it does. -/
theorem State.find?_add (s : State) (t : Transition) (input : Symbol) (reads : List Symbol) :
    (s.add t).find? input reads =
      (s.find? input reads).or (if t.fires s.id input reads then some t else none) := by
  rw [State.find?, State.find?, State.add, List.find?_append, List.find?_singleton]

namespace Machine

variable {m m' : Machine} {c : Config} {i : Nat} {s : State} {r : Record} {t : Transition}

/-- The state that the transition of a record is added to. -/
def home? (m : Machine) (r : Record) : Option State :=
  (index? m.numStates r.source).bind fun i => m.states[i]?

/-- Behind the other transitions of the state, a record cannot be the first one that fires. -/
inductive Dead (m : Machine) (s : State) (r : Record) : Prop where
  /-- The state is not running, so nothing fires in it. -/
  | stopped (h : s.isRunning = false)
  /-- A transition before it waits for the same. -/
  | shadowed {t : Transition} (ht : t ∈ s.transitions) (h : t.guard = r.guard)
  /-- It starts in another state. -/
  | misplaced (h : s.id ≠ r.source)
  /-- It waits for more or fewer symbols than there are work tapes. -/
  | misfit (h : r.reads.length ≠ m.width)

/-! ### One transition more -/

/-- The active state is the one with the additional transition, or it is as before. -/
theorem active_addAt_cases (hs : m.states[i]? = some s) (t : Transition) (c : Config) :
    (m.active c = s ∧ (m.addAt i t).active c = s.add t) ∨
      (m.addAt i t).active c = m.active c := by
  rw [active, active, stateAt, stateAt, addAt, List.getD_eq_getElem?_getD,
    List.getD_eq_getElem?_getD]
  rcases eq_or_ne i c.state with rfl | hi
  · rw [List.getElem?_modify_eq, hs]
    exact .inl ⟨rfl, rfl⟩
  · rw [List.getElem?_modify_ne _ _ hi]
    exact .inr rfl

theorem isAccepting_active_addAt (hs : m.states[i]? = some s) (t : Transition) (c : Config) :
    ((m.addAt i t).active c).isAccepting = (m.active c).isAccepting := by
  rcases active_addAt_cases hs t c with ⟨hactive, hadded⟩ | hactive
  · rw [hactive, hadded]
    rfl
  · rw [hactive]

/-- In the state that it was added to, a dead transition is not found, if the state is running and
all work tapes are there. -/
theorem Dead.find?_add (hdead : m.Dead s r) (hguard : t.guard = r.guard)
    (hrunning : s.isRunning = true) (hwork : c.work.length = m.width) :
    (s.add t).find? c.input.read c.symbols = s.find? c.input.read c.symbols := by
  rw [State.find?_add]
  split
  · next hfires =>
    have hr : r.guard = ⟨s.id, c.input.read, c.symbols⟩ := hguard ▸ Rule.fires_iff.mp hfires
    cases hdead with
    | stopped h => exact nomatch h.symm.trans hrunning
    | shadowed ht h =>
      -- The earlier one fires too, so something is found before the new one is looked at.
      have hfound : (s.find? c.input.read c.symbols).isSome = true :=
        List.find?_isSome.mpr ⟨_, ht, Rule.fires_iff.mpr (h.trans hr)⟩
      exact Option.or_of_isSome hfound
    | misplaced h => exact absurd (congrArg Guard.state hr).symm h
    | misfit h =>
      have hreads : r.reads = c.symbols := congrArg Guard.reads hr
      have hlength : c.symbols.length = m.width := (List.length_map _).trans hwork
      exact absurd (hreads ▸ hlength) h
  · exact Option.or_none

/-- **With a dead transition more the same one fires next**, wherever all work tapes are there. -/
theorem next?_addAt_of_dead (hs : m.states[i]? = some s) (hdead : m.Dead s r)
    (hguard : t.guard = r.guard) (hwork : c.work.length = m.width) :
    (m.addAt i t).next? c = m.next? c := by
  rcases active_addAt_cases hs t c with ⟨hactive, hadded⟩ | hactive
  · have hkind : (s.add t).isRunning = s.isRunning := rfl
    rw [next?, next?, hadded, hactive, hkind]
    cases hrunning : s.isRunning with
    | false => rw [Bool.and_false, if_neg Bool.false_ne_true, if_neg Bool.false_ne_true]
    | true => rw [hdead.find?_add hguard hrunning hwork]
  · rw [next?, next?, hactive]

theorem numStates_addAt (m : Machine) (i : Nat) (t : Transition) :
    (m.addAt i t).numStates = m.numStates :=
  List.length_modify ..

/-- The work tapes that the machine starts with are all there, and stay. -/
theorem follows_addAt_of_dead (hs : m.states[i]? = some s) (hdead : m.Dead s r)
    (hguard : t.guard = r.guard) :
    m.Follows (m.addAt i t) fun c => c.work.length = m.width where
  alphabet_eq := rfl
  initial_eq _ := rfl
  isAccepting_eq := isAccepting_active_addAt hs t
  initial _ := List.length_replicate
  step c hc := (length_work_steps m 1 c).trans hc
  step_eq c hc := by
    rw [step, step, next?_addAt_of_dead hs hdead hguard hc, numStates_addAt]

/-! ### One record more -/

/-- **Transitions that cannot be the first to fire are dead.** If a record can be added to a
machine, and in the state that it is added to it cannot be the first one that fires, then the
machine does with every word what it did before. -/
theorem behavesAs_of_dead (hadd : m.addRecord? r = .ok (t, m')) (hs : m.home? r = some s)
    (hdead : m.Dead s r) : m.BehavesAs m' := by
  obtain ⟨i, hi, rfl⟩ := exists_of_addRecord? hadd
  have hguard : t.guard = r.guard := guard_of_addRecord? hadd
  have hsource : t.source = r.source := congrArg Guard.state hguard
  have hstate : m.states[i]? = some s := by
    rw [home?, ← hsource, hi] at hs
    exact hs
  exact (follows_addAt_of_dead hstate hdead hguard).behavesAs

/-- A machine that goes right over letters `a`, writing a `b` for each, and fails at a letter `b`,
for which its transition leads to no state. Its other state halts. -/
def corridor : Machine where
  numTapes := 0
  start := 0
  startIndex := 0
  alphabet := .standard
  states :=
    [⟨0, .running, [⟨0, ['a'], [['~']], 0, .right, [['b']], [.right]⟩,
      ⟨0, ['b'], [['~']], 7, .right, [['c']], [.stay]⟩]⟩,
    ⟨1, .halting, []⟩]

/-- Records that are dead in it: one starts in the halting state, one waits for what the first
transition waits for, one has its source counted from the last state back, and one reads from no
work tape. -/
def deadRecords : List Record :=
  [⟨1, ['a'], [['~']], 0, 1, [['b']], [1]⟩,
    ⟨0, ['a'], [['~']], 7, -1, [['c']], [0]⟩,
    ⟨-2, ['~'], [['~']], 1, 0, [['~']], [0]⟩,
    ⟨0, ['~'], [], 1, 0, [], []⟩]

/-- Each of them makes another machine of it, but none changes what it does. So it still turns `aa`
into `bb`, and on `ab` its second step still fails. -/
theorem behavesAs_corridor :
    deadRecords.Forall fun r => ∃ t m', corridor.addRecord? r = .ok (t, m') ∧ m' ≠ corridor ∧
      corridor.BehavesAs m' ∧
      (m'.transform Observer.silent 5 () ['a', 'a']).answer = .ok [.char 'b', .char 'b'] ∧
      (m'.step (m'.steps 1 (m'.initial ['a', 'b']))).1 = .failed .noSuchState := by
  have hanswer {m' : Machine} (h : corridor.BehavesAs m') :
      (m'.transform Observer.silent 5 () ['a', 'a']).answer = .ok [.char 'b', .char 'b'] := by
    rw [h.transform_eq]
    decide +kernel
  have hfault {m' : Machine} (h : corridor.BehavesAs m') :
      (m'.step (m'.steps 1 (m'.initial ['a', 'b']))).1 = .failed .noSuchState := by
    rw [h.outcome_eq]
    decide +kernel
  have hstopped := behavesAs_of_dead (m := corridor) (r := deadRecords[0]) rfl rfl (.stopped rfl)
  have hshadowed := behavesAs_of_dead (m := corridor) (r := deadRecords[1]) rfl rfl
    (.shadowed List.mem_cons_self rfl)
  have hmisplaced := behavesAs_of_dead (m := corridor) (r := deadRecords[2]) rfl rfl
    (.misplaced (by decide))
  have hmisfit := behavesAs_of_dead (m := corridor) (r := deadRecords[3]) rfl rfl
    (.misfit (by decide))
  exact ⟨⟨_, _, rfl, by decide, hstopped, hanswer hstopped, hfault hstopped⟩,
    ⟨_, _, rfl, by decide, hshadowed, hanswer hshadowed, hfault hshadowed⟩,
    ⟨_, _, rfl, by decide, hmisplaced, hanswer hmisplaced, hfault hmisplaced⟩,
    ⟨_, _, rfl, by decide, hmisfit, hanswer hmisfit, hfault hmisfit⟩⟩

end Machine

end MultiTape
