import MultiTape.Proofs.Machine.Steps
import MultiTape.Proofs.Tape.Infinite
import Mathlib.Data.List.OfFn

/-!
# The machine of the textbooks

The multi-tape machine as textbooks define it: one input tape and `k` work tapes without ends, a set
of rules, and a relation between a configuration and the next. Nothing is looked up here, no list
has an order and nothing can fail, because a rule has as many symbols and moves as there are work
tapes.

A well-formed, deterministic machine refines the textbook machine of the same transitions: after `n`
steps it stands where the textbook machine stands after `n` steps, and it stops where that one has
no next configuration.

## Main definitions

* `Textbook.Rule`, `Textbook.Machine`, `Textbook.Config`: the textbook machines
* `Textbook.Machine.Next`, `Textbook.Machine.At`: the next configuration, and the one after a number
  of steps
* `Machine.textbook`: the textbook machine with the same transitions
* `Machine.Represents`: a configuration shows a textbook configuration through windows

## Main results

* `Textbook.Machine.At.unique`: with distinct guards there is one configuration after `n` steps
* `Machine.Represents.fire`: firing a transition is applying its rule
* `Machine.Represents.next_iff`: the transition that fires next is the rule that applies
* `Machine.Tracks.step`, `Machine.exists_tracks_steps`: one step and any number of steps track the
  textbook machine
-/

namespace MultiTape

namespace Textbook

/-! ### Textbook machines -/

/-- A rule for `k` work tapes. -/
structure Rule (k : Nat) where
  /-- The state in which it applies. -/
  source : Int
  /-- The symbol on the input tape. -/
  input : Symbol
  /-- The symbol on each work tape. -/
  reads : Fin k → Symbol
  /-- The next state. -/
  target : Int
  /-- The move of the input tape's head. -/
  inputMove : Move
  /-- The symbol written on each work tape. -/
  writes : Fin k → Symbol
  /-- The move of each work tape's head. -/
  moves : Fin k → Move

/-- The rule as a transition, with its symbols and moves in lists. -/
def Rule.transition {k : Nat} (r : Rule k) : Transition where
  source := r.source
  input := r.input
  reads := List.ofFn r.reads
  target := r.target
  inputMove := r.inputMove
  writes := List.ofFn r.writes
  moves := List.ofFn r.moves

/-- A machine with `k` work tapes. -/
structure Machine (k : Nat) where
  /-- The symbol of an empty cell. -/
  blank : Symbol
  /-- The start state. -/
  start : Int
  /-- The states in which rules apply. -/
  running : Set Int
  /-- The rules. -/
  rules : Set (Rule k)

/-- Where a machine with `k` work tapes stands. -/
@[ext]
structure Config (k : Nat) where
  /-- The state. -/
  state : Int
  /-- The input tape. -/
  input : InfiniteTape
  /-- The work tapes. -/
  work : Fin k → InfiniteTape

variable {k n : Nat} {r r' : Rule k} {C C' C'' : Config k} {w : Text}

/-- The rule waits for what the configuration shows. -/
structure Rule.Matches (r : Rule k) (C : Config k) : Prop where
  /-- The rule belongs to the state. -/
  source : r.source = C.state
  /-- It waits for the symbol on the input tape. -/
  input : r.input = C.input.read
  /-- It waits for the symbol on each work tape. -/
  reads : ∀ i, r.reads i = (C.work i).read

/-- The effect of a rule: every work tape is written and then moved, the input tape is moved, and
the state changes. -/
def Rule.fire (r : Rule k) (C : Config k) : Config k where
  state := r.target
  input := C.input.move r.inputMove
  work i := ((C.work i).write (r.writes i)).move (r.moves i)

/-- Two rules with one transition are one rule. -/
theorem Rule.transition_injective : Function.Injective (Rule.transition (k := k)) := by
  intro r r' h
  obtain ⟨source, input, reads, target, inputMove, writes, moves⟩ := r
  obtain ⟨source', input', reads', target', inputMove', writes', moves'⟩ := r'
  simp only [transition, MultiTape.Rule.mk.injEq, List.ofFn_inj] at h
  obtain ⟨rfl, rfl, rfl, rfl, rfl, rfl, rfl⟩ := h
  rfl

/-- Rules that wait for one configuration have one guard. -/
theorem Rule.Matches.guard_eq (h : r.Matches C) (h' : r'.Matches C) :
    r.transition.guard = r'.transition.guard := by
  have hreads : r.reads = r'.reads := by
    funext i
    rw [h.reads i, h'.reads i]
  simp only [transition, MultiTape.Rule.guard, h.source, h'.source, h.input, h'.input, hreads]

namespace Machine

/-- Before the first step: the word on the input tape, blank work tapes, the start state. -/
def initial (M : Machine k) (w : Text) : Config k where
  state := M.start
  input := .ofWord M.blank w
  work _ := .ofWord M.blank []

/-- In a running state a rule that matches leads to the next configuration. -/
def Next (M : Machine k) (C C' : Config k) : Prop :=
  C.state ∈ M.running ∧ ∃ r ∈ M.rules, r.Matches C ∧ C' = r.fire C

/-- Where the machine stands on a word after a number of steps. Where no configuration is next, it
stays. -/
inductive At (M : Machine k) (w : Text) : Nat → Config k → Prop where
  /-- No step was made. -/
  | zero : At M w 0 (M.initial w)
  /-- There is a next configuration. -/
  | next {n : Nat} {C C' : Config k} (h : At M w n C) (hnext : M.Next C C') : At M w (n + 1) C'
  /-- There is none. -/
  | last {n : Nat} {C : Config k} (h : At M w n C) (hlast : ¬∃ C', M.Next C C') : At M w (n + 1) C

variable {M : Machine k}

theorem not_exists_next_iff :
    (¬∃ C', M.Next C C') ↔ C.state ∉ M.running ∨ ∀ r ∈ M.rules, ¬r.Matches C := by
  constructor
  · intro h
    by_cases hrunning : C.state ∈ M.running
    · exact .inr fun r hr hmatches => h ⟨r.fire C, hrunning, r, hr, hmatches, rfl⟩
    · exact .inl hrunning
  · rintro (h | h) ⟨C', hrunning, r, hr, hmatches, -⟩
    · exact h hrunning
    · exact h r hr hmatches

/-- **There is one configuration after `n` steps**, if there is one next configuration at most. -/
theorem At.unique (hM : ∀ C C' C'', M.Next C C' → M.Next C C'' → C' = C'') (h : M.At w n C)
    (h' : M.At w n C') : C = C' := by
  induction h generalizing C' with
  | zero =>
    cases h'
    rfl
  | next _ hnext ih =>
    cases h' with
    | next h' hnext' =>
      obtain rfl := ih h'
      exact hM _ _ _ hnext hnext'
    | last h' hlast =>
      obtain rfl := ih h'
      exact absurd ⟨_, hnext⟩ hlast
  | last _ hlast ih =>
    cases h' with
    | next h' hnext =>
      obtain rfl := ih h'
      exact absurd ⟨_, hnext⟩ hlast
    | last h' _ => exact ih h'

end Machine

end Textbook

namespace Machine

variable {m : Machine} {c : Config} {k n : Nat} {w : Text}

/-! ### The textbook machine of a machine -/

/-- The textbook machine with the same transitions. -/
def textbook (m : Machine) : Textbook.Machine m.width where
  blank := m.blank
  start := m.start
  running := {id | ∃ s ∈ m.states, s.id = id ∧ s.isRunning = true}
  rules := {r | r.transition ∈ m.transitions}

theorem exists_ofFn_eq {α : Type} {l : List α} (h : l.length = k) :
    ∃ f : Fin k → α, List.ofFn f = l := by
  subst h
  exact ⟨l.get, List.ofFn_get l⟩

/-- A transition that fits is a rule for the machine's work tapes. -/
theorem Fits.exists_rule {t : Transition} (ht : m.Fits t) :
    ∃ r : Textbook.Rule m.width, r.transition = t := by
  obtain ⟨reads, hreads⟩ := exists_ofFn_eq ht.length_reads
  obtain ⟨writes, hwrites⟩ := exists_ofFn_eq ht.length_writes
  obtain ⟨moves, hmoves⟩ := exists_ofFn_eq ht.length_moves
  refine ⟨⟨t.source, t.input, reads, t.target, t.inputMove, writes, moves⟩, ?_⟩
  rw [Textbook.Rule.transition, hreads, hwrites, hmoves]

/-- The textbook machine of a deterministic machine is deterministic. -/
theorem Deterministic.next_unique (hm : m.Deterministic) (C C' C'' : Textbook.Config m.width)
    (h : m.textbook.Next C C') (h' : m.textbook.Next C C'') : C' = C'' := by
  obtain ⟨-, r, hr, hmatches, rfl⟩ := h
  obtain ⟨-, r', hr', hmatches', rfl⟩ := h'
  have htransition : r.transition = r'.transition :=
    List.inj_on_of_nodup_map hm hr hr' (hmatches.guard_eq hmatches')
  rw [Textbook.Rule.transition_injective htransition]

/-! ### Configurations that show textbook configurations -/

/-- The configuration shows a textbook configuration: it is in the same state, and every tape is a
window on the tape without ends. -/
structure Represents (m : Machine) (c : Config) (C : Textbook.Config k) : Prop where
  /-- The states have one number. -/
  id_eq : (m.active c).id = C.state
  /-- The input tape is a window. -/
  input : ∃ o, Tape.RepresentsAt m.blank c.input C.input o
  /-- There are as many work tapes. -/
  length_work : c.work.length = k
  /-- Each work tape is a window. -/
  work : ∀ i : Fin k, ∃ tape o, c.work[i.val]? = some tape ∧
    Tape.RepresentsAt m.blank tape (C.work i) o

theorem represents_initial (hm : m.WellFormed) (w : Text) :
    m.Represents (m.initial w) (m.textbook.initial w) := by
  have hc := admits_initial hm w
  refine ⟨?_, ⟨0, Tape.representsAt_ofWord m.blank w⟩, hc.length_work, fun i => ?_⟩
  · have hstart : ((m.initial w).state : Int) = m.start := by
      have := hm.start_nonneg
      show (m.startIndex : Int) = m.start
      rw [hm.startIndex_eq]
      omega
    rw [hm.id_active hc.state_lt]
    exact hstart
  · refine ⟨Tape.ofWord m.blank [], 0, ?_, Tape.representsAt_ofWord m.blank []⟩
    exact (List.getElem?_replicate_of_lt i.isLt)

variable {C : Textbook.Config m.width}

/-- The work tapes show the same symbols. -/
theorem Represents.symbols_eq {C : Textbook.Config k} (h : m.Represents c C) :
    c.symbols = List.ofFn fun i => (C.work i).read := by
  refine List.ext_getElem? fun i => ?_
  rw [Config.symbols, List.getElem?_map, List.getElem?_ofFn]
  by_cases hi : i < k
  · obtain ⟨tape, o, htape, hwindow⟩ := h.work ⟨i, hi⟩
    rw [dif_pos hi, htape, hwindow.read_eq]
    rfl
  · rw [dif_neg hi, List.getElem?_eq_none (by rw [h.length_work]; omega)]
    rfl

/-- A rule matches when its transition waits for what the stored tapes show. -/
theorem Represents.matches_iff (h : m.Represents c C) {r : Textbook.Rule m.width} :
    r.Matches C ↔ r.transition.guard = ⟨(m.active c).id, c.input.read, c.symbols⟩ := by
  obtain ⟨o, hinput⟩ := h.input
  rw [h.id_eq, ← hinput.read_eq, h.symbols_eq, Rule.guard, Guard.mk.injEq]
  constructor
  · rintro ⟨hsource, hread, hreads⟩
    refine ⟨hsource, hread, ?_⟩
    rw [Textbook.Rule.transition, funext hreads]
  · rintro ⟨hsource, hread, hreads⟩
    exact ⟨hsource, hread, congrFun (List.ofFn_injective hreads)⟩

/-- **Firing a transition is applying its rule.** -/
theorem Represents.fire (hm : m.WellFormed) (h : m.Represents c C) {r : Textbook.Rule m.width}
    (hr : m.Fits r.transition) : m.Represents (c.fire r.transition) (r.fire C) := by
  refine ⟨?_, ?_, ?_, fun i => ?_⟩
  · have hnonneg : 0 ≤ r.target := hr.target_nonneg
    have hlt : r.target < m.numStates := hr.target_lt
    have hstate : ((c.fire r.transition).state : Int) = r.target := by
      show (r.target.toNat : Int) = r.target
      omega
    rw [hm.id_active (by omega), hstate]
    rfl
  · obtain ⟨o, hinput⟩ := h.input
    exact hinput.exists_shift r.inputMove
  · exact (Rule.length_driveTapes _ _).trans h.length_work
  · obtain ⟨tape, o, htape, hwindow⟩ := h.work i
    obtain ⟨o', hwindow'⟩ := (hwindow.write (r.writes i)).exists_shift (r.moves i)
    refine ⟨_, o', Rule.getElem?_driveTapes ?_ htape, hwindow'⟩
    rw [List.getElem?_zip_eq_some, List.getElem?_map]
    simp [Textbook.Rule.transition]

/-- The state of a number is the active one if that has the number. -/
theorem WellFormed.eq_active (hm : m.WellFormed) (hc : c.state < m.numStates) {s : State}
    (hs : s ∈ m.states) (hid : s.id = (m.active c).id) : s = m.active c := by
  obtain ⟨i, hi⟩ := List.mem_iff_getElem?.mp hs
  have hstate : i = c.state := by
    rw [hm.id_eq i s hi, hm.id_active hc] at hid
    exact Int.ofNat_inj.mp hid
  rw [hstate] at hi
  exact Option.some.inj (hi.symm.trans (stateAt_of_lt hc))

/-- **The transition that fires next is the rule that applies.** -/
theorem Represents.next_iff (hm : m.WellFormed) (hdet : m.Deterministic)
    (hc : c.state < m.numStates) (hhalted : c.halted = false) (h : m.Represents c C)
    {r : Textbook.Rule m.width} :
    m.next? c = some r.transition ↔
      C.state ∈ m.textbook.running ∧ r ∈ m.textbook.rules ∧ r.Matches C := by
  rw [h.matches_iff]
  constructor
  · intro hnext
    obtain ⟨-, hrunning, hmem, hguard⟩ := next?_eq_some hnext
    have hactive := stateAt_mem hc
    exact ⟨⟨_, hactive, h.id_eq, hrunning⟩, List.mem_flatMap.mpr ⟨_, hactive, hmem⟩, hguard⟩
  · rintro ⟨⟨s, hs, hid, hrunning⟩, hrule, hguard⟩
    obtain rfl := hm.eq_active hc hs (hid.trans h.id_eq.symm)
    obtain ⟨s, hs', hmem⟩ := List.mem_flatMap.mp hrule
    have hsource : r.transition.source = (m.active c).id := congrArg Guard.state hguard
    rw [hm.source_eq s hs' _ hmem] at hsource
    obtain rfl := hm.eq_active hc hs' hsource
    rw [next?, hhalted, hrunning]
    exact (find?_fires_eq_some_iff (hdet.nodup_of_mem hs)).mpr ⟨hmem, Rule.fires_iff.mpr hguard⟩

/-- No transition fires next exactly when there is no next configuration. -/
theorem Represents.next?_eq_none_iff (hm : m.WellFormed) (hdet : m.Deterministic)
    (hc : c.state < m.numStates) (hhalted : c.halted = false) (h : m.Represents c C) :
    m.next? c = none ↔ ¬∃ C', m.textbook.Next C C' := by
  constructor
  · rintro hnone ⟨C', hrunning, r, hr, hmatches, -⟩
    have hnext := (h.next_iff hm hdet hc hhalted).mpr ⟨hrunning, hr, hmatches⟩
    exact absurd (hnone.symm.trans hnext) (Option.some_ne_none _).symm
  · intro hlast
    cases hnext : m.next? c with
    | none => rfl
    | some t =>
      obtain ⟨r, rfl⟩ := (hm.fits_of_next? hc hnext).exists_rule
      obtain ⟨hrunning, hr, hmatches⟩ := (h.next_iff hm hdet hc hhalted).mp hnext
      exact absurd ⟨_, hrunning, r, hr, hmatches, rfl⟩ hlast

/-! ### The refinement -/

/-- Where the machine and the textbook machine stand after as many steps. -/
structure Tracks (m : Machine) (c : Config) (C : Textbook.Config m.width) : Prop where
  /-- Nothing is out of place. -/
  admits : m.Admits c
  /-- One configuration shows the other. -/
  represents : m.Represents c C
  /-- If the machine has stopped, so has the textbook machine. -/
  not_next : c.halted = true → ¬∃ C', m.textbook.Next C C'

theorem tracks_initial (hm : m.WellFormed) (w : Text) :
    m.Tracks (m.initial w) (m.textbook.initial w) :=
  ⟨admits_initial hm w, represents_initial hm w, fun h => absurd h Bool.false_ne_true⟩

theorem Tracks.next?_eq_none_iff (hm : m.WellFormed) (hdet : m.Deterministic) (h : m.Tracks c C) :
    m.next? c = none ↔ ¬∃ C', m.textbook.Next C C' := by
  cases hhalted : c.halted with
  | false => exact h.represents.next?_eq_none_iff hm hdet h.admits.state_lt hhalted
  | true =>
    have hnone : m.next? c = none := by
      rw [next?, hhalted]
      rfl
    exact iff_of_true hnone (h.not_next hhalted)

/-- **A step of the machine is a step of the textbook machine**, or both stay where they are. -/
theorem Tracks.step (hm : m.WellFormed) (hdet : m.Deterministic) (h : m.Tracks c C) :
    (∃ C', m.textbook.Next C C' ∧ m.Tracks (m.step c).2 C') ∨
      (¬∃ C', m.textbook.Next C C') ∧ m.Tracks (m.step c).2 C := by
  have hadmits := h.admits.step hm
  cases hnext : m.next? c with
  | none =>
    have hlast := (h.next?_eq_none_iff hm hdet).mp hnext
    rw [step_of_next?_eq_none hnext] at hadmits ⊢
    obtain ⟨hid, hinput, hlength, hwork⟩ := h.represents
    exact .inr ⟨hlast, hadmits, ⟨hid, hinput, hlength, hwork⟩, fun _ => hlast⟩
  | some t =>
    have hfits := hm.fits_of_next? h.admits.state_lt hnext
    have hhalted := (next?_eq_some hnext).1
    rw [hfits.step_eq hnext] at hadmits ⊢
    obtain ⟨r, rfl⟩ := hfits.exists_rule
    obtain ⟨hrunning, hr, hmatches⟩ :=
      (h.represents.next_iff hm hdet h.admits.state_lt hhalted).mp hnext
    refine .inl ⟨r.fire C, ⟨hrunning, r, hr, hmatches, rfl⟩, hadmits,
      h.represents.fire hm hfits, fun hstopped => ?_⟩
    exact absurd (hhalted.symm.trans hstopped) Bool.false_ne_true

/-- **After `n` steps the machine stands where the textbook machine does.** -/
theorem exists_tracks_steps (hm : m.WellFormed) (hdet : m.Deterministic) (w : Text) (n : Nat) :
    ∃ C, m.textbook.At w n C ∧ m.Tracks (m.steps n (m.initial w)) C := by
  induction n with
  | zero => exact ⟨_, .zero, tracks_initial hm w⟩
  | succ n ih =>
    obtain ⟨C, hat, htracks⟩ := ih
    rw [steps_succ]
    rcases htracks.step hm hdet with ⟨C', hnext, htracks'⟩ | ⟨hlast, htracks'⟩
    · exact ⟨C', .next hat hnext, htracks'⟩
    · exact ⟨C, .last hat hlast, htracks'⟩

/-- **The machine stops where no configuration is next.** -/
theorem Tracks.step_eq_halted_iff (hm : m.WellFormed) (hdet : m.Deterministic)
    (h : m.Tracks c C) : (m.step c).1 = .halted ↔ ¬∃ C', m.textbook.Next C C' := by
  rw [← h.next?_eq_none_iff hm hdet]
  cases hnext : m.next? c with
  | none =>
    rw [step_of_next?_eq_none hnext]
    exact iff_of_true rfl rfl
  | some t =>
    rw [(hm.fits_of_next? h.admits.state_lt hnext).step_eq hnext]
    exact iff_of_false Outcome.noConfusion (Option.some_ne_none t)

/-- **The transition that a step fires is the rule that applies.** -/
theorem Tracks.step_eq_fired_iff (hm : m.WellFormed) (hdet : m.Deterministic)
    (h : m.Tracks c C) {r : Textbook.Rule m.width} :
    (m.step c).1 = .fired r.transition ↔
      C.state ∈ m.textbook.running ∧ r ∈ m.textbook.rules ∧ r.Matches C := by
  constructor
  · intro hfired
    cases hnext : m.next? c with
    | none =>
      rw [step_of_next?_eq_none hnext] at hfired
      exact Outcome.noConfusion hfired
    | some t =>
      rw [(hm.fits_of_next? h.admits.state_lt hnext).step_eq hnext] at hfired
      obtain rfl := Outcome.fired.inj hfired
      have hhalted := (next?_eq_some hnext).1
      exact (h.represents.next_iff hm hdet h.admits.state_lt hhalted).mp hnext
  · rintro ⟨hrunning, hr, hmatches⟩
    have hhalted : c.halted = false := by
      cases hstopped : c.halted with
      | false => rfl
      | true => exact absurd ⟨_, hrunning, r, hr, hmatches, rfl⟩ (h.not_next hstopped)
    have hnext := (h.represents.next_iff hm hdet h.admits.state_lt hhalted).mpr
      ⟨hrunning, hr, hmatches⟩
    rw [(hm.fits_of_next? h.admits.state_lt hnext).step_eq hnext]

end Machine

end MultiTape
