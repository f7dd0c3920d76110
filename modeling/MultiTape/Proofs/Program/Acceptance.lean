import MultiTape.Proofs.Machine.Iteration
import MultiTape.Proofs.Program.Safety
import Mathlib.Order.Bounds.Basic

/-!
# Acceptance

Whether a word is accepted is asked about the end of a run, and answered without one if the start
state accepts. Neither matters: a machine never leaves a state that is not running, so it ends in an
accepting state exactly when it comes to one at all. Both queries ask about the same run, and one
has an answer exactly when the other has.

What a word becomes is read off the output tape when the first step fires nothing: the text from the
first to the last cell that is not blank.

## Main definitions

* `Tape.marked`, `Tape.Shows`: the cells that are not blank, and the text from the first to the last

## Main results

* `Machine.steps_of_kind_ne`, `Machine.active_steps`: states that are not running are never left
* `Machine.WellFormed.exists_stopsAfter`: where nothing fires, a run has ended
* `Machine.accepts_eq_conclude`: the answer without a run is the one that the run would give
* `Machine.WellFormed.accepts_iff`, `Machine.WellFormed.transform_ends_iff`: when queries have
  answers, in terms of steps
* `Tape.shows_trim`: trimming leaves what the tape shows
* `Program.load_accepts`: the queries of a loaded machine
-/

namespace MultiTape

/-! ### What a tape shows -/

namespace Tape

/-- The indices of the stored cells that are not blank. -/
def marked (t : Tape) (blank : Symbol) : Set Nat := {k | ∃ s, t.cells[k]? = some s ∧ s ≠ blank}

/-- The text of the cells from the leftmost to the rightmost that is not blank, and the empty text
if all of them are blank. -/
def Shows (t : Tape) (blank : Symbol) (r : Text) : Prop :=
  t.marked blank = ∅ ∧ r = [] ∨
    ∃ i j, IsLeast (t.marked blank) i ∧ IsGreatest (t.marked blank) j ∧
      r = ((t.cells.drop i).take (j + 1 - i)).flatten

section Shows

variable {t : Tape} {b : Symbol} {core : List Symbol} {i j : Nat}

/-- Cells of which only blank ones stand around a core. -/
theorem getElem?_padded (k : Nat) :
    (List.replicate i b ++ core ++ List.replicate j b)[k]? =
      if k < i then some b
      else if k < i + core.length then core[k - i]?
      else if k < i + core.length + j then some b else none := by
  simp only [List.getElem?_append, List.length_append, List.length_replicate,
    List.getElem?_replicate]
  split_ifs <;> first | rfl | omega

theorem shows_of_padded (h : t.cells = List.replicate i b ++ core ++ List.replicate j b)
    (hhead : core.head? ≠ some b) (hlast : core.getLast? ≠ some b) :
    t.Shows b core.flatten := by
  have hmarked : ∀ k, k ∈ t.marked b → i ≤ k ∧ k < i + core.length := by
    rintro k ⟨s, hs, hne⟩
    rw [h, getElem?_padded] at hs
    split_ifs at hs with h₁ h₂ h₃
    · exact absurd (Option.some.inj hs).symm hne
    · omega
    · exact absurd (Option.some.inj hs).symm hne
  rcases eq_or_ne core [] with rfl | hcore
  · refine .inl ⟨Set.eq_empty_of_forall_notMem fun k hk => ?_, rfl⟩
    have := hmarked k hk
    simp at this
    omega
  have hlength := List.length_pos_iff.mpr hcore
  refine .inr ⟨i, i + core.length - 1, ⟨?_, fun k hk => (hmarked k hk).1⟩,
    ⟨?_, fun k hk => Nat.le_sub_one_of_lt (hmarked k hk).2⟩, ?_⟩
  · refine ⟨core.head hcore, ?_, fun hb => hhead (hb ▸ List.head?_eq_some_head hcore)⟩
    rw [h, getElem?_padded, if_neg (by omega), if_pos (by omega), Nat.sub_self,
      ← List.head?_eq_getElem?, List.head?_eq_some_head hcore]
  · refine ⟨core.getLast hcore, ?_, fun hb => hlast (hb ▸ List.getLast?_eq_some_getLast hcore)⟩
    rw [h, getElem?_padded, if_neg (by omega), if_pos (by omega),
      show i + core.length - 1 - i = core.length - 1 by omega, ← List.getLast?_eq_getElem?,
      List.getLast?_eq_some_getLast hcore]
  · rw [h, show i + core.length - 1 + 1 - i = core.length by omega, List.append_assoc,
      List.drop_left' List.length_replicate, List.take_left' rfl]

/-- **Trimming leaves what the tape shows**, if the cells hold symbols. -/
theorem shows_trim {a : Alphabet} (h : ∀ s ∈ t.cells, a.isSymbol s = true) :
    t.Shows [a.blank] (a.trim t.text) := by
  obtain ⟨i, j, htext, hhead, hlast⟩ := a.exists_eq_replicate_trim t.text
  generalize a.trim t.text = r at htext hhead hlast ⊢
  have hlength : ∀ s ∈ t.cells, s.length = 1 := by
    intro s hs
    obtain ⟨x, rfl⟩ := Program.exists_eq_singleton_of_isSymbol (h s hs)
    rfl
  have hcells : t.cells = List.replicate i [a.blank] ++ r.map (fun x => [x]) ++
      List.replicate j [a.blank] := by
    rw [eq_map_flatten hlength, ← text, htext]
    simp
  have hflatten : r = (r.map fun x => [x]).flatten := by
    rw [← List.flatMap_def, List.flatMap_singleton']
  rw [hflatten]
  refine shows_of_padded hcells ?_ ?_
  · simpa using hhead
  · simpa using hlast

end Shows

end Tape

namespace Machine

variable {m : Machine} {c : Config} {n k fuel : Nat} {w r : Text} {σ ε α : Type}

/-! ### States that are not running -/

theorem next?_of_kind_ne (h : (m.active c).kind ≠ .running) : m.next? c = none := by
  have hrunning : (m.active c).isRunning = false := by simpa [State.isRunning] using h
  rw [next?, hrunning, Bool.and_false]
  rfl

theorem next?_of_isAccepting (h : (m.active c).isAccepting = true) : m.next? c = none := by
  have hkind : (m.active c).kind = .accepting := by simpa [State.isAccepting] using h
  exact next?_of_kind_ne (by rw [hkind]; decide)

/-- **A state that is not running is never left**, whatever its transitions. -/
theorem steps_of_kind_ne (h : (m.active (m.steps n c)).kind ≠ .running) (k : Nat) :
    m.steps (n + 1 + k) c = { m.steps n c with halted := true } := by
  rw [Nat.add_assoc, Nat.add_comm 1 k, steps_add, steps_of_next?_eq_none (next?_of_kind_ne h)]

/-- Once nothing fires any more, the active state stays the same. -/
theorem active_steps (h : m.next? (m.steps n c) = none) (hk : n ≤ k) :
    m.active (m.steps k c) = m.active (m.steps n c) := by
  obtain ⟨j, rfl⟩ := Nat.exists_eq_add_of_le hk
  rw [steps_add]
  cases j with
  | zero => rfl
  | succ j =>
    rw [steps_of_next?_eq_none h]
    rfl

/-- Where nothing fires, the run has ended there or before. -/
theorem WellFormed.exists_stopsAfter (hm : m.WellFormed) (hc : m.Admits c)
    (h : m.next? (m.steps n c) = none) : ∃ k ≤ n, m.StopsAfter k c := by
  induction n generalizing c with
  | zero => exact ⟨0, Nat.le_refl 0, stopsAfter_zero_iff.mpr h⟩
  | succ n ih =>
    cases hnext : m.next? c with
    | none => exact ⟨0, Nat.zero_le _, stopsAfter_zero_iff.mpr hnext⟩
    | some t =>
      have ht := hm.fits_of_next? hc.state_lt hnext
      have hstep := ht.step_eq hnext
      rw [steps_succ_of_step hstep] at h
      obtain ⟨k, hk, hstops⟩ := ih (ht.admits_fire hc) h
      exact ⟨k + 1, Nat.succ_le_succ hk, stopsAfter_succ_iff.mpr ⟨t, _, hstep, hstops⟩⟩

/-! ### Queries in terms of steps -/

/-- A run of a well-formed machine that has not run out of fuel has ended after some steps. -/
theorem Admits.exists_stopsAfter (hm : m.WellFormed) (hc : m.Admits c) {observe : Observer σ Empty}
    {noted : σ} (h : (m.run observe fuel noted c).ending ≠ .outOfFuel) :
    ∃ n, m.StopsAfter n c := by
  cases hending : (m.run observe fuel noted c).ending with
  | halted =>
    obtain ⟨n, -, hstops, -⟩ := exists_stopsAfter_of_runFrom hending
    exact ⟨n, hstops⟩
  | failed e => exact absurd hending (hc.run_ne_failed hm observe fuel noted e)
  | stopped e => exact e.elim
  | outOfFuel => exact absurd hending h

/-- **The answer without a run is the one that the run would give.** -/
theorem accepts_eq_conclude (observe : Observer σ ε) (hfuel : 0 < fuel) (noted : σ) (w : Text) :
    m.accepts observe fuel noted w =
      m.conclude (m.run observe fuel noted (m.initial w)) fun c =>
        .ok (m.active c).isAccepting := by
  rw [accepts]
  split
  · next haccepting =>
    obtain ⟨fuel, rfl⟩ := Nat.exists_eq_succ_of_ne_zero (Nat.ne_zero_of_lt hfuel)
    have hnext : m.next? (m.initial w) = none := next?_of_isAccepting haccepting
    rw [run, runFrom_of_halted (step_of_next?_eq_none hnext), conclude]
    exact congrArg (fun b => (⟨.ok b, noted, m.initial []⟩ : Query σ ε Bool)) haccepting.symm
  · rfl

theorem accepts_of_stopsAfter (h : m.StopsAfter n (m.initial w)) (hfuel : n < fuel) :
    m.accepts Observer.silent fuel () w =
      ⟨.ok (m.active (m.steps n (m.initial w))).isAccepting, (), m.initial []⟩ := by
  rw [accepts_eq_conclude _ (Nat.zero_lt_of_lt hfuel), run,
    runFrom_of_hears h (Observer.hears_silent _) hfuel, conclude,
    ← active_steps h.next?_eq_none n.le_succ]

/-- Whether a word is accepted is answered when its run ends. -/
theorem WellFormed.accepts_ends_iff (hm : m.WellFormed) :
    (∃ fuel, (m.accepts Observer.silent fuel () w).answer ≠ .error .outOfFuel) ↔
      ∃ n, m.StopsAfter n (m.initial w) := by
  constructor
  · rintro ⟨fuel, h⟩
    rw [accepts] at h
    split at h
    · next haccepting =>
      exact ⟨0, stopsAfter_zero_iff.mpr (next?_of_isAccepting haccepting)⟩
    · exact (admits_initial hm w).exists_stopsAfter hm (mt conclude_answer_eq_outOfFuel_iff.mpr h)
  · rintro ⟨n, hstops⟩
    refine ⟨n + 1, ?_⟩
    rw [accepts_of_stopsAfter hstops n.lt_succ_self]
    simp

/-- What a word becomes is answered when its run ends. -/
theorem WellFormed.transform_ends_iff (hm : m.WellFormed) :
    (∃ fuel, (m.transform Observer.silent fuel () w).answer ≠ .error .outOfFuel) ↔
      ∃ n, m.StopsAfter n (m.initial w) := by
  constructor
  · rintro ⟨fuel, h⟩
    exact (admits_initial hm w).exists_stopsAfter hm (mt conclude_answer_eq_outOfFuel_iff.mpr h)
  · rintro ⟨n, hstops⟩
    refine ⟨n + 1, mt conclude_answer_eq_outOfFuel_iff.mp ?_⟩
    rw [run, runFrom_of_hears hstops (Observer.hears_silent _) n.lt_succ_self]
    simp

/-- The answer is whether the state is accepting in which the run ends. -/
theorem WellFormed.accepts_iff (hm : m.WellFormed) {b : Bool} :
    (∃ fuel, (m.accepts Observer.silent fuel () w).answer = .ok b) ↔
      ∃ n, m.StopsAfter n (m.initial w) ∧
        (m.active (m.steps n (m.initial w))).isAccepting = b := by
  constructor
  · rintro ⟨fuel, h⟩
    have hended : (m.accepts Observer.silent fuel () w).answer ≠ .error .outOfFuel := by
      rw [h]
      exact nofun
    obtain ⟨n, hstops⟩ := hm.accepts_ends_iff.mp ⟨fuel, hended⟩
    refine ⟨n, hstops, ?_⟩
    -- the answer is the same with more fuel, and so with enough of it for `n` steps
    have hmax := accepts_of_le hended (Nat.le_max_left fuel (n + 1))
    rw [accepts_of_stopsAfter hstops (Nat.lt_of_lt_of_le n.lt_succ_self
      (Nat.le_max_right fuel (n + 1)))] at hmax
    rw [← hmax] at h
    exact Except.ok.inj h
  · rintro ⟨n, hstops, rfl⟩
    exact ⟨n + 1, by rw [accepts_of_stopsAfter hstops n.lt_succ_self]⟩

/-- A run ends in an accepting state when it comes to one. -/
theorem WellFormed.exists_accepting_iff (hm : m.WellFormed) :
    (∃ n, m.StopsAfter n (m.initial w) ∧
        (m.active (m.steps n (m.initial w))).isAccepting = true) ↔
      ∃ n, (m.active (m.steps n (m.initial w))).kind = .accepting := by
  simp only [State.isAccepting, beq_iff_eq]
  constructor
  · rintro ⟨n, -, hkind⟩
    exact ⟨n, hkind⟩
  · rintro ⟨n, hkind⟩
    have hnext : m.next? (m.steps n (m.initial w)) = none :=
      next?_of_kind_ne (by rw [hkind]; decide)
    obtain ⟨k, hk, hstops⟩ := hm.exists_stopsAfter (admits_initial hm w) hnext
    exact ⟨k, hstops, by rw [← active_steps hstops.next?_eq_none hk, hkind]⟩

/-- What a word becomes is what the output tape shows when the first step fires nothing. -/
theorem WellFormed.shows_of_transform (hm : m.WellFormed)
    (h : (m.transform Observer.silent fuel () w).answer = .ok r) :
    ∃ n tape rest, m.StopsAfter n (m.initial w) ∧
      (m.steps n (m.initial w)).work = tape :: rest ∧ tape.Shows m.blank r := by
  obtain ⟨hending, tape, houtput, rfl⟩ := transform_answer_eq_ok_iff.mp h
  obtain ⟨n, -, hstops, hconfig⟩ := exists_stopsAfter_of_runFrom hending
  rw [run, hconfig, steps_add, steps_of_next?_eq_none hstops.next?_eq_none,
    Config.output] at houtput
  have hadmits := admits_steps hm w n
  cases hwork : (m.steps n (m.initial w)).work with
  | nil => simp [hwork] at houtput
  | cons tape' rest =>
    obtain rfl : tape' = tape := by simpa [hwork] using houtput
    refine ⟨n, tape', rest, hstops, hwork, Tape.shows_trim ?_⟩
    exact hadmits.symbol tape' (hwork ▸ List.mem_cons_self)

end Machine

/-! ### Loaded machines -/

namespace Program

variable {a : Alphabet} {m : Machine} {text : Text}

/-- **A loaded machine accepts the words that bring it to an accepting state.** It rejects a word if
its run ends without that, and answers exactly the words that it can transform. Leaving out the run
from an accepting start state makes no difference. What a word becomes is what the output tape shows
where the first step fires nothing. From a state that is not running no other configuration is
reached. -/
theorem load_accepts (hload : load a text = .ok m) (w : Text) :
    ((∃ fuel, (m.accepts Observer.silent fuel () w).answer = .ok true) ↔
        ∃ n, (m.active (m.steps n (m.initial w))).kind = .accepting) ∧
      ((∃ fuel, (m.accepts Observer.silent fuel () w).answer = .ok false) ↔
        (∃ n, m.StopsAfter n (m.initial w)) ∧
          ¬∃ n, (m.active (m.steps n (m.initial w))).kind = .accepting) ∧
      ((∃ fuel, (m.accepts Observer.silent fuel () w).answer ≠ .error .outOfFuel) ↔
        ∃ fuel, (m.transform Observer.silent fuel () w).answer ≠ .error .outOfFuel) ∧
      (∀ fuel, 0 < fuel → m.accepts Observer.silent fuel () w =
        m.conclude (m.run Observer.silent fuel () (m.initial w)) fun c =>
          .ok (m.active c).isAccepting) ∧
      (∀ fuel r, (m.transform Observer.silent fuel () w).answer = .ok r →
        ∃ n tape rest, m.StopsAfter n (m.initial w) ∧
          (m.steps n (m.initial w)).work = tape :: rest ∧ tape.Shows m.blank r) ∧
      ∀ n, (m.active (m.steps n (m.initial w))).kind ≠ .running → ∀ k,
        m.steps (n + 1 + k) (m.initial w) = { m.steps n (m.initial w) with halted := true } := by
  have hm := wellFormed_of_load hload
  refine ⟨hm.accepts_iff.trans hm.exists_accepting_iff, ?_,
    hm.accepts_ends_iff.trans hm.transform_ends_iff.symm, fun fuel hfuel => ?_,
    fun fuel r h => hm.shows_of_transform h, fun n h k => Machine.steps_of_kind_ne h k⟩
  · rw [hm.accepts_iff, ← hm.exists_accepting_iff]
    constructor
    · rintro ⟨n, hstops, hfalse⟩
      refine ⟨⟨n, hstops⟩, ?_⟩
      rintro ⟨n', hstops', htrue⟩
      -- two runs of one machine end in one state
      have hn := Machine.active_steps hstops.next?_eq_none (Nat.le_max_left n n')
      have hn' := Machine.active_steps hstops'.next?_eq_none (Nat.le_max_right n n')
      rw [← hn] at hfalse
      rw [← hn', hfalse] at htrue
      exact nomatch htrue
    · rintro ⟨⟨n, hstops⟩, hnone⟩
      exact ⟨n, hstops, Bool.eq_false_iff.mpr fun htrue => hnone ⟨n, hstops, htrue⟩⟩
  · exact Machine.accepts_eq_conclude _ hfuel () w

/-- The word `ab` is accepted, since the machine comes to its accepting state after six steps. There
the output tape shows `ba`, and there the machine stays. -/
theorem reversalMachine_accepts :
    load .standard reversal = .ok reversalMachine ∧
      (∃ fuel, (reversalMachine.accepts Observer.silent fuel () ['a', 'b']).answer = .ok true) ∧
      (∃ n tape rest, reversalMachine.StopsAfter n (reversalMachine.initial ['a', 'b']) ∧
        (reversalMachine.steps n (reversalMachine.initial ['a', 'b'])).work = tape :: rest ∧
        tape.Shows reversalMachine.blank ['b', 'a']) ∧
      ∀ k, reversalMachine.steps (7 + k) (reversalMachine.initial ['a', 'b']) =
        { reversalMachine.steps 6 (reversalMachine.initial ['a', 'b']) with halted := true } := by
  obtain ⟨htrue, -, -, -, hshows, hstay⟩ := load_accepts load_reversal ['a', 'b']
  refine ⟨load_reversal, htrue.mpr ⟨6, by decide +kernel⟩, ?_, hstay 6 (by decide +kernel)⟩
  exact hshows 7 ['b', 'a'] (by decide +kernel)

end Program

end MultiTape
