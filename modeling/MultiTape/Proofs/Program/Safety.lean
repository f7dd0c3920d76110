import MultiTape.Proofs.Machine.Runs
import MultiTape.Proofs.Program.Loaded

/-!
# Loaded machines are safe

Steps check nothing: they look up states and cells by number and write whatever the transition says.
That this is enough is due to loading. A loaded machine is well-formed, so wherever it gets to from
any word at all, everything it looks up is there and its work tapes hold nothing but symbols of the
alphabet. The word itself need not be one of the alphabet's; if it is, the input tape holds nothing
else either.

## Main definitions

* `Machine.Intact`: everything that a step looks up is there, and the work tapes hold symbols
* `Machine.Leaves`: what remains of the output tape without the blanks at its ends

## Main results

* `Machine.WellFormed.leaves_of_transform`: the answer of `transform` is what remains
* `Program.load_safe`: steps, runs and queries of a loaded machine do not fail
-/

namespace MultiTape

/-! ### Words as cells -/

namespace Alphabet

variable {a : Alphabet} {w : Text}

theorem isSymbol_of_isLetter {c : CodePoint} (hc : a.isLetter c = true) :
    a.isSymbol [c] = true := by
  rw [isSymbol, hasLetter, hc, Bool.true_or]

/-- A text is what trimming leaves of it, with blanks around. -/
theorem exists_eq_replicate_trim (a : Alphabet) (t : Text) :
    ∃ i j, t = List.replicate i a.blank ++ a.trim t ++ List.replicate j a.blank ∧
      (a.trim t).head? ≠ some a.blank ∧ (a.trim t).getLast? ≠ some a.blank := by
  obtain ⟨pre, post, ht, hpre, hpost, hhead, hlast⟩ :=
    Text.exists_eq_append_trimBy (· == a.blank) t
  have hall : ∀ {s : Text}, (∀ c ∈ s, (c == a.blank) = true) →
      s = List.replicate s.length a.blank := fun hs =>
    List.eq_replicate_of_mem fun c hc => beq_iff_eq.mp (hs c hc)
  refine ⟨pre.length, post.length, ?_, fun h => ?_, fun h => ?_⟩
  · rw [← hall hpre, ← hall hpost]
    exact ht
  · simpa using hhead a.blank h
  · simpa using hlast a.blank h

/-- Trimming takes the blanks around a word away. -/
theorem trim_replicate_append (hw : a.isWord w = true) (i j : Nat) :
    a.trim (List.replicate i a.blank ++ w ++ List.replicate j a.blank) = w := by
  have hletter : ∀ c ∈ w, (c == a.blank) = false := fun c hc =>
    beq_false_of_ne fun h => a.blank_outside (by
      simpa [isLetter, h] using List.all_eq_true.mp hw c hc)
  have hblank : ∀ n, ∀ c ∈ List.replicate n a.blank, (c == a.blank) = true := fun n c hc =>
    beq_iff_eq.mpr (List.eq_of_mem_replicate hc)
  exact Text.trimBy_append (hblank i) (hblank j) (fun c hc => hletter c (List.mem_of_mem_head? hc))
    fun c hc => hletter c (List.mem_of_mem_getLast? hc)

theorem isSymbol_of_mem_ofWord {s blank : Symbol} (hw : a.isWord w = true)
    (hs : s ∈ (Tape.ofWord blank w).cells) : s = blank ∨ a.isSymbol s = true := by
  rw [Tape.ofWord, Tape.cells_ofCells] at hs
  split at hs
  · exact .inl (List.mem_singleton.mp hs)
  · obtain ⟨c, hc, rfl⟩ := List.mem_map.mp hs
    exact .inr (isSymbol_of_isLetter (List.all_eq_true.mp hw c hc))

end Alphabet

namespace Machine

variable {m : Machine} {c : Config} {w r : Text} {σ ε : Type}

/-! ### Nothing is out of place -/

/-- The work tapes are all there, every head is on a stored cell, the active state is the one of its
number, and the work tapes hold symbols of the alphabet. -/
structure Intact (m : Machine) (c : Config) : Prop where
  /-- One output tape, and as many further work tapes as the machine has. -/
  length_work : (c.work.length : Int) = m.numTapes + 1
  /-- Every head is on a stored cell. -/
  head_lt : ∀ tape ∈ c.input :: c.work,
    tape.head < tape.cells.length ∧ tape.cells[tape.head]? = some tape.read
  /-- The active state is one of the states. -/
  getElem?_states : m.states[c.state]? = some (m.active c)
  /-- It has the number under which it is stored. -/
  id_active : (m.active c).id = c.state
  /-- The work tapes hold symbols of the alphabet. -/
  symbol : ∀ tape ∈ c.work, ∀ s ∈ tape.cells, m.alphabet.isSymbol s = true

theorem Admits.intact (hm : m.WellFormed) (hc : m.Admits c) : m.Intact c where
  length_work := by
    have := hm.numTapes_nonneg
    rw [hc.length_work, width]
    omega
  head_lt tape _ := ⟨tape.head_lt_length_cells, tape.getElem?_cells_head⟩
  getElem?_states := stateAt_of_lt hc.state_lt
  id_active := hm.id_active hc.state_lt
  symbol := hc.symbol

/-- On a word of the alphabet the input tape, which is never written, keeps to the alphabet too. -/
theorem isSymbol_of_mem_input (hw : m.alphabet.isWord w = true) (n : Nat) :
    ∀ s ∈ (m.steps n (m.initial w)).input.cells, m.alphabet.isSymbol s = true := by
  have hblank : (m.initial w).input.blank = m.blank := by cases w <;> rfl
  intro s hs
  rcases (cells_input_steps m n (m.initial w)).2 s hs with rfl | hs
  · rw [hblank]
    exact isSymbol_blank m.alphabet
  · rcases Alphabet.isSymbol_of_mem_ofWord hw hs with rfl | hs
    · exact isSymbol_blank m.alphabet
    · exact hs

/-! ### What a word becomes -/

/-- The output tape holds `r` with blanks around it, and `r` has no blanks at its ends and consists
of symbols of the alphabet. -/
structure Leaves (m : Machine) (c : Config) (r : Text) : Prop where
  /-- All that `r` lacks of the output tape are blanks at the ends. -/
  output : ∃ tape i j, c.output = .ok tape ∧
    tape.text = List.replicate i m.alphabet.blank ++ r ++ List.replicate j m.alphabet.blank
  /-- It consists of symbols. -/
  symbol : ∀ x ∈ r, m.alphabet.isSymbol [x] = true
  /-- It does not start with the blank. -/
  head?_ne : r.head? ≠ some m.alphabet.blank
  /-- It does not end with the blank. -/
  getLast?_ne : r.getLast? ≠ some m.alphabet.blank

/-- A tape of symbols has a text of symbols. -/
theorem isSymbol_of_mem_text {tape : Tape} {x : CodePoint}
    (htape : ∀ s ∈ tape.cells, m.alphabet.isSymbol s = true) (hx : x ∈ tape.text) :
    m.alphabet.isSymbol [x] = true := by
  obtain ⟨s, hs, hxs⟩ := List.mem_flatten.mp hx
  obtain ⟨y, rfl⟩ := Program.exists_eq_singleton_of_isSymbol (htape s hs)
  obtain rfl := List.mem_singleton.mp hxs
  exact htape [x] hs

/-- **The answer of `transform` is what remains on the output tape.** -/
theorem WellFormed.leaves_of_transform (hm : m.WellFormed) {observe : Observer σ ε} {fuel : Nat}
    {noted : σ} (h : (m.transform observe fuel noted w).answer = .ok r) :
    m.Leaves (m.run observe fuel noted (m.initial w)).config r := by
  obtain ⟨-, tape, houtput, rfl⟩ := transform_answer_eq_ok_iff.mp h
  have hc := (admits_initial hm w).run hm observe fuel noted
  obtain ⟨tape', hmem, houtput'⟩ := hc.exists_output hm
  obtain rfl : tape = tape' := Except.ok.inj (houtput.symm.trans houtput')
  obtain ⟨i, j, htext, hhead, hlast⟩ := m.alphabet.exists_eq_replicate_trim tape.text
  refine ⟨⟨tape, i, j, houtput, htext⟩, fun x hx => ?_, hhead, hlast⟩
  refine isSymbol_of_mem_text (hc.symbol tape hmem) ?_
  rw [htext]
  exact List.mem_append_left _ (List.mem_append_right _ hx)

end Machine

/-! ### Loaded machines -/

namespace Program

variable {a : Alphabet} {m : Machine} {text : Text}

/-- **Loaded machines are safe.** After any number of steps from any word nothing is out of place,
and no further step or run fails; no query about the word fails either, and the answer of
`transform` is what remains on the output tape. -/
theorem load_safe (hload : load a text = .ok m) (w : Text) :
    m.alphabet = a ∧
      (∀ n, m.Intact (m.steps n (m.initial w)) ∧
        (∀ e, (m.step (m.steps n (m.initial w))).1 ≠ .failed e) ∧
        (a.isWord w = true →
          ∀ s ∈ (m.steps n (m.initial w)).input.cells, a.isSymbol s = true)) ∧
      ∀ (σ ε : Type) (observe : Observer σ ε) (fuel : Nat) (noted : σ),
        (∀ n e, (m.run observe fuel noted (m.steps n (m.initial w))).ending ≠ .failed e) ∧
        (∀ e, (m.transform observe fuel noted w).answer ≠ .error (.failed e)) ∧
        (∀ e, (m.accepts observe fuel noted w).answer ≠ .error (.failed e)) ∧
        ∀ r, (m.transform observe fuel noted w).answer = .ok r →
          m.Leaves (m.run observe fuel noted (m.initial w)).config r := by
  have hm := wellFormed_of_load hload
  obtain rfl := alphabet_of_load hload
  refine ⟨rfl, fun n => ⟨?_, ?_, ?_⟩, fun σ ε observe fuel noted => ⟨?_, ?_, ?_, ?_⟩⟩
  · exact (Machine.admits_steps hm w n).intact hm
  · exact fun e => (Machine.admits_steps hm w n).step_ne_failed hm e
  · exact fun hw => Machine.isSymbol_of_mem_input hw n
  · exact fun n e => (Machine.admits_steps hm w n).run_ne_failed hm observe fuel noted e
  · exact fun e => hm.transform_ne_failed observe fuel noted w e
  · exact fun e => hm.accepts_ne_failed observe fuel noted w e
  · exact fun r h => hm.leaves_of_transform h

/-- The word `ab` becomes `ba`, and that is what remains on the output tape. -/
theorem reversalMachine_safe :
    load .standard reversal = .ok reversalMachine ∧
      (∀ n, reversalMachine.Intact (reversalMachine.steps n (reversalMachine.initial ['a', 'b']))) ∧
      (reversalMachine.transform Observer.silent 10 () ['a', 'b']).answer =
        .ok [.char 'b', .char 'a'] ∧
      reversalMachine.Leaves
        (reversalMachine.run Observer.silent 10 () (reversalMachine.initial ['a', 'b'])).config
        ['b', 'a'] := by
  obtain ⟨-, hsteps, hqueries⟩ := load_safe load_reversal ['a', 'b']
  have hanswer :
      (reversalMachine.transform Observer.silent 10 () ['a', 'b']).answer =
        .ok [.char 'b', .char 'a'] := by
    decide +kernel
  obtain ⟨-, -, -, hleaves⟩ := hqueries Unit Empty Observer.silent 10 ()
  exact ⟨load_reversal, fun n => (hsteps n).1, hanswer, hleaves _ hanswer⟩

end Program

end MultiTape
