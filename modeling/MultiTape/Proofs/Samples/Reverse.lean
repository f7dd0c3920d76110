import MultiTape.Proofs.Machine.Ending
import MultiTape.Proofs.Program.Grammar
import MultiTape.Proofs.Samples.Basic

/-!
# The sample program that reverses words

The program reads its word from left to right and copies it to the further work tape. At the end of
the word it turns round there, and takes the letters off that tape from right to left while it
writes them on the output tape. Both rounds are over the letters `a` and `b`; a word that holds
another letter is left at the first of these, before anything has been written on the output tape.

## Main definitions

* `Samples.reverse`: the text of the program
* `Samples.collecting`, `Samples.writing`, `Samples.written`: the configurations between two steps

## Main results

* `Samples.step_collecting`, `Samples.step_writing`: what a step of each round does
* `Samples.endsIn_written`, `Samples.endsIn_stuck`: where runs end, and after how many steps
* `Samples.load_reverse_reverses`: what the loaded machine answers for every word
-/

namespace MultiTape

namespace Samples

open Program (reversalMachine)

variable {c : CodePoint} {u v w out : Text} {k n : Nat} {d : Config}

/-! ### The program -/

/-- The program that reverses words. -/
def reverse : Text :=
  Text.unlines <| [
    "# Writes the input word reversed onto the output tape using one work tape.",
    "3", "1", "0", "2", "2",
    "# scan right, copy to work tape",
    "0 a ~ ~ 0 1 ~ 0 a 1",
    "0 b ~ ~ 0 1 ~ 0 b 1",
    "0 ~ ~ ~ 1 0 ~ 0 ~ -1",
    "# walk the work tape back to front, emitting to the output tape",
    "1 ~ ~ a 1 0 a 1 ~ -1",
    "1 ~ ~ b 1 0 b 1 ~ -1",
    "1 ~ ~ ~ 2 0 ~ 0 ~ 0"].map String.toText

theorem load_reverse : Program.load .standard reverse = .ok reversalMachine := by
  decide +kernel

/-! ### Collecting -/

/-- The letters `u` have been copied, the latest of them first, and `v` is still to be read. -/
def collecting (u v : Text) : Config where
  state := 0
  halted := false
  input := .passed ['~'] u v
  work := [.passed ['~'] [] [], .passed ['~'] u []]

theorem initial_eq_collecting (w : Text) : reversalMachine.initial w = collecting [] w := by
  rw [collecting, Tape.passed_nil_left]
  rfl

/-- One letter more is copied. -/
theorem step_collecting (hc : isAB c = true) (u v : Text) :
    ∃ t, reversalMachine.step (collecting u (c :: v)) = (.fired t, collecting (c :: u) v) := by
  rcases isAB_iff.mp hc with rfl | rfl <;> cases v <;> exact ⟨_, rfl⟩

/-- Nothing fires at another letter. -/
theorem next?_collecting (hc : isAB c = false) (hblank : c ≠ '~') (u v : Text) :
    reversalMachine.next? (collecting u (c :: v)) = none := by
  have hab : c ≠ 'a' ∧ c ≠ 'b' := by simpa [isAB] using hc
  have hread : (collecting u (c :: v)).input.read = [c] := rfl
  rw [Machine.next?, hread]
  simp [Machine.active, Machine.stateAt, collecting, reversalMachine, State.isRunning, State.find?,
    Rule.fires, Rule.guard, hab.1.symm, hab.2.symm, hblank.symm]

/-- **The first round**: as many steps as there are letters to be copied. -/
theorem endsIn_collecting (hv : v.all isAB = true) {rest : Text}
    (h : reversalMachine.EndsIn n (collecting (v.reverse ++ u) rest) d) :
    reversalMachine.EndsIn (v.length + n) (collecting u (v ++ rest)) d := by
  induction v generalizing u with
  | nil => simpa using h
  | cons c v ih =>
    rw [List.all_cons, Bool.and_eq_true] at hv
    rw [List.reverse_cons, List.append_assoc, List.singleton_append] at h
    obtain ⟨t, hstep⟩ := step_collecting hv.1 u (v ++ rest)
    have hend := (ih hv.2 h).fired hstep
    rwa [Nat.add_right_comm, ← List.length_cons] at hend

/-! ### Writing -/

/-- Of the word `w` the letters `out` have been written, the latest of them first, and `u` is still
on the work tape, where `k` cells lie right of the head. -/
def writing (w : Text) (k : Nat) (u out : Text) : Config where
  state := 1
  halted := false
  input := .passed ['~'] w []
  work := [.passed ['~'] out [], .returning ['~'] k u]

/-- The work tape is empty again. -/
def written (w : Text) (k : Nat) (out : Text) : Config :=
  { writing w k [] out with state := 2 }

/-- At the end of the word the head of the work tape turns round, even if it has not moved yet. -/
theorem step_turn (u : Text) :
    ∃ t, reversalMachine.step (collecting u []) = (.fired t, writing u 1 u []) := by
  cases u <;> exact ⟨_, rfl⟩

/-- One letter more is written. -/
theorem step_writing (hc : isAB c = true) (w : Text) (k : Nat) (u out : Text) :
    ∃ t, reversalMachine.step (writing w k (c :: u) out) =
      (.fired t, writing w (k + 1) u (c :: out)) := by
  rcases isAB_iff.mp hc with rfl | rfl <;> cases u <;> exact ⟨_, rfl⟩

theorem step_writing_nil (w : Text) (k : Nat) (out : Text) :
    ∃ t, reversalMachine.step (writing w k [] out) = (.fired t, written w k out) := ⟨_, rfl⟩

theorem endsIn_zero_written (w : Text) (k : Nat) (out : Text) :
    reversalMachine.EndsIn 0 (written w k out) (written w k out) :=
  Machine.endsIn_zero rfl

/-- **The second round**: as many steps as there are letters to be written, and one to stop. -/
theorem endsIn_writing (hu : u.all isAB = true) (w : Text) (k : Nat) (out : Text) :
    reversalMachine.EndsIn (u.length + 1) (writing w k u out)
      (written w (k + u.length) (u.reverse ++ out)) := by
  induction u generalizing k out with
  | nil =>
    obtain ⟨t, hstep⟩ := step_writing_nil w k out
    exact (endsIn_zero_written w k out).fired hstep
  | cons c u ih =>
    rw [List.all_cons, Bool.and_eq_true] at hu
    obtain ⟨t, hstep⟩ := step_writing hu.1 w k u out
    have hcells : k + (c :: u).length = k + 1 + u.length := by
      rw [List.length_cons]
      omega
    rw [List.reverse_cons, List.append_assoc, List.singleton_append, hcells]
    exact (ih hu.2 (k + 1) (c :: out)).fired hstep

/-! ### Runs -/

/-- A word over the two letters has been written back to front in the end. -/
theorem endsIn_written (hw : w.all isAB = true) :
    reversalMachine.EndsIn (2 * w.length + 2) (reversalMachine.initial w)
      (written w.reverse (1 + w.length) w) := by
  have hreverse : w.reverse.all isAB = true := by rwa [List.all_reverse]
  have hwriting := endsIn_writing hreverse w.reverse 1 []
  rw [List.length_reverse, List.reverse_reverse, List.append_nil] at hwriting
  obtain ⟨t, hturn⟩ := step_turn w.reverse
  have hturned : reversalMachine.EndsIn (w.length + 1 + 1) (collecting (w.reverse ++ []) [])
      (written w.reverse (1 + w.length) w) := by simpa using hwriting.fired hturn
  have hend := endsIn_collecting hw hturned
  rw [List.append_nil, ← initial_eq_collecting] at hend
  rwa [show 2 * w.length + 2 = w.length + (w.length + 1 + 1) by omega]

/-- Another letter is where the run ends. -/
theorem endsIn_stuck (hv : v.all isAB = true) (hc : isAB c = false) (hblank : c ≠ '~')
    (rest : Text) :
    reversalMachine.EndsIn v.length (reversalMachine.initial (v ++ c :: rest))
      (collecting v.reverse (c :: rest)) := by
  rw [initial_eq_collecting]
  exact endsIn_collecting (u := []) hv
    (by simpa using Machine.endsIn_zero (next?_collecting hc hblank v.reverse rest))

/-- **The program reverses words over its two letters, and accepts them**, in two steps for each
letter and two more. For a word with another letter it stops in its first state when it has read the
letters before that one; nothing has been written then, and the word is not accepted. -/
theorem load_reverse_reverses :
    Program.load .standard reverse = .ok reversalMachine ∧
      ∀ w, Alphabet.standard.isWord w = true →
        (w.all isAB = true →
          reversalMachine.StopsAfter (2 * w.length + 2) (reversalMachine.initial w) ∧
          ∀ fuel, 2 * w.length + 2 < fuel →
            (reversalMachine.transform Observer.silent fuel () w).answer = .ok w.reverse ∧
            (reversalMachine.accepts Observer.silent fuel () w).answer = .ok true) ∧
        (w.all isAB = false →
          reversalMachine.StopsAfter (w.takeWhile isAB).length (reversalMachine.initial w) ∧
          (reversalMachine.active (reversalMachine.steps (w.takeWhile isAB).length
            (reversalMachine.initial w))).id = 0 ∧
          ∀ fuel, (w.takeWhile isAB).length < fuel →
            (reversalMachine.transform Observer.silent fuel () w).answer = .ok [] ∧
            (reversalMachine.accepts Observer.silent fuel () w).answer = .ok false) := by
  refine ⟨load_reverse, fun w hword => ⟨fun hw => ?_, fun hother => ?_⟩⟩
  · have hend := endsIn_written hw
    have hreverse : Alphabet.standard.isWord w.reverse = true := by
      rwa [Alphabet.isWord, List.all_reverse]
    refine ⟨hend.stopsAfter, fun fuel hfuel => ⟨?_, ?_⟩⟩
    · rw [hend.transform_eq hfuel rfl, Tape.text_passed]
      exact congrArg Except.ok (Alphabet.trim_append_blank hreverse)
    · rw [hend.accepts_eq hfuel]
      rfl
  · obtain ⟨c, v, hsplit, hc, hblank⟩ := exists_other hword hother
    have hend := endsIn_stuck (v := w.takeWhile isAB) List.all_takeWhile hc hblank v
    rw [← hsplit] at hend
    refine ⟨hend.stopsAfter, by rw [hend.steps_eq]; rfl, fun fuel hfuel => ⟨?_, ?_⟩⟩
    · rw [hend.transform_eq hfuel rfl]
      rfl
    · rw [hend.accepts_eq hfuel]
      rfl

/-- The word `abb` comes out as `bba` after eight steps; on `abcab` the machine stops after two. -/
theorem load_reverse_reverses_abb :
    Alphabet.standard.isWord "abb".toText = true ∧ Alphabet.standard.isWord "abcab".toText = true ∧
      reversalMachine.StopsAfter 8 (reversalMachine.initial "abb".toText) ∧
      (reversalMachine.transform Observer.silent 9 () "abb".toText).answer = .ok "bba".toText ∧
      (reversalMachine.accepts Observer.silent 9 () "abb".toText).answer = .ok true ∧
      reversalMachine.StopsAfter 2 (reversalMachine.initial "abcab".toText) ∧
      (reversalMachine.transform Observer.silent 3 () "abcab".toText).answer = .ok [] ∧
      (reversalMachine.accepts Observer.silent 3 () "abcab".toText).answer = .ok false := by
  have hword : Alphabet.standard.isWord "abb".toText = true := by decide
  have hother : Alphabet.standard.isWord "abcab".toText = true := by decide
  obtain ⟨hreverses, -⟩ := load_reverse_reverses.2 _ hword
  obtain ⟨-, hstuck⟩ := load_reverse_reverses.2 _ hother
  obtain ⟨hstops, hanswers⟩ := hreverses (by decide)
  obtain ⟨hstops', -, hanswers'⟩ := hstuck (by decide)
  exact ⟨hword, hother, hstops, (hanswers 9 (by decide)).1, (hanswers 9 (by decide)).2, hstops',
    (hanswers' 3 (by decide)).1, (hanswers' 3 (by decide)).2⟩

end Samples

end MultiTape
