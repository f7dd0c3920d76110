import MultiTape.Proofs.Machine.Ending
import MultiTape.Proofs.Program.Loaded
import MultiTape.Proofs.Samples.Basic
import Mathlib.Algebra.Group.Nat.Even

/-!
# The sample programs that scan their word once

One program copies its word letter by letter to the output tape, the other counts the letters by two
with its states and writes nothing. Both read their word from left to right and stop behind it. They
also stop, without accepting, at a letter that they have no transition for, wherever in the word it
stands.

## Main definitions

* `Samples.copy`, `Samples.evenA`: the texts of the programs
* `Samples.copying`, `Samples.counting`: the configurations between two steps

## Main results

* `Samples.exists_endsIn_copying`, `Samples.exists_endsIn_counting`: where runs end
* `Samples.load_copy_evenA`: what the loaded machines answer for every word
-/

namespace MultiTape

namespace Samples

variable {c : CodePoint} {u v w : Text}

/-! ### Copying -/

/-- The program that copies words. -/
def copy : Text :=
  Text.unlines <| ["# Copies the input word onto the output tape.", "2", "0", "0", "1", "",
    "0 a ~ 0 1 a 1",
    "0 b ~ 0 1 b 1",
    "0 ~ ~ 1 0 ~ 0"].map String.toText

/-- The machine of that program. -/
def copyMachine : Machine where
  numTapes := 0
  start := 0
  startIndex := 0
  alphabet := .standard
  states := [
    ⟨0, .running, [
      ⟨0, ['a'], [['~']], 0, .right, [['a']], [.right]⟩,
      ⟨0, ['b'], [['~']], 0, .right, [['b']], [.right]⟩,
      ⟨0, ['~'], [['~']], 1, .stay, [['~']], [.stay]⟩]⟩,
    ⟨1, .halting, []⟩]

theorem load_copy : Program.load .standard copy = .ok copyMachine := by
  decide +kernel

/-- The letters `u` have been copied, the latest of them first, and `v` is still to be read. -/
def copying (u v : Text) : Config where
  state := 0
  halted := false
  input := .passed ['~'] u v
  work := [.passed ['~'] u []]

theorem initial_eq_copying (w : Text) : copyMachine.initial w = copying [] w := by
  rw [copying, Tape.passed_nil_left]
  rfl

/-- One letter more is copied. -/
theorem step_copying (hc : isAB c = true) (u v : Text) :
    ∃ t, copyMachine.step (copying u (c :: v)) = (.fired t, copying (c :: u) v) := by
  rcases isAB_iff.mp hc with rfl | rfl <;> cases v <;> exact ⟨_, rfl⟩

/-- Nothing fires at another letter. -/
theorem next?_copying (hc : isAB c = false) (hblank : c ≠ '~') (u v : Text) :
    copyMachine.next? (copying u (c :: v)) = none := by
  have hab : c ≠ 'a' ∧ c ≠ 'b' := by simpa [isAB] using hc
  have hread : (copying u (c :: v)).input.read = [c] := rfl
  rw [Machine.next?, hread]
  simp [Machine.active, Machine.stateAt, copying, copyMachine, State.isRunning, State.find?,
    Rule.fires, Rule.guard, hab.1.symm, hab.2.symm, hblank.symm]

/-- **The copying round** ends behind the word or at another letter. In both cases the two letters
before that place have been copied, and the state is not accepting. -/
theorem exists_endsIn_copying (hv : Alphabet.standard.isWord v = true) (u : Text) :
    ∃ n d, copyMachine.EndsIn n (copying u v) d ∧
      d.work = [.passed ['~'] ((v.takeWhile isAB).reverse ++ u) []] ∧
      (copyMachine.active d).isAccepting = false := by
  induction v generalizing u with
  | nil =>
    have hstop : copyMachine.EndsIn 0 { copying u [] with state := 1 }
        { copying u [] with state := 1 } := Machine.endsIn_zero rfl
    exact ⟨1, _, hstop.fired rfl, rfl, rfl⟩
  | cons c v ih =>
    rw [Alphabet.isWord, List.all_cons, Bool.and_eq_true] at hv
    cases hc : isAB c with
    | true =>
      obtain ⟨t, hstep⟩ := step_copying hc u v
      obtain ⟨n, d, hend, hwork, haccepting⟩ := ih hv.2 (c :: u)
      refine ⟨n + 1, d, hend.fired hstep, ?_, haccepting⟩
      rw [hwork, List.takeWhile_cons_of_pos hc, List.reverse_cons, List.append_assoc,
        List.singleton_append]
    | false =>
      have hnext := next?_copying hc (ne_blank_of_isLetter hv.1) u v
      refine ⟨0, _, Machine.endsIn_zero hnext, ?_, rfl⟩
      rw [List.takeWhile_cons_of_neg (by rw [hc]; exact Bool.false_ne_true)]
      rfl

/-! ### Counting by two -/

/-- The program that accepts an even number of letters `a`. -/
def evenA : Text :=
  Text.unlines <| ["# Accepts words over \x7ba\x7d with an even number of a's.",
    "3", "0", "0", "1", "1",
    "0 a ~ 2 1 ~ 0",
    "2 a ~ 0 1 ~ 0",
    "0 ~ ~ 1 0 ~ 0"].map String.toText

/-- The machine of that program. -/
def evenAMachine : Machine where
  numTapes := 0
  start := 0
  startIndex := 0
  alphabet := .standard
  states := [
    ⟨0, .running, [
      ⟨0, ['a'], [['~']], 2, .right, [['~']], [.stay]⟩,
      ⟨0, ['~'], [['~']], 1, .stay, [['~']], [.stay]⟩]⟩,
    ⟨1, .accepting, []⟩,
    ⟨2, .running, [⟨2, ['a'], [['~']], 0, .right, [['~']], [.stay]⟩]⟩]

theorem load_evenA : Program.load .standard evenA = .ok evenAMachine := by
  decide +kernel

/-- The letters `u` have been counted, the latest of them first, and `v` is still to be read. The
number so far may be odd. -/
def counting (odd : Bool) (u v : Text) : Config where
  state := if odd then 2 else 0
  halted := false
  input := .passed ['~'] u v
  work := [.passed ['~'] [] []]

theorem initial_eq_counting (w : Text) : evenAMachine.initial w = counting false [] w := by
  rw [counting, Tape.passed_nil_left]
  rfl

/-- One letter more is counted. -/
theorem step_counting (odd : Bool) (u v : Text) :
    ∃ t, evenAMachine.step (counting odd u ('a' :: v)) =
      (.fired t, counting (!odd) ('a' :: u) v) := by
  cases odd <;> cases v <;> exact ⟨_, rfl⟩

/-- Nothing fires at another letter. -/
theorem next?_counting (hc : c ≠ 'a') (hblank : c ≠ '~') (odd : Bool) (u v : Text) :
    evenAMachine.next? (counting odd u (c :: v)) = none := by
  have hread : (counting odd u (c :: v)).input.read = [c] := rfl
  rw [Machine.next?, hread]
  cases odd <;>
    simp [Machine.active, Machine.stateAt, counting, evenAMachine, State.isRunning, State.find?,
      Rule.fires, Rule.guard, hc.symm, hblank.symm]

/-- **The counting round** ends behind the word or at another letter. Nothing has been written, and
the state is accepting if only letters `a` were left and their number makes the whole even. -/
theorem exists_endsIn_counting (hv : Alphabet.standard.isWord v = true) (odd : Bool) (u : Text) :
    ∃ n d, evenAMachine.EndsIn n (counting odd u v) d ∧ d.work = [.passed ['~'] [] []] ∧
      ((evenAMachine.active d).isAccepting = true ↔
        (∀ c ∈ v, c = 'a') ∧ Even (v.length + odd.toNat)) := by
  induction v generalizing odd u with
  | nil =>
    cases odd with
    | false =>
      have hstop : evenAMachine.EndsIn 0 { counting false u [] with state := 1 }
          { counting false u [] with state := 1 } := Machine.endsIn_zero rfl
      refine ⟨1, _, hstop.fired rfl, rfl, iff_of_true rfl ⟨nofun, Even.zero⟩⟩
    | true =>
      -- one letter `a` is left over, and behind the word nothing fires
      exact ⟨0, _, Machine.endsIn_zero rfl, rfl,
        iff_of_false nofun fun h => Nat.not_even_one h.2⟩
  | cons c v ih =>
    rw [Alphabet.isWord, List.all_cons, Bool.and_eq_true] at hv
    by_cases hc : c = 'a'
    · subst hc
      obtain ⟨t, hstep⟩ := step_counting odd u v
      obtain ⟨n, d, hend, hwork, haccepting⟩ := ih hv.2 (!odd) ('a' :: u)
      refine ⟨n + 1, d, hend.fired hstep, hwork, haccepting.trans ?_⟩
      have hparity : Even (v.length + (!odd).toNat) ↔ Even (v.length + 1 + odd.toNat) := by
        cases odd <;> simp [Nat.even_add_one]
      rw [List.forall_mem_cons, hparity, List.length_cons]
      simp
    · have hnext := next?_counting hc (ne_blank_of_isLetter hv.1) odd u v
      refine ⟨0, _, Machine.endsIn_zero hnext, rfl, iff_of_false ?_ fun h => ?_⟩
      · cases odd <;> exact nofun
      · exact hc (h.1 c List.mem_cons_self)

/-! ### Answers -/

/-- **The two programs do what they are for.** All runs end. What the first makes of a word is its
longest part from the left that is over the letters `a` and `b`, and it accepts no word. The second
accepts a word if it is an even number of letters `a`, and makes nothing of it. -/
theorem load_copy_evenA :
    (Program.load .standard copy = .ok copyMachine ∧
      ∀ w, Alphabet.standard.isWord w = true → ∃ n,
        copyMachine.StopsAfter n (copyMachine.initial w) ∧ ∀ fuel, n < fuel →
          (copyMachine.transform Observer.silent fuel () w).answer = .ok (w.takeWhile isAB) ∧
          (copyMachine.accepts Observer.silent fuel () w).answer = .ok false) ∧
      Program.load .standard evenA = .ok evenAMachine ∧
      ∀ w, Alphabet.standard.isWord w = true → ∃ n verdict,
        evenAMachine.StopsAfter n (evenAMachine.initial w) ∧
          (verdict = true ↔ (∀ c ∈ w, c = 'a') ∧ Even w.length) ∧ ∀ fuel, n < fuel →
            (evenAMachine.transform Observer.silent fuel () w).answer = .ok [] ∧
            (evenAMachine.accepts Observer.silent fuel () w).answer = .ok verdict := by
  refine ⟨⟨load_copy, fun w hword => ?_⟩, load_evenA, fun w hword => ?_⟩
  · obtain ⟨n, d, hend, hwork, haccepting⟩ := exists_endsIn_copying hword []
    rw [← initial_eq_copying] at hend
    refine ⟨n, hend.stopsAfter, fun fuel hfuel => ⟨?_, ?_⟩⟩
    · rw [hend.transform_eq hfuel hwork, Tape.text_passed, List.append_nil, List.reverse_reverse]
      exact congrArg Except.ok
        (Alphabet.trim_append_blank (isWord_of_isAB List.all_takeWhile))
    · rw [hend.accepts_eq hfuel, haccepting]
  · obtain ⟨n, d, hend, hwork, haccepting⟩ := exists_endsIn_counting hword false []
    rw [← initial_eq_counting] at hend
    refine ⟨n, _, hend.stopsAfter, haccepting, fun fuel hfuel => ⟨?_, ?_⟩⟩
    · rw [hend.transform_eq hfuel hwork]
      rfl
    · rw [hend.accepts_eq hfuel]

/-- Of `abca` the first two letters are copied; `aaaa` is accepted, but not `aaa` or `aaba`. -/
theorem load_copy_evenA_words :
    (∀ w ∈ ["abca", "aaaa", "aaa", "aaba"], Alphabet.standard.isWord w.toText = true) ∧
      (∃ fuel, (copyMachine.transform Observer.silent fuel () "abca".toText).answer =
        .ok "ab".toText) ∧
      (∃ fuel, (evenAMachine.accepts Observer.silent fuel () "aaaa".toText).answer = .ok true) ∧
      (∃ fuel, (evenAMachine.accepts Observer.silent fuel () "aaa".toText).answer = .ok false) ∧
      ∃ fuel, (evenAMachine.accepts Observer.silent fuel () "aaba".toText).answer = .ok false := by
  have hwords : ∀ w ∈ ["abca", "aaaa", "aaa", "aaba"],
      Alphabet.standard.isWord w.toText = true := List.all_eq_true.mp (by decide)
  obtain ⟨⟨-, hcopy⟩, -, heven⟩ := load_copy_evenA
  obtain ⟨n, -, hcopied⟩ := hcopy "abca".toText (hwords _ (by simp))
  obtain ⟨n₁, v₁, -, heven₁, hanswer₁⟩ := heven "aaaa".toText (hwords _ (by simp))
  obtain ⟨n₂, v₂, -, heven₂, hanswer₂⟩ := heven "aaa".toText (hwords _ (by simp))
  obtain ⟨n₃, v₃, -, heven₃, hanswer₃⟩ := heven "aaba".toText (hwords _ (by simp))
  obtain rfl : v₁ = true := heven₁.mpr ⟨by simp [String.toText], by decide⟩
  obtain rfl : v₂ = false := Bool.eq_false_iff.mpr fun h => absurd (heven₂.mp h).2 (by decide)
  obtain rfl : v₃ = false := Bool.eq_false_iff.mpr fun h =>
    absurd ((heven₃.mp h).1 'b' (by simp [String.toText])) (by decide)
  exact ⟨hwords, ⟨n + 1, (hcopied _ n.lt_succ_self).1⟩, ⟨n₁ + 1, (hanswer₁ _ n₁.lt_succ_self).2⟩,
    ⟨n₂ + 1, (hanswer₂ _ n₂.lt_succ_self).2⟩, ⟨n₃ + 1, (hanswer₃ _ n₃.lt_succ_self).2⟩⟩

end Samples

end MultiTape
