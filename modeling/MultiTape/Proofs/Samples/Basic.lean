import MultiTape.Proofs.Program.Safety

/-!
# What the sample programs have in common

The sample programs are about words over the letters `a` and `b`. Any other word is one of these up
to a place where another letter stands, and that letter is not the blank, so that nothing in the
programs provides for it.

A head that goes right over a text has some characters behind it and the others before it; a head
that writes a text stands behind all of it. On its way back it stands on the last character that is
left, and the cells that it has erased lie to its right. These are the shapes in which the tapes are
found between two steps of a round. The characters behind a head are listed with the latest first,
so that one step puts one in front.

## Main definitions

* `Tape.passed`: a head that has passed some characters and has others before it
* `Tape.returning`: a head on its way back over characters, behind it the cells that it erased
* `Samples.isAB`: the two letters

## Main results

* `Tape.text_passed`, `Alphabet.trim_append_blank`: what a head has written is shown, and trimmed
* `Samples.exists_other`: where a word goes on with another letter
-/

namespace MultiTape

/-! ### Tapes -/

namespace Tape

/-- The head has passed the characters `u`, the latest of them first, and stands on the first of the
characters `v`, or on a blank cell behind the last if there are none. -/
def passed (b : Symbol) (u v : Text) : Tape :=
  { ofWord b v with left := u.map fun c => [c] }

/-- The head stands on the first of the characters `u`, the others lying to its left in order, or on
a blank cell before the first if there are none. To its right lie `k` blank cells. -/
def returning (b : Symbol) (k : Nat) : Text → Tape
  | [] => ⟨b, [], b, List.replicate k b⟩
  | c :: u => ⟨b, u.map fun c => [c], [c], List.replicate k b⟩

theorem passed_nil_left (b : Symbol) (v : Text) : passed b [] v = ofWord b v := by
  cases v <;> rfl

/-- A head that has written a text shows it, and the blank under the head. -/
theorem text_passed (b : Symbol) (u : Text) : (passed b u []).text = u.reverse ++ b := by
  have hleft : (u.map fun c => [c]).reverse.flatten = u.reverse := by
    rw [← List.map_reverse, ← List.flatMap_def, List.flatMap_singleton']
  have hcells : (passed b u []).cells = (u.map fun c => [c]).reverse ++ [b] := rfl
  rw [text, hcells, List.flatten_append, hleft, List.flatten_singleton]

end Tape

/-! ### Words -/

/-- Trimming takes the blank behind a word away. -/
theorem Alphabet.trim_append_blank {a : Alphabet} {w : Text} (hw : a.isWord w = true) :
    a.trim (w ++ [a.blank]) = w :=
  trim_replicate_append hw 0 1

namespace Samples

variable {c : CodePoint} {w : Text}

/-- The letters that the programs are about. -/
def isAB (c : CodePoint) : Bool := c == 'a' || c == 'b'

theorem isAB_iff : isAB c = true ↔ c = 'a' ∨ c = 'b' := by
  rw [isAB, Bool.or_eq_true, beq_iff_eq, beq_iff_eq]

theorem isWord_of_isAB (hw : w.all isAB = true) : Alphabet.standard.isWord w = true := by
  refine List.all_eq_true.mpr fun c hc => ?_
  rcases isAB_iff.mp (List.all_eq_true.mp hw c hc) with rfl | rfl <;> decide

/-- A letter of the alphabet is not the blank. -/
theorem ne_blank_of_isLetter (hc : Alphabet.standard.isLetter c = true) : c ≠ '~' := by
  rintro rfl
  exact absurd hc (by decide)

/-- A word that is not over the two letters goes on behind its longest part that is with another
letter. -/
theorem exists_other (hw : Alphabet.standard.isWord w = true) (hother : w.all isAB = false) :
    ∃ c v, w = w.takeWhile isAB ++ c :: v ∧ isAB c = false ∧ c ≠ '~' := by
  rcases hrest : w.dropWhile isAB with _ | ⟨c, v⟩
  · have hall : w.all isAB = true :=
      List.all_eq_true.mpr (List.dropWhile_eq_nil_iff.mp hrest)
    exact nomatch hother.symm.trans hall
  · have hsplit : w = w.takeWhile isAB ++ c :: v := by
      rw [← hrest, List.takeWhile_append_dropWhile]
    have hc : isAB c = false := by
      simpa [hrest] using List.head?_dropWhile_not isAB w
    have hmem : c ∈ w := by
      rw [hsplit]
      exact List.mem_append_right _ List.mem_cons_self
    exact ⟨c, v, hsplit, hc, ne_blank_of_isLetter (List.all_eq_true.mp hw c hmem)⟩

end Samples

end MultiTape
