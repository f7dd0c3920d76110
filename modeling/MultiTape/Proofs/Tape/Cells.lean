import MultiTape.Transition
import Mathlib.Data.List.Basic

/-!
# What operations leave in the cells

Moving a head adds at most a blank cell, writing changes one cell, and a transition does both to
every work tape it has a symbol and a move for. So a property of symbols that the blank and the
written symbols have is never lost.

## Main definitions

* `Tape.Uses`: all symbols of a tape have a property

## Main results

* `Tape.mem_cells_shift`, `Tape.mem_cells_write`: where the symbols of a tape come from
* `Rule.getElem?_driveTapes`, `Rule.mem_driveTapes`: each work tape is written and moved on its own
* `Rule.uses_driveTapes`: a property of symbols is kept
-/

namespace MultiTape

namespace Tape

variable {t : Tape} {s s' : Symbol} {d : Int}

@[simp] theorem blank_write (t : Tape) (s : Symbol) : (t.write s).blank = t.blank := rfl

@[simp] theorem blank_moveRight (t : Tape) : t.moveRight.blank = t.blank := by
  rw [moveRight]
  split <;> rfl

@[simp] theorem blank_moveLeft (t : Tape) : t.moveLeft.blank = t.blank := by
  rw [moveLeft]
  split <;> rfl

@[simp] theorem blank_shift (t : Tape) (d : Int) : (t.shift d).blank = t.blank := by
  rw [shift]
  split
  · exact blank_moveRight t
  · split
    · exact blank_moveLeft t
    · rfl

theorem mem_cells_moveRight (h : s ∈ t.moveRight.cells) : s = t.blank ∨ s ∈ t.cells := by
  rw [cells_moveRight] at h
  split at h
  · rcases List.mem_append.mp h with h | h
    · exact .inr h
    · exact .inl (List.mem_singleton.mp h)
  · exact .inr h

theorem mem_cells_moveLeft (h : s ∈ t.moveLeft.cells) : s = t.blank ∨ s ∈ t.cells := by
  rw [cells_moveLeft] at h
  split at h
  · exact List.mem_cons.mp h
  · exact .inr h

/-- Moving the head brings no symbol onto the tape but the blank. -/
theorem mem_cells_shift (h : s ∈ (t.shift d).cells) : s = t.blank ∨ s ∈ t.cells := by
  rw [shift] at h
  split at h
  · exact mem_cells_moveRight h
  · split at h
    · exact mem_cells_moveLeft h
    · exact .inr h

/-- Writing brings no symbol onto the tape but the one written. -/
theorem mem_cells_write (h : s' ∈ (t.write s).cells) : s' = s ∨ s' ∈ t.cells := by
  rw [cells_write] at h
  exact (List.mem_or_eq_of_mem_set h).symm

/-- All symbols of a tape, that of cells never written included, have a property. -/
def Uses (P : Symbol → Prop) (t : Tape) : Prop := P t.blank ∧ ∀ s ∈ t.cells, P s

namespace Uses

variable {P : Symbol → Prop}

theorem write (ht : t.Uses P) (hs : P s) : (t.write s).Uses P := by
  refine ⟨ht.1, fun s' hs' => ?_⟩
  rcases mem_cells_write hs' with rfl | hs'
  · exact hs
  · exact ht.2 s' hs'

theorem shift (ht : t.Uses P) (d : Int) : (t.shift d).Uses P := by
  rw [Uses, blank_shift]
  refine ⟨ht.1, fun s hs => ?_⟩
  rcases mem_cells_shift hs with rfl | hs
  · exact ht.1
  · exact ht.2 s hs

end Uses

/-- Cells of single characters can be read off the text that they make up. -/
theorem eq_map_flatten {cells : List Symbol} (h : ∀ s ∈ cells, s.length = 1) :
    cells = cells.flatten.map fun c => [c] := by
  induction cells with
  | nil => rfl
  | cons s cells ih =>
    rw [List.forall_mem_cons] at h
    obtain ⟨c, rfl⟩ := List.length_eq_one_iff.mp h.1
    rw [List.flatten_cons, List.map_append, ← ih h.2]
    rfl

end Tape

namespace Rule

variable {effects : List (Symbol × Int)} {tapes : List Tape} {tape : Tape}

@[simp] theorem length_driveTapes (effects : List (Symbol × Int)) (tapes : List Tape) :
    (driveTapes effects tapes).length = tapes.length := by
  induction effects generalizing tapes with
  | nil => cases tapes <;> rfl
  | cons e effects ih =>
    cases tapes with
    | nil => rfl
    | cons tape tapes => simp [driveTapes, ih]

/-- A tape for which there is a symbol and a move is written and then moved. -/
theorem getElem?_driveTapes {i : Nat} {s : Symbol} {d : Int} (he : effects[i]? = some (s, d))
    (ht : tapes[i]? = some tape) :
    (driveTapes effects tapes)[i]? = some ((tape.write s).shift d) := by
  induction effects generalizing tapes i with
  | nil => simp at he
  | cons e effects ih =>
    cases tapes with
    | nil => simp at ht
    | cons tape' tapes =>
      cases i with
      | zero =>
        obtain rfl : e = (s, d) := by simpa using he
        obtain rfl : tape' = tape := by simpa using ht
        rfl
      | succ i => exact ih (by simpa using he) (by simpa using ht)

/-- Every tape is one of those before, untouched or written and moved. -/
theorem mem_driveTapes (h : tape ∈ driveTapes effects tapes) :
    tape ∈ tapes ∨ ∃ tape' ∈ tapes, ∃ e ∈ effects, tape = (tape'.write e.1).shift e.2 := by
  induction effects generalizing tapes with
  | nil => exact .inl (by cases tapes <;> exact h)
  | cons e effects ih =>
    cases tapes with
    | nil => exact .inl h
    | cons tape' tapes =>
      rcases List.mem_cons.mp h with rfl | h
      · exact .inr ⟨tape', by simp, e, by simp, rfl⟩
      · rcases ih h with h | ⟨tape'', htape, e', he, rfl⟩
        · exact .inl (List.mem_cons_of_mem _ h)
        · exact .inr ⟨tape'', List.mem_cons_of_mem _ htape, e', List.mem_cons_of_mem _ he, rfl⟩

/-- A property of the symbols on the tapes and of those that are written is kept. -/
theorem uses_driveTapes {P : Symbol → Prop} (heffects : ∀ e ∈ effects, P e.1)
    (htapes : ∀ tape ∈ tapes, tape.Uses P) : ∀ tape ∈ driveTapes effects tapes, tape.Uses P := by
  intro tape h
  rcases mem_driveTapes h with h | ⟨tape', htape, e, he, rfl⟩
  · exact htapes tape h
  · exact ((htapes tape' htape).write (heffects e he)).shift e.2

end Rule

end MultiTape
