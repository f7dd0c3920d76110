import MultiTape.Move
import MultiTape.Proofs.Tape.Cells
import Mathlib.Data.Int.Basic
import Mathlib.Logic.Function.Basic

/-!
# Tapes without ends

The tape of the textbooks has a cell for every integer and nothing is ever added to it. A stored
tape is a window on such a tape: it shows some cells in a row, with the head among them, and beyond
them there are only blanks. The offset says where the window is. Only a left move at the left end of
the window changes it, because the cell added there takes over the index of the one it pushes away.

## Main definitions

* `InfiniteTape`: tapes with a cell for every integer
* `Tape.RepresentsAt`: a stored tape is a window on an infinite one, at an offset

## Main results

* `Tape.RepresentsAt.read_eq`: the head sees the same symbol
* `Tape.RepresentsAt.write`, `Tape.RepresentsAt.exists_shift`: writing and moving keep a window a
  window
-/

namespace MultiTape

/-- A tape with a cell for every integer. -/
@[ext]
structure InfiniteTape where
  /-- The symbol at a position. -/
  cell : Int → Symbol
  /-- The position of the head. -/
  head : Int

namespace InfiniteTape

/-- The symbol under the head. -/
def read (T : InfiniteTape) : Symbol := T.cell T.head

/-- Replaces the symbol under the head. -/
def write (T : InfiniteTape) (s : Symbol) : InfiniteTape :=
  { T with cell := Function.update T.cell T.head s }

/-- Moves the head. -/
def move (T : InfiniteTape) (d : Move) : InfiniteTape := { T with head := T.head + d.offset }

/-- The given cells from position 0 on, blanks everywhere else, and the head at position 0. -/
def ofCells (blank : Symbol) (cells : List Symbol) : InfiniteTape where
  cell p := if 0 ≤ p then cells[p.toNat]?.getD blank else blank
  head := 0

/-- A word from position 0 on, blanks everywhere else, and the head at position 0. -/
def ofWord (blank : Symbol) (w : Text) : InfiniteTape where
  cell p := if 0 ≤ p then (w[p.toNat]?.map fun c => [c]).getD blank else blank
  head := 0

theorem cell_write_head (T : InfiniteTape) (s : Symbol) : (T.write s).cell T.head = s :=
  Function.update_self ..

theorem cell_write_of_ne {T : InfiniteTape} {p : Int} (s : Symbol) (hp : p ≠ T.head) :
    (T.write s).cell p = T.cell p :=
  Function.update_of_ne hp ..

@[simp] theorem head_move (T : InfiniteTape) (d : Move) : (T.move d).head = T.head + d.offset := rfl

theorem cell_ofCells_of_nonneg {blank : Symbol} {cells : List Symbol} {p : Int} (hp : 0 ≤ p) :
    (ofCells blank cells).cell p = cells[p.toNat]?.getD blank :=
  if_pos hp

theorem cell_ofCells_of_neg {blank : Symbol} {cells : List Symbol} {p : Int} (hp : p < 0) :
    (ofCells blank cells).cell p = blank :=
  if_neg (by omega)

theorem ofWord_eq_ofCells (blank : Symbol) (w : Text) :
    ofWord blank w = ofCells blank (w.map fun c => [c]) := by
  simp only [ofWord, ofCells, List.getElem?_map]

end InfiniteTape

namespace Tape

variable {blank s : Symbol} {t : Tape} {T : InfiniteTape} {o : Int}

/-- The stored cells are those of the infinite tape from position `-o` on, with the head on the same
cell, and all others are blank. -/
structure RepresentsAt (blank : Symbol) (t : Tape) (T : InfiniteTape) (o : Int) : Prop where
  /-- The index of the head is its position, moved by the offset. -/
  head_eq : (t.head : Int) = T.head + o
  /-- Each stored cell holds the symbol at its position. -/
  cell_eq : ∀ (k : Nat) (s : Symbol), t.cells[k]? = some s → T.cell (k - o) = s
  /-- There are only blanks before the stored cells. -/
  before : ∀ p : Int, p + o < 0 → T.cell p = blank
  /-- There are only blanks after the stored cells. -/
  after : ∀ p : Int, t.cells.length ≤ p + o → T.cell p = blank
  /-- The stored tape grows by blanks. -/
  blank_eq : t.blank = blank

theorem representsAt_ofCells (blank : Symbol) (cells : List Symbol) :
    RepresentsAt blank (ofCells blank cells) (InfiniteTape.ofCells blank cells) 0 := by
  refine ⟨?_, fun k s hs => ?_, fun p hp => ?_, fun p hp => ?_, ?_⟩
  · rw [head_ofCells]
    rfl
  · rw [cells_ofCells] at hs
    rw [Int.sub_zero, InfiniteTape.cell_ofCells_of_nonneg (Int.natCast_nonneg k),
      Int.toNat_natCast]
    split at hs
    · next hcells =>
      obtain rfl : s = blank := List.mem_singleton.mp (List.mem_of_getElem? hs)
      rw [hcells]
      rfl
    · rw [hs]
      rfl
  · exact InfiniteTape.cell_ofCells_of_neg (by omega)
  · have hlength : cells.length ≤ (ofCells blank cells).cells.length := by
      rw [cells_ofCells]
      split
      · next hcells =>
        rw [hcells]
        exact Nat.zero_le _
      · exact Nat.le_refl _
    rw [InfiniteTape.cell_ofCells_of_nonneg (by omega), List.getElem?_eq_none (by omega)]
    rfl
  · cases cells <;> rfl

theorem representsAt_ofWord (blank : Symbol) (w : Text) :
    RepresentsAt blank (ofWord blank w) (InfiniteTape.ofWord blank w) 0 := by
  rw [InfiniteTape.ofWord_eq_ofCells]
  exact representsAt_ofCells blank _

namespace RepresentsAt

variable (h : RepresentsAt blank t T o)
include h

/-- The head of a window sees what the head of the tape sees. -/
theorem read_eq : T.read = t.read := by
  have hcell := h.cell_eq t.head t.read t.getElem?_cells_head
  have hhead : (t.head : Int) - o = T.head := by
    have := h.head_eq
    omega
  rwa [hhead] at hcell

theorem write (s : Symbol) : RepresentsAt blank (t.write s) (T.write s) o := by
  have hhead := h.head_eq
  have hlt := t.head_lt_length_cells
  refine ⟨hhead, fun k s' hs => ?_, fun p hp => ?_, fun p hp => ?_, h.blank_eq⟩
  · rw [cells_write] at hs
    by_cases hk : k = t.head
    · subst hk
      have hpos : (t.head : Int) - o = T.head := by omega
      rw [List.getElem?_set_self hlt] at hs
      rw [hpos, InfiniteTape.cell_write_head]
      exact Option.some.inj hs
    · have hpos : (k : Int) - o ≠ T.head := by omega
      rw [List.getElem?_set_ne (Ne.symm hk)] at hs
      rw [InfiniteTape.cell_write_of_ne s hpos]
      exact h.cell_eq k s' hs
  · rw [InfiniteTape.cell_write_of_ne s (by omega)]
    exact h.before p hp
  · rw [cells_write, List.length_set] at hp
    rw [InfiniteTape.cell_write_of_ne s (by omega)]
    exact h.after p hp

theorem moveRight : RepresentsAt blank t.moveRight (T.move .right) o := by
  have hhead := h.head_eq
  have hcells := t.cells_moveRight
  refine ⟨?_, fun k s hs => ?_, h.before, fun p hp => ?_, ?_⟩
  · rw [head_moveRight, InfiniteTape.head_move, Move.offset]
    omega
  · rw [hcells] at hs
    split at hs
    · rcases Nat.lt_or_ge k t.cells.length with hk | hk
      · rw [List.getElem?_append_left hk] at hs
        exact h.cell_eq k s hs
      · -- The one cell behind the old ones is the blank that was added.
        rw [List.getElem?_append_right hk] at hs
        obtain rfl : s = t.blank := List.mem_singleton.mp (List.mem_of_getElem? hs)
        rw [h.blank_eq]
        exact h.after _ (by omega)
    · exact h.cell_eq k s hs
  · refine h.after p ?_
    rw [hcells] at hp
    split at hp
    · rw [List.length_append] at hp
      push_cast at hp
      omega
    · exact hp
  · rw [blank_moveRight]
    exact h.blank_eq

/-- Away from the left end a left move leaves the window where it is. -/
theorem moveLeft_of_pos (hpos : 0 < t.head) : RepresentsAt blank t.moveLeft (T.move .left) o := by
  have hhead := h.head_eq
  have hcells : t.moveLeft.cells = t.cells := by
    rw [cells_moveLeft, if_neg (by omega)]
  refine ⟨?_, ?_, h.before, ?_, ?_⟩
  · rw [head_moveLeft, InfiniteTape.head_move, Move.offset]
    omega
  · rw [hcells]
    exact h.cell_eq
  · rw [hcells]
    exact h.after
  · rw [blank_moveLeft]
    exact h.blank_eq

/-- At the left end it makes the window one cell wider, and every index one larger. -/
theorem moveLeft_of_eq_zero (hzero : t.head = 0) :
    RepresentsAt blank t.moveLeft (T.move .left) (o + 1) := by
  have hhead := h.head_eq
  have hcells : t.moveLeft.cells = t.blank :: t.cells := by
    rw [cells_moveLeft, if_pos hzero]
  refine ⟨?_, fun k s hs => ?_, fun p hp => ?_, fun p hp => ?_, ?_⟩
  · rw [head_moveLeft, InfiniteTape.head_move, Move.offset]
    omega
  · rw [hcells] at hs
    cases k with
    | zero =>
      obtain rfl : t.blank = s := Option.some.inj hs
      rw [h.blank_eq]
      exact h.before _ (by omega)
    | succ k =>
      have hpos : ((k + 1 : Nat) : Int) - (o + 1) = k - o := by omega
      show T.cell ((k + 1 : Nat) - (o + 1)) = s
      rw [hpos]
      exact h.cell_eq k s hs
  · exact h.before p (by omega)
  · rw [hcells, List.length_cons] at hp
    exact h.after p (by omega)
  · rw [blank_moveLeft]
    exact h.blank_eq

/-- **Moving keeps a window a window.** -/
theorem exists_shift (d : Move) : ∃ o', RepresentsAt blank (t.shift d.offset) (T.move d) o' := by
  cases d with
  | left =>
    rcases Nat.eq_zero_or_pos t.head with hzero | hpos
    · exact ⟨o + 1, h.moveLeft_of_eq_zero hzero⟩
    · exact ⟨o, h.moveLeft_of_pos hpos⟩
  | stay =>
    have hstay : T.move .stay = T := by
      rw [InfiniteTape.move, Move.offset, Int.add_zero]
    rw [hstay]
    exact ⟨o, h⟩
  | right => exact ⟨o, h.moveRight⟩

end RepresentsAt

end Tape

end MultiTape
