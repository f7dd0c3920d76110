import MultiTape.Proofs.Tape.Infinite

/-!
# The window that a tape stores

A tape stores the cells that were given and those that the head has been on, and no others. Seen
from where the head began, it is the window between the leftmost and the rightmost position among
them. Each of its cells holds what was last written there, and where nothing was written what the
tape began with.

Positions are counted from the cell where the head began, and are negative to the left of it. They
belong to the infinite tape, where nothing ever shifts; the index of a stored cell does, whenever a
cell is added before it. So all that is said of cells here is said of positions, and only the window
says where they are stored.

## Main definitions

* `Tape.Action`, `Tape.after`: what can be done with a tape, and a tape after some of it
* `Tape.displacement`, `Tape.leftmost`, `Tape.rightmost`: where the head is then, and where it has
  been
* `Tape.lastWritten?`: the last symbol that was written at a position
* `Tape.IsWindow`: the stored cells are those between two positions

## Main results

* `Tape.IsWindow.perform`, `Tape.isWindow_after`: what an action does to the window, and what any
  number of them do
* `InfiniteTape.cell_after`: what an infinite tape holds
* `Tape.stores_window`: length, head and cells of a tape
-/

namespace MultiTape

namespace Tape

/-! ### Actions -/

/-- What can be done with a tape. -/
inductive Action where
  /-- The symbol under the head is read. -/
  | read
  /-- The symbol under the head is replaced. -/
  | write (s : Symbol)
  /-- The head moves one cell to the left. -/
  | moveLeft
  /-- The head moves one cell to the right. -/
  | moveRight
  /-- The head moves by one cell in the direction of the sign of `d`. -/
  | move (d : Int)
  deriving DecidableEq, Repr

/-- The displacement of the head. -/
def Action.offset : Action → Int
  | .read => 0
  | .write _ => 0
  | .moveLeft => -1
  | .moveRight => 1
  | .move d => d.sign

/-- The tape after an action. -/
def perform (t : Tape) : Action → Tape
  | .read => t
  | .write s => t.write s
  | .moveLeft => t.moveLeft
  | .moveRight => t.moveRight
  | .move d => t.shift d

/-- The tape after some actions, one after the other. -/
def after (t : Tape) (actions : List Action) : Tape := actions.foldl perform t

/-! ### Where the head has been -/

/-- How far some actions displace the head, to the right if positive. -/
def displacement : List Action → Int
  | [] => 0
  | a :: actions => a.offset + displacement actions

/-- The positions of the head after each of some actions, if it is at position `p` before them. -/
def path : Int → List Action → List Int
  | _, [] => []
  | p, a :: actions => (p + a.offset) :: path (p + a.offset) actions

/-- The leftmost position that the head has been at, that where it began included. -/
def leftmost (actions : List Action) : Int := (path 0 actions).foldl min 0

/-- The rightmost position that the head has been at, or `last` if that is further right. -/
def rightmost (last : Int) (actions : List Action) : Int := (path 0 actions).foldl max last

/-- What some actions write, and at which positions, if the head is at position `p` before them. -/
def writes : Int → List Action → List (Int × Symbol)
  | _, [] => []
  | p, .write s :: actions => (p, s) :: writes p actions
  | p, a :: actions => writes (p + a.offset) actions

/-- The last symbol that some actions write at a position. -/
def lastWritten? (actions : List Action) (p : Int) : Option Symbol :=
  (writes 0 actions).reverse.lookup p

/-- The cells that a tape begins with: those given, or one blank if there are none. -/
def base (blank : Symbol) (cells : List Symbol) : List Symbol :=
  if cells = [] then [blank] else cells

end Tape

namespace InfiniteTape

open Tape (Action)

variable {T : InfiniteTape}

/-- The infinite tape after an action. -/
def perform (T : InfiniteTape) : Action → InfiniteTape
  | .write s => T.write s
  | a => { T with head := T.head + a.offset }

/-- The infinite tape after some actions, one after the other. -/
def after (T : InfiniteTape) (actions : List Action) : InfiniteTape := actions.foldl perform T

@[simp] theorem head_perform (T : InfiniteTape) (a : Action) :
    (T.perform a).head = T.head + a.offset := by
  cases a with
  | write s => exact (Int.add_zero T.head).symm
  | _ => rfl

theorem head_after (T : InfiniteTape) (actions : List Action) :
    (T.after actions).head = T.head + Tape.displacement actions := by
  induction actions generalizing T with
  | nil => exact (Int.add_zero T.head).symm
  | cons a actions ih =>
    have hsum : Tape.displacement (a :: actions) = a.offset + Tape.displacement actions := rfl
    rw [hsum, ← Int.add_assoc, ← head_perform]
    exact ih (T.perform a)

/-- **What an infinite tape holds** at a position is what was last written there, and otherwise what
it held before. -/
theorem cell_after (T : InfiniteTape) (actions : List Action) (p : Int) :
    (T.after actions).cell p =
      ((Tape.writes T.head actions).reverse.lookup p).getD (T.cell p) := by
  induction actions generalizing T with
  | nil => rfl
  | cons a actions ih =>
    have hih := ih (T.perform a)
    rw [head_perform] at hih
    cases a with
    | write s =>
      have hwrites : Tape.writes T.head (.write s :: actions) =
          (T.head, s) :: Tape.writes T.head actions := rfl
      refine hih.trans ?_
      rw [hwrites, List.reverse_cons, List.lookup_append, Action.offset, Int.add_zero]
      cases hlater : (Tape.writes T.head actions).reverse.lookup p with
      | some s' => rfl
      | none =>
        -- Nothing is written there later, so it is this write that counts, if it is made there.
        by_cases hp : p = T.head
        · subst hp
          simp [perform, cell_write_head]
        · have hbeq : (p == T.head) = false := beq_false_of_ne hp
          simp [perform, cell_write_of_ne s hp, List.lookup_cons, hbeq]
    | _ => exact hih

end InfiniteTape

namespace Tape

variable {blank : Symbol} {t : Tape} {T : InfiniteTape} {lo hi : Int}

/-! ### Windows -/

/-- The stored cells are those of the infinite tape from position `lo` to position `hi`, with the
head on the same cell, and all others are blank. -/
structure IsWindow (blank : Symbol) (t : Tape) (T : InfiniteTape) (lo hi : Int) : Prop where
  /-- The first of the stored cells is the one at position `lo`. -/
  represents : RepresentsAt blank t T (-lo)
  /-- The last of them is the one at position `hi`. -/
  length_eq : (t.cells.length : Int) = hi - lo + 1

theorem length_base_pos (blank : Symbol) (cells : List Symbol) :
    0 < (base blank cells).length := by
  rw [base]
  split
  · exact Nat.one_pos
  · exact List.length_pos_iff.mpr ‹_›

/-- A tape that begins with a blank cell begins as one without cells would. -/
theorem cell_ofCells_eq_base (blank : Symbol) (cells : List Symbol) (p : Int) :
    (InfiniteTape.ofCells blank cells).cell p =
      if 0 ≤ p then (base blank cells)[p.toNat]?.getD blank else blank := by
  cases cells with
  | nil =>
    have hbase : (base blank [])[p.toNat]?.getD blank = blank := by
      cases p.toNat <;> rfl
    rw [hbase, ite_self]
    exact ite_self blank
  | cons s cells => rfl

theorem isWindow_ofCells (blank : Symbol) (cells : List Symbol) :
    IsWindow blank (ofCells blank cells) (InfiniteTape.ofCells blank cells) 0
      ((base blank cells).length - 1) := by
  refine ⟨representsAt_ofCells blank cells, ?_⟩
  rw [cells_ofCells, ← base]
  omega

namespace IsWindow

variable (h : IsWindow blank t T lo hi)
include h

/-- The head is inside the window. -/
theorem head_mem : lo ≤ T.head ∧ T.head ≤ hi := by
  have hhead := h.represents.head_eq
  have hlength := h.length_eq
  have hlt := t.head_lt_length_cells
  omega

theorem write (s : Symbol) : IsWindow blank (t.write s) (T.write s) lo hi := by
  refine ⟨h.represents.write s, ?_⟩
  rw [cells_write, List.length_set]
  exact h.length_eq

/-- The window is wider by a cell after a right move at its right end. -/
theorem moveRight : IsWindow blank t.moveRight (T.move .right) lo (max hi (T.head + 1)) := by
  refine ⟨h.represents.moveRight, ?_⟩
  have hhead := h.represents.head_eq
  have hlength := h.length_eq
  have hmem := h.head_mem
  rw [cells_moveRight]
  split
  · rw [List.length_append, List.length_singleton]
    omega
  · have hlt := t.head_lt_length_cells
    omega

/-- And after a left move at its left end. -/
theorem moveLeft : IsWindow blank t.moveLeft (T.move .left) (min lo (T.head - 1)) hi := by
  have hhead := h.represents.head_eq
  have hlength := h.length_eq
  have hmem := h.head_mem
  rcases Nat.eq_zero_or_pos t.head with hzero | hpos
  · have hlo : min lo (T.head - 1) = lo - 1 := by omega
    have hoffset : -(lo - 1) = -lo + 1 := by omega
    rw [hlo]
    refine ⟨?_, ?_⟩
    · rw [hoffset]
      exact h.represents.moveLeft_of_eq_zero hzero
    · rw [cells_moveLeft, if_pos hzero, List.length_cons]
      omega
  · have hlo : min lo (T.head - 1) = lo := by omega
    rw [hlo]
    refine ⟨h.represents.moveLeft_of_pos hpos, ?_⟩
    rw [cells_moveLeft, if_neg (by omega)]
    exact hlength

/-- **Moving makes the window wide enough** for where the head is then. -/
theorem shift (d : Int) :
    IsWindow blank (t.shift d) { T with head := T.head + d.sign }
      (min lo (T.head + d.sign)) (max hi (T.head + d.sign)) := by
  have hmem := h.head_mem
  rw [Tape.shift]
  rcases Int.lt_trichotomy d 0 with hneg | rfl | hpos
  · rw [if_neg (by omega), if_pos hneg, Int.sign_eq_neg_one_of_neg hneg]
    have hhi : max hi (T.head + -1) = hi := by omega
    rw [hhi]
    exact h.moveLeft
  · have hlo : min lo (T.head + 0) = lo := by omega
    have hhi : max hi (T.head + 0) = hi := by omega
    rw [if_neg (by omega), if_neg (by omega), Int.sign_zero, hlo, hhi, Int.add_zero]
    exact h
  · rw [if_pos hpos, Int.sign_eq_one_of_pos hpos]
    have hlo : min lo (T.head + 1) = lo := by omega
    rw [hlo]
    exact h.moveRight

/-- **What an action does to the window**: it becomes wide enough for where the head is then. -/
theorem perform (a : Action) :
    IsWindow blank (t.perform a) (T.perform a)
      (min lo (T.head + a.offset)) (max hi (T.head + a.offset)) := by
  cases a with
  | read => exact h.shift 0
  | write s =>
    have hmem := h.head_mem
    have hlo : min lo (T.head + 0) = lo := by omega
    have hhi : max hi (T.head + 0) = hi := by omega
    rw [Action.offset, hlo, hhi]
    exact h.write s
  | moveLeft => exact h.shift (-1)
  | moveRight => exact h.shift 1
  | move d => exact h.shift d

omit h in
/-- **A window on a tape that was never written** holds what the tape began with, between blanks. -/
theorem cells_eq {cells : List Symbol} {i j : Nat}
    (h : IsWindow blank t T (-i) ((base blank cells).length - 1 + j))
    (hcell : T.cell = (InfiniteTape.ofCells blank cells).cell) :
    t.cells = List.replicate i blank ++ base blank cells ++ List.replicate j blank := by
  have hlength : t.cells.length = i + (base blank cells).length + j := by
    have := h.length_eq
    omega
  refine List.ext_getElem (by simp [hlength, Nat.add_assoc]) fun k hk _ => ?_
  have hpos : (k : Int) - - -(i : Int) = k - i := by omega
  have hk' := h.represents.cell_eq k t.cells[k] (List.getElem?_eq_getElem hk)
  rw [hpos, hcell, cell_ofCells_eq_base] at hk'
  rw [← hk', List.getElem_append]
  by_cases hbefore : k < i
  · rw [if_neg (by omega), dif_pos (by simp; omega), List.getElem_append_left (by simpa),
      List.getElem_replicate]
  · have hindex : ((k : Int) - i).toNat = k - i := by omega
    rw [if_pos (by omega), hindex]
    split
    · next hinside =>
      have hright : (List.replicate i blank).length ≤ k := by simpa using hbefore
      rw [List.length_append, List.length_replicate] at hinside
      rw [List.getElem?_eq_getElem (by omega)]
      simp only [List.getElem_append_right hright, List.length_replicate]
      rfl
    · next hbehind =>
      rw [List.length_append, List.length_replicate] at hbehind
      rw [List.getElem_replicate, List.getElem?_eq_none (by omega)]
      rfl

/-- What any number of actions do to it. -/
theorem after (actions : List Action) :
    IsWindow blank (t.after actions) (T.after actions)
      ((path T.head actions).foldl min lo) ((path T.head actions).foldl max hi) := by
  induction actions generalizing t T lo hi with
  | nil => exact h
  | cons a actions ih =>
    have hrest := ih (h.perform a)
    rw [InfiniteTape.head_perform] at hrest
    exact hrest

end IsWindow

/-! ### The stored cells -/

/-- **The window of a tape** reaches as far as the head has been, and holds the cells that the tape
began with. -/
theorem isWindow_after (blank : Symbol) (cells : List Symbol) (actions : List Action) :
    IsWindow blank ((ofCells blank cells).after actions)
      ((InfiniteTape.ofCells blank cells).after actions)
      (leftmost actions) (rightmost ((base blank cells).length - 1) actions) :=
  (isWindow_ofCells blank cells).after actions

/-- **A tape stores exactly the visited window.** After any actions the stored cells are those from
the leftmost to the rightmost position that the head has been at or that a cell was given for, and
the head is among them. Each holds the last symbol written at its position, or what the tape began
with there, or the blank; and what is read is the one under the head. -/
theorem stores_window (blank : Symbol) (cells : List Symbol) (actions : List Action) :
    let t := (ofCells blank cells).after actions
    let given := base blank cells
    let lo := leftmost actions
    let hi := rightmost (given.length - 1) actions
    (t.cells.length : Int) = hi - lo + 1 ∧
      (t.head : Int) = displacement actions - lo ∧ t.head < t.cells.length ∧
      (∀ k : Nat, k < t.cells.length →
        t.cells[k]? = some ((lastWritten? actions (lo + k)).getD
          (if 0 ≤ lo + k then given[(lo + k).toNat]?.getD blank else blank))) ∧
      t.cells[t.head]? = some t.read := by
  intro t given lo hi
  have h : IsWindow blank t ((InfiniteTape.ofCells blank cells).after actions) lo hi :=
    isWindow_after blank cells actions
  have hhead : ((InfiniteTape.ofCells blank cells).after actions).head = displacement actions := by
    rw [InfiniteTape.head_after]
    exact Int.zero_add _
  refine ⟨h.length_eq, ?_, t.head_lt_length_cells, fun k hk => ?_, t.getElem?_cells_head⟩
  · rw [h.represents.head_eq, hhead]
    rfl
  · have hpos : (k : Int) - -lo = lo + k := by omega
    have hcell := h.represents.cell_eq k t.cells[k] (List.getElem?_eq_getElem hk)
    rw [hpos, InfiniteTape.cell_after, cell_ofCells_eq_base] at hcell
    rw [List.getElem?_eq_getElem hk, ← hcell]
    rfl

/-- A way that goes right by a cell, then two cells to the left of where it began, and then four to
the right and back by one, writing here and there. -/
def excursion : List Action :=
  [.moveRight, .write ['v'], .move (-4), .moveLeft, .moveLeft, .write ['x'], .move 9, .moveRight,
    .write ['y'], .read, .moveRight, .moveRight, .moveRight, .write ['z'], .moveRight, .move (-2),
    .write ['w']]

/-- On `abc` it leaves `x~yvcw~`. What was written at position 1 was stored with index 1 then and is
with index 3 now; the `c` was never written; the `w` has replaced a `z`; and the cells with indices
1 and 6 were only passed. -/
theorem stores_window_excursion :
    let t := (ofCells ['~'] [['a'], ['b'], ['c']]).after excursion
    (t.cells.length : Int) = 4 - -2 + 1 ∧ (t.head : Int) = 3 - -2 ∧ t.head < t.cells.length ∧
      (t.cells[0]? = some [.char 'x'] ∧ t.cells[1]? = some [.char '~'] ∧
        t.cells[3]? = some [.char 'v'] ∧ t.cells[4]? = some [.char 'c'] ∧
        t.cells[5]? = some [.char 'w'] ∧ t.cells[6]? = some [.char '~']) ∧
      t.cells[t.head]? = some t.read := by
  intro t
  obtain ⟨hlength, hhead, hlt, hcell, hread⟩ :=
    stores_window ['~'] [['a'], ['b'], ['c']] excursion
  exact ⟨hlength, hhead, hlt, ⟨hcell 0 (by decide), hcell 1 (by decide), hcell 3 (by decide),
    hcell 4 (by decide), hcell 5 (by decide), hcell 6 (by decide)⟩, hread⟩

end Tape

end MultiTape
