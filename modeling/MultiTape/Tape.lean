import MultiTape.Text.Basic

/-!
# Tapes

A tape is unbounded in both directions and stores the cells that were given or visited. The cell
under the head is kept apart from those to its left and right, so there always is one. Moving past
either end adds a blank cell there.

## Main definitions

* `Tape.ofCells`: a tape with the head on the first of the given cells
* `Tape.cells`, `Tape.head`: the stored cells from left to right, and which of them is under the
  head
* `Tape.read`, `Tape.write`, `Tape.shift`: the operations

## Main results

* `Tape.cells_write`, `Tape.cells_moveRight`, `Tape.cells_moveLeft`: what each operation does to the
  stored cells
-/

namespace MultiTape

/-- The content of a cell. Loaded programs use single characters. -/
abbrev Symbol := Text

/-- A tape with its head. -/
structure Tape where
  /-- The content of a cell never written. -/
  blank : Symbol
  /-- The stored cells left of the head, the nearest first. -/
  left : List Symbol
  /-- The cell under the head. -/
  focus : Symbol
  /-- The stored cells right of the head, the nearest first. -/
  right : List Symbol
  deriving DecidableEq, Repr

namespace Tape

/-- A tape that holds the given cells, or one blank cell if there are none, with the head on the
first. -/
def ofCells (blank : Symbol) : List Symbol → Tape
  | [] => ⟨blank, [], blank, []⟩
  | cell :: rest => ⟨blank, [], cell, rest⟩

/-- A tape that holds the characters of a word, or one blank cell for the empty word. -/
def ofWord (blank : Symbol) (word : Text) : Tape := ofCells blank (word.map fun c => [c])

/-- The stored cells from left to right. -/
def cells (t : Tape) : List Symbol := t.left.reverse ++ t.focus :: t.right

/-- The index, among the stored cells, of the cell under the head. -/
def head (t : Tape) : Nat := t.left.length

/-- The symbol under the head. -/
def read (t : Tape) : Symbol := t.focus

/-- Replaces the symbol under the head. -/
def write (t : Tape) (s : Symbol) : Tape := { t with focus := s }

/-- Moves the head one cell to the right. -/
def moveRight (t : Tape) : Tape :=
  match t.right with
  | [] => ⟨t.blank, t.focus :: t.left, t.blank, []⟩
  | s :: rest => ⟨t.blank, t.focus :: t.left, s, rest⟩

/-- Moves the head one cell to the left. -/
def moveLeft (t : Tape) : Tape :=
  match t.left with
  | [] => ⟨t.blank, [], t.blank, t.focus :: t.right⟩
  | s :: rest => ⟨t.blank, rest, s, t.focus :: t.right⟩

/-- Moves the head by one cell in the direction of the sign of `d`. -/
def shift (t : Tape) (d : Int) : Tape :=
  if 0 < d then t.moveRight else if d < 0 then t.moveLeft else t

/-- The contents of the stored cells in a row. -/
def text (t : Tape) : Text := t.cells.flatten

/-- A line with a caret at the column of the head's index. -/
def caret (t : Tape) : Text := List.replicate t.head (CodePoint.char ' ') ++ [.char '^']

/-! ### The stored cells

Each operation in terms of the stored cells and the index of the head among them. -/

@[simp] theorem length_cells (t : Tape) : t.cells.length = t.left.length + t.right.length + 1 := by
  simp [cells]
  omega

theorem head_lt_length_cells (t : Tape) : t.head < t.cells.length := by
  simp only [head, length_cells]
  omega

theorem getElem?_cells_head (t : Tape) : t.cells[t.head]? = some t.read := by
  simp [cells, head, read]

@[simp] theorem cells_ofCells (blank : Symbol) (cells : List Symbol) :
    (ofCells blank cells).cells = if cells = [] then [blank] else cells := by
  cases cells <;> rfl

@[simp] theorem head_ofCells (blank : Symbol) (cells : List Symbol) :
    (ofCells blank cells).head = 0 := by
  cases cells <;> rfl

@[simp] theorem cells_write (t : Tape) (s : Symbol) : (t.write s).cells = t.cells.set t.head s := by
  simp [cells, head, write]

@[simp] theorem head_write (t : Tape) (s : Symbol) : (t.write s).head = t.head := rfl

/-- Moving right from the last stored cell adds a blank one behind it. -/
theorem cells_moveRight (t : Tape) :
    t.moveRight.cells = if t.head + 1 = t.cells.length then t.cells ++ [t.blank] else t.cells := by
  obtain ⟨blank, left, focus, right⟩ := t
  cases right <;> simp [moveRight, cells, head]

@[simp] theorem head_moveRight (t : Tape) : t.moveRight.head = t.head + 1 := by
  obtain ⟨blank, left, focus, right⟩ := t
  cases right <;> rfl

/-- Moving left from the first stored cell adds a blank one before it. -/
theorem cells_moveLeft (t : Tape) :
    t.moveLeft.cells = if t.head = 0 then t.blank :: t.cells else t.cells := by
  obtain ⟨blank, left, focus, right⟩ := t
  cases left <;> simp [moveLeft, cells, head]

@[simp] theorem head_moveLeft (t : Tape) : t.moveLeft.head = t.head - 1 := by
  obtain ⟨blank, left, focus, right⟩ := t
  cases left <;> simp [moveLeft, head]

/-! ### Access -/

/-- Whether a tape may be written: the input tape may not. -/
inductive Access where
  /-- Reading and moving only. -/
  | readOnly
  /-- Reading, moving and writing. -/
  | readWrite
  deriving DecidableEq, Repr

/-- The refusal to write the input tape. -/
inductive WriteError where
  /-- The tape is read-only. -/
  | readOnly
  deriving DecidableEq, Repr

/-- The wording of the refusal. -/
def WriteError.message : WriteError → Text
  | .readOnly => "The input tape is read-only.".toText

/-- Writes a tape if its access allows that. -/
def writeAs (access : Access) (t : Tape) (s : Symbol) : Except WriteError Tape :=
  match access with
  | .readOnly => .error .readOnly
  | .readWrite => .ok (t.write s)

end Tape

end MultiTape
