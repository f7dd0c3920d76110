import MultiTape.Text.Basic

/-!
# Tables

A table has a title, columns with headers, and rows of marked-up cells. How it is drawn is left to
the console.
-/

namespace MultiTape

/-- How the cells of a column are placed. -/
inductive Alignment where
  /-- At the left. -/
  | left
  /-- In the middle; an odd space goes to the right. -/
  | center
  deriving DecidableEq, Repr

/-- The name of an alignment. -/
def Alignment.name : Alignment → Text
  | .left => "left".toText
  | .center => "center".toText

/-- A column of a table. -/
structure Column where
  /-- The text above the column. -/
  header : Text
  /-- How its cells are placed. -/
  alignment : Alignment
  deriving DecidableEq, Repr

/-- A table. -/
structure Table where
  /-- The text above the table. -/
  title : Text
  /-- The columns. -/
  columns : List Column
  /-- The rows, with a marked-up cell for each column. -/
  rows : List (List Text)
  deriving DecidableEq, Repr

end MultiTape
