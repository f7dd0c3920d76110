import MultiTape.Console
import MultiTape.Terminal.CellWidth

/-!
# A terminal

One console, on which the simulator can be used and tried out: a terminal without colours and of
unlimited width. It leaves a few control characters out, and a tab runs on to the next column that
is a multiple of eight. It folds no lines and knows no names of pictures, as other consoles do.
Tables are drawn with box characters; a column is as wide as its widest cell or header, and there is
a space on either side.

## Main definitions

* `Terminal.escape`, `Terminal.plain`: escaped text, and what marked-up text shows
* `Terminal.layout`: how text is laid out
* `Terminal.draw`: the lines of a table
* `Terminal.console`: the terminal
-/

namespace MultiTape

namespace Terminal

/-! ### Markup -/

/-- The characters that may start the name of a tag. -/
def startsTag (c : CodePoint) : Bool :=
  ('a' ≤ c && c ≤ 'z') || c == '#' || c == '/' || c == '@'

/-- Whether the text after an opening bracket goes on as a tag, up to a closing bracket before the
next opening one. -/
def opensTag : Text → Bool
  | c :: rest =>
    startsTag c && (rest.find? fun d => d == .char ']' || d == .char '[') == some (.char ']')
  | [] => false

/-- Escapes a text, `backslashes` of them having been passed and not yet written: those before a tag
are doubled and one more is added. -/
def escapeFrom (backslashes : Nat) : Text → Text
  | [] => List.replicate backslashes (.char '\\')
  | c :: rest =>
    if c == '\\' then escapeFrom (backslashes + 1) rest
    else if c == '[' && opensTag rest then
      List.replicate (2 * backslashes + 1) (.char '\\') ++ c :: escapeFrom 0 rest
    else List.replicate backslashes (.char '\\') ++ c :: escapeFrom 0 rest

/-- A text marked up so that it shows as it is. A single backslash at the end is doubled, so that it
does not escape a tag that follows. -/
def escape (t : Text) : Text :=
  let t := escapeFrom 0 t
  match t.reverse with
  | '\\' :: '\\' :: _ => t
  | '\\' :: _ => t ++ [.char '\\']
  | _ => t

/-- What a marked-up text shows. `inTag` says whether a tag is being passed; `backslashes` of them
have been passed and not yet shown. -/
def plainFrom (inTag : Bool) (backslashes : Nat) : Text → Text
  | [] => List.replicate backslashes (.char '\\')
  | c :: rest =>
    if inTag then plainFrom (c != ']') 0 rest
    else if c == '\\' then plainFrom false (backslashes + 1) rest
    else if c == '[' then
      if opensTag rest then
        List.replicate (backslashes / 2) (.char '\\') ++
          if backslashes % 2 = 1 then c :: plainFrom false 0 rest else plainFrom true 0 rest
      else List.replicate (backslashes - 1) (.char '\\') ++ c :: plainFrom false 0 rest
    else List.replicate backslashes (.char '\\') ++ c :: plainFrom false 0 rest

/-- What a marked-up text shows: tags vanish, an escaped tag shows without its backslash, and a
backslash before a bracket that opens no tag is taken for an escape too. -/
def plain (t : Text) : Text := plainFrom false 0 t

/-! ### Layout -/

/-- The control characters that are left out: bell, backspace, vertical tab, form feed and carriage
return. -/
def isDropped (c : CodePoint) : Bool :=
  let n := c.toNat
  n == 7 || n == 8 || n == 11 || n == 12 || n == 13

/-- Replaces tabs by spaces up to the next multiple of eight columns, from a column on. -/
def expandTabs (column : Nat) : Text → Text
  | [] => []
  | c :: rest =>
    if c == '\t' then
      List.replicate (8 - column % 8) (.char ' ') ++ expandTabs (column + (8 - column % 8)) rest
    else if c == '\n' then c :: expandTabs 0 rest
    else c :: expandTabs (column + charWidth c) rest

/-- How a text without markup is laid out. -/
def layout (t : Text) : Text := expandTabs 0 (t.filter fun c => !isDropped c)

/-- What a marked-up text shows. -/
def shown (t : Text) : Text := layout (plain t)

/-- A text with spaces around it up to a number of terminal cells. -/
def place (alignment : Alignment) (width : Nat) (t : Text) : Text :=
  let excess := width - cellWidth t
  let before := match alignment with
    | .left => 0
    | .center => excess / 2
  List.replicate before (.char ' ') ++ t ++ List.replicate (excess - before) (.char ' ')

/-- The width of each column: that of its widest cell or header. -/
def columnWidths (t : Table) : List Nat :=
  t.rows.foldl
    (fun widths row =>
      widths.zipWith (fun width cell => max width (cellWidth (shown cell))) row)
    (t.columns.map fun column => cellWidth (shown column.header))

/-- A horizontal rule: its left end, what it is made of, what stands between columns, its right
end. -/
def rule (left fill between right : CodePoint) (widths : List Nat) : Text :=
  left :: List.intercalate [between] (widths.map fun width => List.replicate (width + 2) fill) ++
    [right]

/-- A row of cells between bars. -/
def drawRow (bar : CodePoint) (columns : List Column) (widths : List Nat) (cells : List Text) :
    Text :=
  let drawn := ((columns.zip widths).zip cells).map fun ((column, width), cell) =>
    .char ' ' :: place column.alignment width (shown cell) ++ [.char ' ']
  bar :: List.intercalate [bar] drawn ++ [bar]

/-- The lines of a table; the title is centred over its whole width. -/
def draw (t : Table) : List Text :=
  let widths := columnWidths t
  let width := widths.foldl (fun total width => total + width + 3) 1
  place .center width (shown t.title) ::
    rule '┏' '━' '┳' '┓' widths ::
    drawRow '┃' t.columns widths (t.columns.map Column.header) ::
    rule '┡' '━' '╇' '┩' widths ::
    t.rows.map (drawRow '│' t.columns widths) ++
    [rule '└' '─' '┴' '┘' widths]

/-- The terminal: of unlimited width, and without pictures. -/
def console : Console where
  escape := escape
  layout := layout
  layoutMarkup := shown
  printTable t := (draw t).flatMap fun line => line ++ [.char '\n']
  prompt := shown

end Terminal

end MultiTape
