import MultiTape.Proofs.Machine.Iteration
import MultiTape.Proofs.Text.Numeral

/-!
# The view of a machine

A view has a line for the active state and then two lines for each tape: its cells behind its name,
and a caret that is to stand below the head. The cells begin behind a name that is filled up to
three characters, and a space. The caret line does not look at the name: it begins with four spaces.
So the caret stands below the symbol under the head as long as the name has at most three
characters. Work tapes have their numbers for names, and from number 1000 on the caret falls short
of the symbol, by as many columns as the number has digits beyond the third.

Nothing else moves the caret away. However far the head has gone in either direction, it is on a
stored cell, and as long as all symbols are single characters, the index of that cell is its column
in the text.

## Main definitions

* `Config.namedTapes`: the tapes under the names that a view gives them
* `Machine.CaretShort`: the caret stands so many columns short of a symbol

## Main results

* `Machine.length_view`, `Machine.getElem?_view`: the lines of a view
* `Machine.view_caret`: where the carets stand
-/

namespace MultiTape

/-! ### Columns -/

namespace Text

variable {t : Text} {width : Nat}

theorem length_padLeft (fill : CodePoint) (width : Nat) (t : Text) :
    (padLeft fill width t).length = max width t.length := by
  rw [padLeft, List.length_append, List.length_replicate]
  omega

end Text

/-- If all symbols of a tape are single characters, the one under the head stands in the text of the
tape at the column of the head. -/
theorem Tape.exists_getElem?_text {t : Tape} (ht : t.Uses fun s => s.length = 1) :
    ∃ x, t.read = [x] ∧ t.text[t.head]? = some x := by
  have hcells : t.cells = t.text.map fun x => [x] := eq_map_flatten ht.2
  have hread := t.getElem?_cells_head
  rw [hcells, List.getElem?_map, Option.map_eq_some_iff] at hread
  obtain ⟨x, hx, hread⟩ := hread
  exact ⟨x, hread.symm, hx⟩

/-! ### The lines of a view -/

/-- The tapes under the names that a view gives them: the input tape first, then the work tapes
under their numbers. -/
def Config.namedTapes (c : Config) : List (Text × Tape) :=
  ("in".toText, c.input) :: c.work.zipIdx.map fun (tape, i) => (Text.decimal i, tape)

theorem Config.getElem?_namedTapes {c : Config} {tape : Tape} {i : Nat}
    (h : c.work[i]? = some tape) :
    c.namedTapes[i + 1]? = some (Text.decimal i, tape) := by
  rw [namedTapes, List.getElem?_cons_succ, List.getElem?_map, List.getElem?_zipIdx, h]
  simp

/-- Lists of two items each, one after the other. -/
theorem getElem?_flatMap_pair {α β : Type} (f g : α → β) (as : List α) (k : Nat) :
    (as.flatMap fun a => [f a, g a])[2 * k]? = as[k]?.map f ∧
      (as.flatMap fun a => [f a, g a])[2 * k + 1]? = as[k]?.map g := by
  induction as generalizing k with
  | nil => exact ⟨rfl, rfl⟩
  | cons a as ih =>
    cases k with
    | zero => exact ⟨rfl, rfl⟩
    | succ k => exact ih k

namespace Machine

variable {m : Machine} {c : Config} {name w : Text} {tape : Tape} {k n : Nat}

/-- The line with the cells of a tape. -/
def cellsLine (name : Text) (tape : Tape) : Text :=
  Text.padLeft ' ' 3 name ++ .char ' ' :: tape.text

/-- The line with the caret of a tape. -/
def caretLine (tape : Tape) : Text := "    ".toText ++ tape.caret

/-- Below the line of the active state there are two lines for each tape. -/
theorem exists_view_eq (m : Machine) (c : Config) :
    ∃ state, m.view c = state ::
      c.namedTapes.flatMap fun tape => [cellsLine tape.1 tape.2, caretLine tape.2] := by
  refine ⟨_, congrArg (List.cons _) ?_⟩
  rw [Config.namedTapes, List.flatMap_cons, List.flatMap_map]
  rfl

theorem length_view (m : Machine) (c : Config) :
    (m.view c).length = 1 + 2 * (c.work.length + 1) := by
  obtain ⟨state, h⟩ := exists_view_eq m c
  have hpairs (tapes : List (Text × Tape)) :
      (tapes.flatMap fun tape => [cellsLine tape.1 tape.2, caretLine tape.2]).length =
        2 * tapes.length := by
    rw [List.length_flatMap]
    simp [Nat.mul_comm]
  rw [h, List.length_cons, hpairs, Config.namedTapes, List.length_cons, List.length_map,
    List.length_zipIdx, Nat.add_comm]

/-- **The lines of a view** that belong to a tape. -/
theorem getElem?_view (h : c.namedTapes[k]? = some (name, tape)) :
    (m.view c)[2 * k + 1]? = some (cellsLine name tape) ∧
      (m.view c)[2 * k + 2]? = some (caretLine tape) := by
  obtain ⟨state, hview⟩ := exists_view_eq m c
  obtain ⟨hcells, hcaret⟩ := getElem?_flatMap_pair (fun tape : Text × Tape =>
    cellsLine tape.1 tape.2) (fun tape => caretLine tape.2) c.namedTapes k
  rw [h] at hcells hcaret
  rw [hview, List.getElem?_cons_succ, List.getElem?_cons_succ]
  exact ⟨hcells, hcaret⟩

/-! ### Carets -/

/-- The second line has its only caret so many columns short of a symbol in the first. -/
def CaretShort (short : Nat) (cells caret : Text) (s : Symbol) : Prop :=
  ∃ column x, caret = List.replicate column (.char ' ') ++ [.char '^'] ∧ s = [x] ∧
    cells[column + short]? = some x

/-- **The caret falls short** of the symbol under the head by what the name is too long for its
place. -/
theorem caretShort_lines (htape : tape.Uses fun s => s.length = 1) (name : Text) :
    CaretShort (name.length - 3) (cellsLine name tape) (caretLine tape) tape.read := by
  obtain ⟨x, hread, hx⟩ := tape.exists_getElem?_text htape
  refine ⟨4 + tape.head, x, ?_, hread, ?_⟩
  · rw [caretLine, Tape.caret, ← List.append_assoc, List.replicate_add]
    rfl
  · have hcolumn : 4 + tape.head + (name.length - 3) =
        (Text.padLeft ' ' 3 name).length + (1 + tape.head) := by
      rw [Text.length_padLeft]
      omega
    rw [hcolumn, cellsLine, List.getElem?_append_right (Nat.le_add_right _ _),
      Nat.add_sub_cancel_left, Nat.add_comm 1, List.getElem?_cons_succ, hx]

/-- **The caret marks the head** on the input tape and on the work tapes with numbers below 1000,
wherever a machine gets to from any word, if it writes only single characters. On the other work
tapes the caret stands left of the symbol under the head, by as many columns as their numbers have
digits beyond the third. -/
theorem view_caret (hm : ∀ t ∈ m.transitions, ∀ s ∈ t.writes, s.length = 1) (w : Text) (n : Nat)
    (hc : c = m.steps n (m.initial w)) :
    (m.view c).length = 1 + 2 * (c.work.length + 1) ∧
      (∃ cells caret, (m.view c)[1]? = some cells ∧ (m.view c)[2]? = some caret ∧
        CaretShort 0 cells caret c.input.read) ∧
      ∀ (i : Nat) (tape : Tape), c.work[i]? = some tape →
        ∃ cells caret, (m.view c)[2 * i + 3]? = some cells ∧ (m.view c)[2 * i + 4]? = some caret ∧
          (i < 1000 → CaretShort 0 cells caret tape.read) ∧
          (1000 ≤ i → 3 < (Text.decimal i).length ∧
            CaretShort ((Text.decimal i).length - 3) cells caret tape.read) := by
  have huses : ∀ tape ∈ c.input :: c.work, tape.Uses fun s => s.length = 1 := by
    rw [hc]
    exact uses_steps hm (uses_initial rfl fun _ _ => rfl) n
  rw [List.forall_mem_cons] at huses
  refine ⟨length_view m c, ?_, fun i tape htape => ?_⟩
  · obtain ⟨hcells, hcaret⟩ := getElem?_view (m := m) (c := c) (k := 0) rfl
    exact ⟨_, _, hcells, hcaret, caretShort_lines huses.1 _⟩
  · obtain ⟨hcells, hcaret⟩ := getElem?_view (m := m) (Config.getElem?_namedTapes htape)
    have hshort := caretShort_lines (huses.2 tape (List.mem_of_getElem? htape)) (Text.decimal i)
    have hlength : (Text.decimal i).length ≤ 3 ↔ i < 1000 :=
      Numeral.length_decimal_le_iff (by decide)
    refine ⟨_, _, hcells, hcaret, fun hi => ?_, fun hi => ⟨by omega, hshort⟩⟩
    rwa [Nat.sub_eq_zero_of_le (hlength.mpr hi)] at hshort

/-- A machine that goes right over letters `a` and left on its output tape, writing a `b` for
each. -/
def retreat : Machine where
  numTapes := 0
  start := 0
  startIndex := 0
  alphabet := .standard
  states := [⟨0, .running, [⟨0, ['a'], [['~']], 0, .right, [['b']], [.left]⟩]⟩]

/-- Its view after two steps. -/
def retreatView : List Text :=
  ["State: 0 (RUNNING), Halted: False".toText, " in aa~".toText, "      ^".toText,
    "  0 ~bb".toText, "    ^".toText]

/-- A machine with 1001 work tapes that does nothing. -/
def broad : Machine where
  numTapes := 1000
  start := 0
  startIndex := 0
  alphabet := .standard
  states := [⟨0, .halting, []⟩]

/-- After two steps the caret is below the last cell of the input tape and below the first of the
output tape. On a tape with number 1000 it is below the space before the cells. -/
theorem view_caret_retreat :
    retreat.view (retreat.steps 2 (retreat.initial ['a', 'a'])) = retreatView ∧
      CaretShort 0 " in aa~".toText "      ^".toText ['~'] ∧
      CaretShort 0 "  0 ~bb".toText "    ^".toText ['~'] ∧
      (broad.view (broad.initial []))[2003]? = some "1000 ~".toText ∧
      (broad.view (broad.initial []))[2004]? = some "    ^".toText ∧
      CaretShort 1 "1000 ~".toText "    ^".toText ['~'] ∧
      "1000 ~".toText[4]? = some (.char ' ') := by
  have hview : retreat.view (retreat.steps 2 (retreat.initial ['a', 'a'])) = retreatView := by
    decide +kernel
  have hretreat : ∀ t ∈ retreat.transitions, ∀ s ∈ t.writes, s.length = 1 := by decide
  have hbroad : ∀ t ∈ broad.transitions, ∀ s ∈ t.writes, s.length = 1 := nofun
  have htape : (broad.initial []).work[1000]? = some (Tape.ofCells ['~'] []) :=
    List.getElem?_replicate_of_lt (by decide)
  obtain ⟨-, ⟨cells, caret, hcells, hcaret, hinput⟩, hwork⟩ :=
    view_caret hretreat ['a', 'a'] 2 rfl
  obtain ⟨cells', caret', hcells', hcaret', houtput, -⟩ := hwork 0 _ rfl
  obtain ⟨-, -, hwide⟩ := view_caret hbroad [] 0 rfl
  obtain ⟨cells'', caret'', hcells'', hcaret'', -, hshort⟩ := hwide 1000 _ htape
  rw [hview] at hcells hcaret hcells' hcaret'
  obtain rfl := Option.some.inj hcells
  obtain rfl := Option.some.inj hcaret
  obtain rfl := Option.some.inj hcells'
  obtain rfl := Option.some.inj hcaret'
  obtain ⟨hline, hline'⟩ := getElem?_view (m := broad) (Config.getElem?_namedTapes htape)
  obtain rfl := Option.some.inj (hcells''.symm.trans hline)
  obtain rfl := Option.some.inj (hcaret''.symm.trans hline')
  exact ⟨hview, hinput, houtput (by decide), hline, hline', (hshort (Nat.le_refl _)).2, rfl⟩

end Machine

end MultiTape
