import MultiTape.Proofs.Text.Words
import Mathlib.Data.List.Basic

/-!
# Lines and texts

A list of lines becomes a text when each line is ended by a line feed. Cutting that text gives the
lines back, provided that none of them holds a line break of its own; and the lines that a text is
cut into never do.

## Main definitions

* `Text.unlines`: the text of some lines
* `Text.IsLine`: a text without line breaks

## Main results

* `Text.lines_unlines`, `Text.lines_intercalate`: lines survive being written and cut again
* `Text.isLine_of_mem_lines`: what a text is cut into are lines
* `Text.isLine_of_isBlank_eq_false`: texts without blank characters are lines
-/

namespace MultiTape

namespace Text

variable {c : CodePoint} {l t : Text} {ls ws : List Text}

/-- The text of some lines, each of them ended by a line feed. -/
def unlines (ls : List Text) : Text := ls.flatMap fun l => l ++ [.char '\n']

/-- A text without line breaks. -/
def IsLine (t : Text) : Prop := ∀ c ∈ t, isLineBreak c = false

-- As for words, only the characters of the text are to be looked at.
instance : Decidable (IsLine t) := List.decidableBAll (fun c => isLineBreak c = false) t

/-- A character that ends no line belongs to the first line. -/
theorem lines_cons {c : CodePoint} (hc : isLineBreak c = false) :
    lines (c :: t) = match lines t with
      | [] => [[c]]
      | line :: more => (c :: line) :: more := by
  have hr : ∀ rest : Text, c = '\r' → t = .char '\n' :: rest → False := by
    rintro rest rfl
    exact absurd hc (by decide)
  exact (lines.eq_3 c t hr).trans (if_neg (by simp [hc]))

theorem lines_append_lineFeed (hl : IsLine l) (t : Text) :
    lines (l ++ .char '\n' :: t) = l :: lines t := by
  induction l with
  | nil => rfl
  | cons c l ih =>
    rw [List.cons_append, lines_cons (hl c (by simp)), ih fun d hd => hl d (by simp [hd])]

/-- **Writing lines and cutting them again.** -/
theorem lines_unlines (hls : ∀ l ∈ ls, IsLine l) : lines (unlines ls) = ls := by
  induction ls with
  | nil => rfl
  | cons l ls ih =>
    rw [List.forall_mem_cons] at hls
    have happend : unlines (l :: ls) = l ++ .char '\n' :: unlines ls := by simp [unlines]
    rw [happend, lines_append_lineFeed hls.1, ih hls.2]

theorem isLine_of_mem_lines (hl : l ∈ lines t) : IsLine l := by
  fun_induction lines t generalizing l with
  | case1 => simp at hl
  | case2 rest ih =>
    rcases List.mem_cons.mp hl with rfl | hl
    · simp [IsLine]
    · exact ih hl
  | case3 c rest _ hbreak ih =>
    rcases List.mem_cons.mp hl with rfl | hl
    · simp [IsLine]
    · exact ih hl
  | case4 c rest _ hbreak hrest ih =>
    obtain rfl := List.mem_singleton.mp hl
    simpa [IsLine] using hbreak
  | case5 c rest _ hbreak line more hrest ih =>
    rw [hrest] at ih
    rcases List.mem_cons.mp hl with rfl | hl
    · intro d hd
      rcases List.mem_cons.mp hd with rfl | hd
      · simpa using hbreak
      · exact ih (List.mem_cons_self ..) d hd
    · exact ih (List.mem_cons_of_mem _ hl)

/-- The first lines of a text make a text of their own. -/
theorem lines_unlines_of_append {ls' : List Text} (h : lines t = ls ++ ls') :
    lines (unlines ls) = ls :=
  lines_unlines fun _ hl => isLine_of_mem_lines (h ▸ List.mem_append_left ls' hl)

/-- A line that is not empty need not be ended. -/
theorem lines_of_isLine (hl : IsLine l) (hne : l ≠ []) : lines l = [l] := by
  induction l with
  | nil => exact absurd rfl hne
  | cons c l ih =>
    rw [lines_cons (hl c (by simp))]
    rcases eq_or_ne l [] with rfl | hne
    · rfl
    · rw [ih (fun d hd => hl d (by simp [hd])) hne]

/-- Line feeds between lines, none of them empty, are enough to cut them again. -/
theorem lines_intercalate (hls : ∀ l ∈ ls, IsLine l ∧ l ≠ []) :
    lines (List.intercalate [.char '\n'] ls) = ls := by
  induction ls with
  | nil => rfl
  | cons l ls ih =>
    rw [List.forall_mem_cons] at hls
    cases ls with
    | nil =>
      rw [List.intercalate_singleton]
      exact lines_of_isLine hls.1.1 hls.1.2
    | cons l' ls =>
      rw [List.intercalate_cons_cons, List.append_assoc, List.singleton_append,
        lines_append_lineFeed hls.1.1, ih hls.2]

/-! ### Texts that are lines -/

/-- Line breaks are blank characters. -/
theorem isBlank_of_isLineBreak (h : isLineBreak c = true) : isBlank c = true := by
  simp only [isLineBreak, isBlank, Bool.or_eq_true, Bool.and_eq_true, decide_eq_true_eq,
    beq_iff_eq] at h ⊢
  omega

theorem isLine_of_isBlank_eq_false (h : ∀ c ∈ t, isBlank c = false) : IsLine t := by
  intro c hc
  by_contra hbreak
  rw [Bool.not_eq_false] at hbreak
  exact absurd (isBlank_of_isLineBreak hbreak) (by simp [h c hc])

theorem isLine_cons : IsLine (c :: t) ↔ isLineBreak c = false ∧ IsLine t := List.forall_mem_cons

theorem isLine_append {s : Text} : IsLine (s ++ t) ↔ IsLine s ∧ IsLine t := by
  simp [IsLine, or_imp, forall_and]

theorem isLine_intercalate {sep : Text} (hsep : IsLine sep) (hws : ∀ w ∈ ws, IsLine w) :
    IsLine (List.intercalate sep ws) := by
  induction ws with
  | nil => simp [IsLine]
  | cons w ws ih =>
    rw [List.forall_mem_cons] at hws
    cases ws with
    | nil =>
      rw [List.intercalate_singleton]
      exact hws.1
    | cons w' ws =>
      rw [List.intercalate_cons_cons, isLine_append, isLine_append]
      exact ⟨⟨hws.1, hsep⟩, ih hws.2⟩

end Text

end MultiTape
