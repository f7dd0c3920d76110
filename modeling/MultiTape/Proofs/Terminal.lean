import MultiTape.Terminal.Basic

/-!
# What the terminal shows as it is

The terminal is one of the consoles on which what is printed can be read off. A text without
brackets, backslashes and characters that move on to another column is shown as it is: escaping it
changes nothing, its characters open no tag, and all of them are laid out.

## Main definitions

* `Terminal.Plain`: the texts without such characters

## Main results

* `Terminal.console_shows`: the terminal shows them as they are
-/

namespace MultiTape

namespace Terminal

variable {t u : Text}

/-- No character of the text is a bracket, a backslash or a tab, or is left out. -/
def Plain (t : Text) : Prop :=
  ∀ c ∈ t, c ≠ .char '[' ∧ c ≠ .char '\\' ∧ c ≠ .char '\t' ∧ isDropped c = false

instance : DecidablePred Plain := fun t => inferInstanceAs (Decidable (∀ c ∈ t, _))

theorem layout_of_plain (ht : Plain t) : layout t = t := by
  have hfilter : t.filter (fun c => !isDropped c) = t :=
    List.filter_eq_self.mpr fun c hc => by rw [(ht c hc).2.2.2, Bool.not_false]
  have htabs (column : Nat) : expandTabs column t = t := by
    clear hfilter
    induction t generalizing column with
    | nil => rfl
    | cons c t ih =>
      obtain ⟨hc, ht⟩ := List.forall_mem_cons.mp ht
      rw [expandTabs, beq_eq_false_iff_ne.mpr hc.2.2.1, if_neg Bool.false_ne_true, ih ht, ih ht,
        ite_self]
  rw [layout, hfilter, htabs]

theorem escapeFrom_of_plain (ht : Plain t) : escapeFrom 0 t = t := by
  induction t with
  | nil => rfl
  | cons c t ih =>
    obtain ⟨hc, ht⟩ := List.forall_mem_cons.mp ht
    rw [escapeFrom, beq_eq_false_iff_ne.mpr hc.1, beq_eq_false_iff_ne.mpr hc.2.1, Bool.false_and,
      if_neg Bool.false_ne_true, if_neg Bool.false_ne_true, ih ht]
    rfl

theorem escape_of_plain (ht : Plain t) : escape t = t := by
  have hlast : .char '\\' ∉ t.reverse := fun h => (ht _ (List.mem_reverse.mp h)).2.1 rfl
  rw [escape, escapeFrom_of_plain ht]
  split
  · rfl
  · next heq => exact absurd (heq ▸ List.mem_cons_self) hlast
  · rfl

/-- Plain text is passed as it is. -/
theorem plainFrom_append (ht : Plain t) (u : Text) :
    plainFrom false 0 (t ++ u) = t ++ plainFrom false 0 u := by
  induction t with
  | nil => rfl
  | cons c t ih =>
    obtain ⟨hc, ht⟩ := List.forall_mem_cons.mp ht
    rw [List.cons_append, plainFrom, if_neg Bool.false_ne_true, beq_eq_false_iff_ne.mpr hc.2.1,
      if_neg Bool.false_ne_true, beq_eq_false_iff_ne.mpr hc.1, if_neg Bool.false_ne_true, ih ht]
    rfl

theorem plain_markUp (style : Console.Style) (ht : Plain (u ++ t)) :
    plain (console.markUp style u t) = u ++ t := by
  have hescape : console.escape t = t :=
    escape_of_plain fun c hc => ht c (List.mem_append_right u hc)
  have hmarked : console.markUp style u t =
      ("[".toText ++ style.name ++ "]".toText) ++
        (u ++ t ++ ("[/".toText ++ style.name ++ "]".toText)) := by
    rw [Console.markUp, hescape]
    simp only [List.append_assoc]
  have hopen (v : Text) :
      plain ("[".toText ++ style.name ++ "]".toText ++ v) = plainFrom false 0 v := by
    cases style <;> rfl
  have hclose : plainFrom false 0 ("[/".toText ++ style.name ++ "]".toText) = [] := by
    cases style <;> rfl
  rw [hmarked, hopen, plainFrom_append ht, hclose, List.append_nil]

/-- **The terminal shows plain texts as they are.** -/
theorem console_shows : console.Shows Plain where
  layout_eq _ := layout_of_plain
  layoutMarkup_eq style _ _ _ _ ht :=
    (congrArg layout (plain_markUp style ht)).trans (layout_of_plain ht)

-- a bell is not shown
example : console.print [.ofNat 7, .ofNat 7] = "\n".toText := by decide

end Terminal

end MultiTape
