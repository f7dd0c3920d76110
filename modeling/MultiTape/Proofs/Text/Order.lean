import MultiTape.Text.Basic
import Mathlib.Data.List.Perm.Basic

/-!
# The order of texts

Texts are compared character by character, by code points, and a text comes before its
continuations. That is a linear order, so a list of texts has one sorted form: it forgets in which
order the texts were listed and nothing else.

## Main results

* `Text.le_total`, `Text.le_trans`, `Text.le_antisymm`: the order is linear
* `Text.sort_eq_sort_iff`: two lists have one sorted form exactly when they hold the same texts,
  each as often
-/

namespace MultiTape

namespace Text

variable {s t u : Text} {ss ts : List Text}

theorem cons_le_cons_iff {a b : CodePoint} :
    le (a :: s) (b :: t) = true ↔ a.toNat < b.toNat ∨ a = b ∧ le s t = true := by
  simp [le]

theorem le_total (s t : Text) : le s t = true ∨ le t s = true := by
  induction s generalizing t with
  | nil => exact .inl rfl
  | cons a s ih =>
    cases t with
    | nil => exact .inr rfl
    | cons b t =>
      rw [cons_le_cons_iff, cons_le_cons_iff]
      rcases Nat.lt_trichotomy a.toNat b.toNat with h | h | h
      · exact .inl (.inl h)
      · have hab : a = b := CodePoint.toNat_inj.mp h
        rcases ih t with h | h
        · exact .inl (.inr ⟨hab, h⟩)
        · exact .inr (.inr ⟨hab.symm, h⟩)
      · exact .inr (.inl h)

theorem le_trans (hst : le s t = true) (htu : le t u = true) : le s u = true := by
  induction s generalizing t u with
  | nil => rfl
  | cons a s ih =>
    cases t with
    | nil => exact absurd hst (by simp [le])
    | cons b t =>
      cases u with
      | nil => exact absurd htu (by simp [le])
      | cons c u =>
        rw [cons_le_cons_iff] at hst htu ⊢
        rcases hst with hab | ⟨rfl, hst⟩
        · rcases htu with hbc | ⟨rfl, -⟩
          · exact .inl (Nat.lt_trans hab hbc)
          · exact .inl hab
        · rcases htu with hac | ⟨rfl, htu⟩
          · exact .inl hac
          · exact .inr ⟨rfl, ih hst htu⟩

theorem le_antisymm (hst : le s t = true) (hts : le t s = true) : s = t := by
  induction s generalizing t with
  | nil =>
    cases t with
    | nil => rfl
    | cons b t => exact absurd hts (by simp [le])
  | cons a s ih =>
    cases t with
    | nil => exact absurd hst (by simp [le])
    | cons b t =>
      rw [cons_le_cons_iff] at hst hts
      rcases hst with hab | ⟨rfl, hst⟩
      · rcases hts with hba | ⟨rfl, -⟩
        · exact absurd hab (Nat.lt_asymm hba)
        · exact absurd hab (Nat.lt_irrefl _)
      · rcases hts with haa | ⟨-, hts⟩
        · exact absurd haa (Nat.lt_irrefl _)
        · rw [ih hst hts]

/-! ### Sorting -/

theorem sort_perm (ts : List Text) : (sort ts).Perm ts := List.mergeSort_perm ts le

theorem pairwise_sort (ts : List Text) : (sort ts).Pairwise fun s t => le s t = true := by
  have trans : ∀ s t u : Text, le s t = true → le t u = true → le s u = true :=
    fun _ _ _ => le_trans
  have total : ∀ s t : Text, (le s t || le t s) = true := fun s t => by
    rw [Bool.or_eq_true]
    exact le_total s t
  exact List.pairwise_mergeSort trans total ts

/-- **Sorting forgets the order of a list and nothing else.** -/
theorem sort_eq_sort_iff : sort ss = sort ts ↔ ss.Perm ts := by
  constructor
  · intro h
    exact ((sort_perm ss).symm.trans (.of_eq h)).trans (sort_perm ts)
  · intro h
    refine List.Perm.eq_of_pairwise (fun _ _ _ _ => le_antisymm) (pairwise_sort ss)
      (pairwise_sort ts) ?_
    exact ((sort_perm ss).trans h).trans (sort_perm ts).symm

end Text

end MultiTape
