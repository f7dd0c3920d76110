import MultiTape.Proofs.Lists
import MultiTape.Proofs.Text.Lines
import MultiTape.Proofs.Text.Numeral

/-!
# Telling texts apart

Texts that are put one after the other can be found again when each of them shows where it ends. Two
texts are separate when no continuation of one is a continuation of the other, unless the two are
equal: single characters are, and numbers are once a comma follows them. Lists of texts that are
separate place by place can be told apart even when the texts contain the separator themselves.

## Main definitions

* `Text.Separate`: no continuation of one text is one of the other, unless they are equal

## Main results

* `Text.intercalate_append_inj`: lists of separate texts are told apart
* `Text.decimal_injective`, `Text.separate_decimal`: so are numbers
-/

namespace MultiTape

namespace Text

variable {s t u v sep : Text} {ss ts : List Text} {m n : Int} {c : CodePoint}

/-- No continuation of one text is a continuation of the other, unless the two are equal. -/
def Separate (s t : Text) : Prop := ∀ u v, s ++ u = t ++ v → s = t

theorem Separate.append_inj (h : Separate s t) (heq : s ++ u = t ++ v) : s = t ∧ u = v := by
  obtain rfl := h u v heq
  exact ⟨rfl, List.append_cancel_left heq⟩

theorem separate_of_length_eq (h : s.length = t.length) : Separate s t :=
  fun _ _ heq => (List.append_inj heq h).1

/-- **Lists of separate texts are told apart**, whatever follows them. -/
theorem intercalate_append_inj (h : List.Forall₂ Separate ss ts)
    (heq : List.intercalate sep ss ++ u = List.intercalate sep ts ++ v) : ss = ts ∧ u = v := by
  induction h with
  | nil => exact ⟨rfl, heq⟩
  | @cons s t ss ts hst htail ih =>
    cases htail with
    | nil =>
      rw [List.intercalate_singleton, List.intercalate_singleton] at heq
      obtain ⟨rfl, rfl⟩ := hst.append_inj heq
      exact ⟨rfl, rfl⟩
    | cons =>
      simp only [List.intercalate_cons_cons, List.append_assoc] at heq
      obtain ⟨rfl, hrest⟩ := hst.append_inj heq
      obtain ⟨htails, rfl⟩ := ih (List.append_cancel_left hrest)
      exact ⟨by rw [htails], rfl⟩

/-! ### Numbers -/

theorem exists_of_mem_digits {base k : Nat} (hbase : 1 < base) (hc : c ∈ digits base k) :
    ∃ d < base, c = .char d.digitChar := by
  induction k using Nat.strong_induction_on with
  | _ k ih =>
    rw [digits, Nat.toDigits_eq_if hbase] at hc
    split at hc
    · next hk => exact ⟨k, hk, List.mem_singleton.mp hc⟩
    · next hk =>
      rw [List.map_append, List.mem_append] at hc
      rcases hc with hc | hc
      · exact ih (k / base) (Nat.div_lt_self (by omega) hbase) hc
      · exact ⟨k % base, Nat.mod_lt _ (by omega), List.mem_singleton.mp hc⟩

theorem mem_decimal (hc : c ∈ decimal n) : Numeral.IsDigit c ∨ c = '-' := by
  cases n with
  | ofNat k => exact .inl (Numeral.isDigit_of_mem_decimal hc)
  | negSucc k =>
    rcases List.mem_cons.mp hc with rfl | hc
    · exact .inr rfl
    · exact .inl (Numeral.isDigit_of_mem_decimal (n := k + 1) hc)

theorem isLine_decimal (n : Int) : IsLine (decimal n) := by
  refine isLine_of_isBlank_eq_false fun c hc => ?_
  rcases mem_decimal hc with hdigit | rfl
  · exact hdigit.isDigitOrBar.isBlank
  · decide

theorem digits_injective : Function.Injective (digits 10) :=
  Function.Injective.comp (List.map_injective_iff.mpr fun _ _ => CodePoint.char.inj)
    (Function.LeftInverse.injective (g := fun t => Nat.ofDigitChars 10 t 0) fun _ =>
      Nat.ofDigitChars_ten_toDigits)

theorem decimal_injective : Function.Injective decimal := by
  have hsign (j k : Nat) : digits 10 j ≠ .char '-' :: digits 10 k := by
    intro h
    have hdigit : Numeral.IsDigit '-' :=
      Numeral.isDigit_of_mem_decimal (n := j) (show _ ∈ digits 10 j by simp [h])
    exact absurd hdigit (by decide)
  intro m n h
  match m, n with
  | .ofNat j, .ofNat k => rw [digits_injective h]
  | .ofNat j, .negSucc k => exact absurd h (hsign j (k + 1))
  | .negSucc j, .ofNat k => exact absurd h.symm (hsign k (j + 1))
  | .negSucc j, .negSucc k => rw [Nat.succ.inj (digits_injective (List.cons.inj h).2)]

/-- The comma after a number shows where it ends. -/
theorem separate_decimal (t : Text) :
    Separate (decimal m ++ .char ',' :: t) (decimal n ++ .char ',' :: t) := by
  have htake (n : Int) (u : Text) :
      (decimal n ++ .char ',' :: u).takeWhile (· != .char ',') = decimal n := by
    have hcomma : ∀ c ∈ decimal n, (c != .char ',') = true := by
      intro c hc
      rcases mem_decimal hc with hdigit | rfl
      · rw [bne_iff_ne]
        rintro rfl
        exact absurd hdigit (by decide)
      · rfl
    rw [List.takeWhile_append_of_pos hcomma, List.takeWhile_cons_of_neg (by simp), List.append_nil]
  intro u v heq
  rw [List.append_assoc, List.append_assoc, List.cons_append, List.cons_append] at heq
  rw [← htake m (t ++ u), heq, htake n]

end Text

end MultiTape
