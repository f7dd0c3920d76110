import MultiTape.Numeral
import MultiTape.Proofs.Text.Words
import Mathlib.Algebra.Group.Nat.Defs

/-!
# Numerals are single words

A text that reads as an integer is one word with gaps around it, and the word starts with a sign, a
digit or an underscore. So a numeral never starts a comment, and whether a trimmed line reads as an
integer depends on its words only.

Writing a number gives such a text again: digits only, and reading them gives the number back.

## Main results

* `Numeral.words_of_read_eq_ok`: a text that reads as an integer consists of a single word
* `Numeral.read_trim_eq_ok_iff`: a trimmed text reads as an integer when its only word does
* `Numeral.read_decimal`: a number that is written can be read
-/

namespace MultiTape

namespace Numeral

variable {b : Bool} {c : CodePoint} {t tail : Text} {digits : List Nat} {n : Nat} {v : Int}

theorem isBlank_of_isMargin (h : isMargin c) : Text.isBlank c = true := by
  simp only [isMargin, Bool.and_eq_true] at h
  exact h.1

/-! ### The characters of a numeral -/

/-- A character that may stand behind the sign of a numeral. -/
def IsDigitOrBar (c : CodePoint) : Prop := c = '_' ∨ ∃ d, Text.digit? c = some d

/-- No run of ten digits, given by its zero, holds a blank character. -/
theorem isBlank_digit : ∀ base ∈ Text.digitZeros, ∀ k < 10,
    Text.isBlank (.ofNat (base + k)) = false := by
  decide +kernel

theorem isBlank_of_digit? {d : Nat} (h : Text.digit? c = some d) : Text.isBlank c = false := by
  obtain ⟨base, hbase, hc⟩ := List.exists_of_findSome?_eq_some h
  have hrange : base ≤ c.toNat ∧ c.toNat < base + 10 := by
    by_contra hout
    simp [hout] at hc
  have := isBlank_digit base hbase (c.toNat - base) (by omega)
  rwa [show base + (c.toNat - base) = c.toNat by omega, CodePoint.ofNat_toNat] at this

theorem IsDigitOrBar.isBlank (h : IsDigitOrBar c) : Text.isBlank c = false := by
  rcases h with rfl | ⟨d, hd⟩
  · decide
  · exact isBlank_of_digit? hd

theorem IsDigitOrBar.ne_hash (h : IsDigitOrBar c) : c ≠ '#' := by
  rintro rfl
  rcases h with h | ⟨d, hd⟩
  · exact absurd h (by decide)
  · exact absurd hd (by decide +revert)

/-! ### Scanning -/

/-- Scanning takes digits and underscores off the front, at least one unless a digit came before. -/
theorem exists_of_scanDigits (h : scanDigits b t = some (digits, tail)) :
    ∃ core, t = core ++ tail ∧ (∀ c ∈ core, IsDigitOrBar c) ∧ (b = false → core ≠ []) := by
  induction t generalizing b digits with
  | nil =>
    cases b <;> simp [scanDigits] at h
    obtain ⟨rfl, rfl⟩ := h
    exact ⟨[], rfl, by simp, by simp⟩
  | cons c t ih =>
    -- Behind an underscore or a digit the scan goes on; any other character ends it.
    have goOn : IsDigitOrBar c → ∀ {b' digits'}, scanDigits b' t = some (digits', tail) →
        ∃ core, c :: t = core ++ tail ∧ (∀ c ∈ core, IsDigitOrBar c) ∧ (b = false → core ≠ []) := by
      intro hc b' digits' h'
      obtain ⟨core, rfl, hcore, -⟩ := ih h'
      refine ⟨c :: core, rfl, fun d hd => ?_, by simp⟩
      rcases List.mem_cons.mp hd with rfl | hd
      · exact hc
      · exact hcore d hd
    rw [scanDigits] at h
    split at h
    · next hbar =>
      split at h
      · exact goOn (.inl (by simpa using hbar)) h
      · simp at h
    · split at h
      · next d hd =>
        obtain ⟨⟨digits', tail'⟩, h', heq⟩ := Option.map_eq_some_iff.mp h
        obtain ⟨-, rfl⟩ := Prod.mk.inj heq
        exact goOn (.inr ⟨d, hd⟩) h'
      · cases b <;> simp at h
        obtain ⟨-, rfl⟩ := h
        exact ⟨[], rfl, by simp, by simp⟩

theorem exists_of_readNat (h : readNat t = .ok n) :
    ∃ core gap, t = core ++ gap ∧ core ≠ [] ∧ (∀ c ∈ core, IsDigitOrBar c) ∧ Text.IsGap gap := by
  rw [readNat] at h
  split at h
  · simp at h
  · next digits tail hscan =>
    obtain ⟨core, rfl, hcore, hne⟩ := exists_of_scanDigits hscan
    refine ⟨core, tail, rfl, hne rfl, hcore, ?_⟩
    split at h
    · simp at h
    · split at h
      · next hall => exact fun c hc => isBlank_of_isMargin (List.all_eq_true.mp hall c hc)
      · simp at h

/-! ### Reading -/

/-- **A numeral is a single word**, and it does not start as a comment does. -/
theorem words_of_read_eq_ok (h : read t = .ok v) :
    ∃ w, Text.words t = [w] ∧ w.head? ≠ some (.char '#') := by
  have hgap : Text.IsGap (t.takeWhile isMargin) := fun c hc =>
    isBlank_of_isMargin (List.mem_takeWhile_imp hc)
  have hwords : Text.words t = Text.words (t.dropWhile isMargin) := by
    rw [← Text.words_gap_append (t := t.dropWhile isMargin) hgap, List.takeWhile_append_dropWhile]
  -- The sign, if there is one, belongs to the word.
  have key : ∀ (sign : Text) {s : Text} {n : Nat}, (∀ c ∈ sign, Text.isBlank c = false ∧ c ≠ '#') →
      readNat s = .ok n → ∃ w, Text.words (sign ++ s) = [w] ∧ w.head? ≠ some (.char '#') := by
    intro sign s n hsign hs
    obtain ⟨core, gap, rfl, hne, hcore, hgap⟩ := exists_of_readNat hs
    have hword : Text.IsWord (sign ++ core) := by
      refine ⟨by simp [hne], fun c hc => ?_⟩
      rcases List.mem_append.mp hc with hc | hc
      · exact (hsign c hc).1
      · exact (hcore c hc).isBlank
    refine ⟨sign ++ core, ?_, fun hhash => ?_⟩
    · rw [← List.append_assoc, Text.words_append_gap hgap]
      exact hword.words_eq
    · rcases List.mem_append.mp (List.mem_of_mem_head? hhash) with hc | hc
      · exact (hsign _ hc).2 rfl
      · exact (hcore _ hc).ne_hash rfl
  have hsign : ∀ {sign : CodePoint}, Text.isBlank sign = false ∧ sign ≠ '#' →
      ∀ c ∈ [sign], Text.isBlank c = false ∧ c ≠ '#' := by
    intro sign h c hc
    rwa [List.mem_singleton.mp hc]
  have hread : ∀ {f : Nat → Int} {s : Text}, (readNat s).map f = .ok v →
      ∃ n, readNat s = .ok n := by
    intro f s hs
    cases hn : readNat s with
    | error e => simp [hn, Except.map] at hs
    | ok n => exact ⟨n, rfl⟩
  rw [read] at h
  rw [hwords]
  split at h
  all_goals obtain ⟨n, hn⟩ := hread h
  · next s heq =>
    rw [heq]
    exact key ['+'] (hsign (by decide)) hn
  · next s heq =>
    rw [heq]
    exact key ['-'] (hsign (by decide)) hn
  · exact key [] (by simp) hn

/-- Reading a trimmed text is reading its only word. -/
theorem read_trim_eq_ok_iff :
    read (Text.trim t) = .ok v ↔ ∃ w, Text.words t = [w] ∧ read w = .ok v := by
  constructor
  · intro h
    obtain ⟨w, hw, -⟩ := words_of_read_eq_ok h
    rw [Text.words_trim] at hw
    rw [Text.trim_of_words_eq hw] at h
    exact ⟨w, hw, h⟩
  · rintro ⟨w, hw, h⟩
    rwa [Text.trim_of_words_eq hw]

/-! ### Writing -/

/-- The digits that numbers are written with. -/
def IsDigit (c : CodePoint) : Prop := 0x30 ≤ c.toNat ∧ c.toNat ≤ 0x39

instance : DecidablePred IsDigit :=
  fun c => inferInstanceAs (Decidable (0x30 ≤ c.toNat ∧ c.toNat ≤ 0x39))

theorem IsDigit.digit?_eq (hc : IsDigit c) : Text.digit? c = some (c.toNat - '0'.toNat) := by
  have hrange : 0x30 ≤ c.toNat ∧ c.toNat < 0x30 + 10 := ⟨hc.1, Nat.lt_succ_of_le hc.2⟩
  rw [Text.digit?, Text.digitZeros, List.findSome?_cons, if_pos hrange]
  rfl

theorem IsDigit.isDigitOrBar (hc : IsDigit c) : IsDigitOrBar c := .inr ⟨_, hc.digit?_eq⟩

/-- A row of digits is scanned to its end. -/
theorem scanDigits_of_isDigit (ht : ∀ c ∈ t, IsDigit c) (hne : b = true ∨ t ≠ []) :
    scanDigits b t = some (t.map fun c => c.toNat - '0'.toNat, []) := by
  induction t generalizing b with
  | nil => simp [scanDigits, hne.resolve_right (by simp)]
  | cons c t ih =>
    rw [List.forall_mem_cons] at ht
    have hbar : (c == .char '_') = false := by
      rw [beq_eq_false_iff_ne]
      rintro rfl
      exact absurd ht.1 (by decide)
    rw [scanDigits, hbar, ht.1.digit?_eq, ih ht.2 (.inl rfl)]
    rfl

theorem ofDigits_decimal (n : Nat) :
    ofDigits ((Text.decimal (n : Int)).map fun c => c.toNat - '0'.toNat) = n := by
  have hdecimal : Text.decimal (n : Int) = Text.digits 10 n := rfl
  rw [hdecimal, Text.digits, ofDigits, List.map_map, List.foldl_map]
  exact Nat.ofDigitChars_ten_toDigits

theorem isDigit_of_mem_decimal (hc : c ∈ Text.decimal (n : Int)) : IsDigit c := by
  obtain ⟨d, hd, rfl⟩ := List.mem_map.mp hc
  exact Char.isDigit_iff_toNat.mp (Nat.isDigit_of_mem_toDigits (by decide) (by decide) hd)

theorem length_decimal (n : Nat) : (Text.decimal (n : Int)).length = (Nat.toDigits 10 n).length :=
  List.length_map ..

theorem length_decimal_le_iff {k : Nat} (hk : 0 < k) :
    (Text.decimal (n : Int)).length ≤ k ↔ n < 10 ^ k := by
  rw [length_decimal]
  exact Nat.length_toDigits_le_iff (by decide) hk

theorem decimal_ne_nil (n : Nat) : Text.decimal (n : Int) ≠ [] :=
  List.ne_nil_of_length_pos (length_decimal n ▸ Nat.length_toDigits_pos)

/-- **A number survives being written and read**, as long as a numeral may have that many digits. -/
theorem read_decimal (hn : n < 10 ^ maxDigits) : read (Text.decimal (n : Int)) = .ok (n : Int) := by
  have hdigit : ∀ c ∈ Text.decimal (n : Int), IsDigit c := fun c => isDigit_of_mem_decimal
  have hlength : (Text.decimal (n : Int)).length ≤ maxDigits :=
    (length_decimal_le_iff (by decide)).mpr hn
  have hnat : readNat (Text.decimal (n : Int)) = .ok n := by
    rw [readNat, scanDigits_of_isDigit hdigit (.inr (decimal_ne_nil n))]
    dsimp only
    rw [if_neg (by simpa using hlength), ofDigits_decimal, if_pos List.all_nil]
  obtain ⟨c, t, ht⟩ := List.exists_cons_of_ne_nil (decimal_ne_nil n)
  have hc : IsDigit c := hdigit c (by simp [ht])
  have hmargin : isMargin c = false := by
    rw [isMargin, hc.isDigitOrBar.isBlank, Bool.false_and]
  rw [ht] at hnat ⊢
  rw [read, List.dropWhile_cons_of_neg (by simp [hmargin])]
  split
  · next heq =>
    obtain ⟨rfl, -⟩ := List.cons.inj heq
    exact absurd hc (by decide)
  · next heq =>
    obtain ⟨rfl, -⟩ := List.cons.inj heq
    exact absurd hc (by decide)
  · rw [hnat]
    rfl

end Numeral

end MultiTape
