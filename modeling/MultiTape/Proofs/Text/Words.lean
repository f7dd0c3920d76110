import MultiTape.Text.Basic
import Mathlib.Data.List.TakeWhile

/-!
# Words and the gaps around them

A line is words with gaps of blank characters before, between and after them. `Spaced ws t` says so
without cutting anything: `t` shows the words `ws` and nothing else. Cutting a text into words is
the same relation read from the other side, so only the words of a line matter, not its gaps.

## Main definitions

* `Text.IsGap`, `Text.IsWord`: texts of blank characters, and non-empty texts without any
* `Text.Spaced`: a text that consists of given words and gaps
* `Text.unwords`: given words with single spaces between them

## Main results

* `Text.words_eq_iff`: a text has the words `ws` exactly when it is `ws`, spaced
* `Text.words_trim`, `Text.trim_of_words_eq`: the words and the trimmed text determine each other
  for a single word
* `Text.words_unwords`: words survive being written and cut again
* `Text.trimBy_append`, `Text.exists_eq_append_trimBy`: what trimming takes away, and nothing else
-/

namespace MultiTape

namespace Text

variable {p : CodePoint → Bool} {c : CodePoint} {g t w rest : Text} {ws : List Text}

/-- Nothing but blank characters. -/
def IsGap (t : Text) : Prop := ∀ c ∈ t, isBlank c = true

/-- Something without blank characters. -/
def IsWord (t : Text) : Prop := t ≠ [] ∧ ∀ c ∈ t, isBlank c = false

-- The instance for lists is named, since another one goes through all characters there are.
instance : Decidable (IsWord t) :=
  @instDecidableAnd _ _ _ (List.decidableBAll (fun c => isBlank c = false) t)

theorem isGap_nil : IsGap [] := by simp [IsGap]

theorem isGap_append {s : Text} : IsGap (s ++ t) ↔ IsGap s ∧ IsGap t := by
  simp [IsGap, or_imp, forall_and]

/-! ### Trimming -/

theorem head?_append_of_ne_nil (h : t ≠ []) : (t ++ rest).head? = t.head? := by
  obtain ⟨c, t, rfl⟩ := List.exists_cons_of_ne_nil h
  rfl

/-- What trimming leaves starts and ends with a character that stays. -/
theorem trimBy_append {pre post : Text} (hpre : ∀ c ∈ pre, p c) (hpost : ∀ c ∈ post, p c)
    (hhead : ∀ c ∈ t.head?, p c = false) (hlast : ∀ c ∈ t.getLast?, p c = false) :
    trimBy p (pre ++ t ++ post) = t := by
  have hdrop : ∀ {s : Text}, (∀ c ∈ s.head?, p c = false) → s.dropWhile p = s := by
    intro s hs
    cases s with
    | nil => rfl
    | cons c s => simp [hs c (by simp)]
  rcases eq_or_ne t [] with rfl | ht
  · have hall : ∀ c ∈ pre ++ [] ++ post, p c := by
      intro c hc
      rcases List.mem_append.mp hc with h | h
      · exact hpre c (by simpa using h)
      · exact hpost c h
    rw [trimBy, List.dropWhile_eq_nil_iff.mpr hall]
    rfl
  · have hfront : (pre ++ t ++ post).dropWhile p = t ++ post := by
      rw [List.append_assoc, List.dropWhile_append_of_pos hpre]
      refine hdrop fun c hc => hhead c ?_
      rwa [head?_append_of_ne_nil ht] at hc
    have hback : (t ++ post).reverse.dropWhile p = t.reverse := by
      rw [List.reverse_append,
        List.dropWhile_append_of_pos fun c hc => hpost c (List.mem_reverse.mp hc)]
      exact hdrop fun c hc => hlast c (by rwa [List.head?_reverse] at hc)
    rw [trimBy, hfront, hback, List.reverse_reverse]

/-- Trimming takes characters that `p` accepts off both ends, until it meets one that `p` rejects.
-/
theorem exists_eq_append_trimBy (p : CodePoint → Bool) (t : Text) :
    ∃ pre post, t = pre ++ trimBy p t ++ post ∧ (∀ c ∈ pre, p c) ∧ (∀ c ∈ post, p c) ∧
      (∀ c ∈ (trimBy p t).head?, p c = false) ∧ ∀ c ∈ (trimBy p t).getLast?, p c = false := by
  have hpos : ∀ (s : Text), ∀ c ∈ s.takeWhile p, p c := fun s c hc => List.mem_takeWhile_imp hc
  have hneg : ∀ (s : Text), ∀ c ∈ (s.dropWhile p).head?, p c = false := by
    intro s c hc
    have := List.head?_dropWhile_not p s
    rw [Option.mem_def.mp hc] at this
    simpa using this
  set mid := t.dropWhile p with hmid
  have htrim : trimBy p t = (mid.reverse.dropWhile p).reverse := rfl
  have hsplit : mid = trimBy p t ++ (mid.reverse.takeWhile p).reverse := by
    rw [htrim, ← List.reverse_append, List.takeWhile_append_dropWhile, List.reverse_reverse]
  refine ⟨t.takeWhile p, (mid.reverse.takeWhile p).reverse, ?_, hpos t, ?_, ?_, ?_⟩
  · rw [List.append_assoc, ← hsplit, hmid, List.takeWhile_append_dropWhile]
  · intro c hc
    exact hpos _ c (List.mem_reverse.mp hc)
  · intro c hc
    refine hneg t c ?_
    have hne : trimBy p t ≠ [] := by
      rintro h
      simp [h] at hc
    rw [← hmid, hsplit, head?_append_of_ne_nil hne]
    exact hc
  · intro c hc
    rw [htrim, List.getLast?_reverse] at hc
    exact hneg _ c hc

/-! ### Cutting into words -/

theorem words_cons_of_isBlank (h : isBlank c = true) : words (c :: t) = words t := by
  rw [words.eq_def]
  exact if_pos h

theorem words_singleton (h : isBlank c = false) : words [c] = [[c]] := by
  rw [words.eq_def]
  exact if_neg (by simp [h])

theorem words_cons_cons {d : CodePoint} (h : isBlank c = false) :
    words (c :: d :: t) = if isBlank d then [c] :: words (d :: t) else
      match words (d :: t) with
      | [] => [[c]]
      | word :: more => (c :: word) :: more := by
  rw [words.eq_def]
  exact if_neg (by simp [h])

/-- A word reaches as far as there is no blank character. -/
theorem words_cons (h : isBlank c = false) :
    words (c :: t) = (c :: t.takeWhile (!isBlank ·)) :: words (t.dropWhile (!isBlank ·)) := by
  induction t generalizing c with
  | nil => exact words_singleton h
  | cons d t ih =>
    rw [words_cons_cons h]
    by_cases hd : isBlank d = true
    · rw [if_pos hd, List.takeWhile_cons_of_neg (by simp [hd]),
        List.dropWhile_cons_of_neg (by simp [hd])]
    · rw [if_neg hd, List.takeWhile_cons_of_pos (by simp [hd]),
        List.dropWhile_cons_of_pos (by simp [hd]), ih (by simpa using hd)]

theorem words_gap_append (hg : IsGap g) : words (g ++ t) = words t := by
  induction g with
  | nil => rfl
  | cons c g ih =>
    rw [List.cons_append, words_cons_of_isBlank (hg c (by simp))]
    exact ih fun d hd => hg d (by simp [hd])

theorem words_word_append (hw : IsWord w) (hrest : ∀ c ∈ rest.head?, isBlank c = true) :
    words (w ++ rest) = w :: words rest := by
  obtain ⟨c, w, rfl⟩ := List.exists_cons_of_ne_nil hw.1
  have hpos : ∀ d ∈ w, (!isBlank d) = true := fun d hd => by simp [hw.2 d (by simp [hd])]
  have hstop : rest.takeWhile (!isBlank ·) = [] ∧ rest.dropWhile (!isBlank ·) = rest := by
    cases rest with
    | nil => exact ⟨rfl, rfl⟩
    | cons d rest => simp [hrest d (by simp)]
  rw [List.cons_append, words_cons (hw.2 c (by simp)), List.takeWhile_append_of_pos hpos,
    List.dropWhile_append_of_pos hpos, hstop.1, hstop.2, List.append_nil]

theorem IsWord.words_eq (hw : IsWord w) : words w = [w] := by
  have h : words (w ++ []) = w :: words [] := words_word_append hw (by simp)
  rwa [List.append_nil] at h

/-! ### Spaced words -/

/-- A text that shows the words `ws` in order: a gap, which may be empty, before the first word and
after the last, and a gap that is not empty between two words. -/
inductive Spaced : List Text → Text → Prop where
  /-- No words, only a gap. -/
  | gap {g : Text} (hg : IsGap g) : Spaced [] g
  /-- A gap, a word, and the rest, which starts with a blank character if it is not empty. -/
  | word {g w rest : Text} {ws : List Text} (hg : IsGap g) (hw : IsWord w)
      (hrest : ∀ c ∈ rest.head?, isBlank c = true) (h : Spaced ws rest) :
      Spaced (w :: ws) (g ++ w ++ rest)

theorem Spaced.words_eq (h : Spaced ws t) : words t = ws := by
  induction h with
  | @gap g hg =>
    have hwords : words (g ++ []) = [] := words_gap_append hg
    rwa [List.append_nil] at hwords
  | word hg hw hrest _ ih =>
    rw [List.append_assoc, words_gap_append hg, words_word_append hw hrest, ih]

theorem Spaced.gap_append (hg : IsGap g) (h : Spaced ws t) : Spaced ws (g ++ t) := by
  cases h with
  | gap hg' => exact .gap (isGap_append.mpr ⟨hg, hg'⟩)
  | word hg' hw hrest h =>
    rw [← List.append_assoc, ← List.append_assoc]
    exact .word (isGap_append.mpr ⟨hg, hg'⟩) hw hrest h

theorem Spaced.append_gap (hg : IsGap g) (h : Spaced ws t) : Spaced ws (t ++ g) := by
  induction h with
  | gap hg' => exact .gap (isGap_append.mpr ⟨hg', hg⟩)
  | @word _ _ rest _ hg' hw hrest _ ih =>
    rw [List.append_assoc]
    refine .word hg' hw (fun c hc => ?_) ih
    cases rest with
    | nil => exact hg c (List.mem_of_mem_head? hc)
    | cons d rest => exact hrest c hc

/-- Every text is its own words, spaced. -/
theorem spaced_words : ∀ t : Text, Spaced (words t) t
  | [] => .gap isGap_nil
  | c :: t => by
    by_cases hc : isBlank c
    · rw [words_cons_of_isBlank hc]
      exact (spaced_words t).gap_append (g := [c]) (by simpa [IsGap] using hc)
    · rw [Bool.not_eq_true] at hc
      have hword : IsWord (c :: t.takeWhile (!isBlank ·)) := by
        refine ⟨by simp, fun d hd => ?_⟩
        rcases List.mem_cons.mp hd with rfl | hd
        · exact hc
        · simpa using List.mem_takeWhile_imp hd
      have hrest : ∀ d ∈ (t.dropWhile (!isBlank ·)).head?, isBlank d = true := by
        intro d hd
        have := List.head?_dropWhile_not (!isBlank ·) t
        rw [Option.mem_def.mp hd] at this
        simpa using this
      have hsplit : c :: t = [] ++ (c :: t.takeWhile (!isBlank ·)) ++ t.dropWhile (!isBlank ·) := by
        simp
      rw [words_cons hc, hsplit]
      exact .word isGap_nil hword hrest (spaced_words _)
termination_by t => t.length
decreasing_by
  · simp
  · exact Nat.lt_succ_of_le (List.length_dropWhile_le _ _)

/-- **Words and spacing are inverse.** -/
theorem words_eq_iff : words t = ws ↔ Spaced ws t := by
  constructor
  · rintro rfl
    exact spaced_words t
  · exact Spaced.words_eq

theorem isWord_of_mem_words (h : w ∈ words t) : IsWord w := by
  generalize hws : words t = ws at h
  have hspaced := words_eq_iff.mp hws
  clear hws
  induction hspaced with
  | gap => simp at h
  | word _ hw _ _ ih =>
    rcases List.mem_cons.mp h with rfl | h
    · exact hw
    · exact ih h

theorem words_append_gap (hg : IsGap g) : words (t ++ g) = words t :=
  ((spaced_words t).append_gap hg).words_eq

@[simp] theorem words_trim (t : Text) : words (trim t) = words t := by
  obtain ⟨pre, post, ht, hpre, hpost, -⟩ := exists_eq_append_trimBy isBlank t
  change t = pre ++ trim t ++ post at ht
  calc words (trim t)
      = words (pre ++ trim t ++ post) := by
          rw [words_append_gap hpost, words_gap_append hpre]
    _ = words t := by rw [← ht]

theorem trim_eq_nil_iff : trim t = [] ↔ words t = [] := by
  constructor
  · intro h
    rw [← words_trim, h]
    rfl
  · intro h
    cases words_eq_iff.mp h with
    | gap hg => simpa [trim] using trimBy_append (t := []) hg (by simp : ∀ c ∈ [], isBlank c)

/-- A line of a single word is that word when trimmed. -/
theorem trim_of_words_eq (h : words t = [w]) : trim t = w := by
  cases words_eq_iff.mp h with
  | word hg hw _ hrest =>
    cases hrest with
    | gap hg' =>
      exact trimBy_append hg hg' (fun c hc => hw.2 c (List.mem_of_mem_head? hc))
        fun c hc => hw.2 c (List.mem_of_mem_getLast? hc)

/-- The first character that is not blank, found by cutting or by trimming. -/
theorem head?_trim (t : Text) : (trim t).head? = (words t).head?.bind List.head? := by
  rw [← words_trim]
  obtain ⟨-, -, -, -, -, hhead, -⟩ := exists_eq_append_trimBy isBlank t
  cases htrim : trim t with
  | nil => rfl
  | cons c s =>
    have hc : isBlank c = false := hhead c (by rw [← trim, htrim]; rfl)
    rw [words_cons hc]
    rfl

/-! ### Writing words -/

/-- The line of some words, with a space between two of them. -/
def unwords (ws : List Text) : Text := List.intercalate [.char ' '] ws

theorem unwords_cons_cons (w w' : Text) (ws : List Text) :
    unwords (w :: w' :: ws) = w ++ .char ' ' :: unwords (w' :: ws) := by
  rw [unwords, List.intercalate_cons_cons]
  simp [unwords]

/-- **Writing words and cutting them again.** -/
theorem words_unwords (hws : ∀ w ∈ ws, IsWord w) : words (unwords ws) = ws := by
  induction ws with
  | nil => rfl
  | cons w ws ih =>
    rw [List.forall_mem_cons] at hws
    cases ws with
    | nil =>
      rw [unwords, List.intercalate_singleton]
      exact hws.1.words_eq
    | cons w' ws =>
      rw [unwords_cons_cons, words_word_append hws.1 (by simp; decide),
        words_cons_of_isBlank (by decide), ih hws.2]

end Text

end MultiTape
