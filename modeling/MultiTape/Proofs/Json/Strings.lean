import MultiTape.Json.Reader
import MultiTape.Json.Writer
import Mathlib.Data.List.Chain
import Mathlib.Tactic.SplitIfs

/-!
# Strings can be read back

The reader takes a string apart into pieces, characters and code units. Each character is written as
one piece or, above U+FFFF, as two code units that the reader puts together again. Half of a
surrogate pair is written as one code unit. So if a first half stands right before a second half,
the reader puts them together too, and that is all that is changed.

## Main definitions

* `Text.joinHalves`: a text with the halves that form a pair put together
* `Text.Unpaired`: no two halves in a text form a pair
* `Json.ReadsAs`: a part of a string is read as some pieces
* `Json.JoinsTo`: what pieces give, on their own and behind the first half of a pair

## Main results

* `Text.Unpaired.joinHalves_eq`: a text without such halves stays as it is
* `Json.exists_readsAs_writeChar`: every character is read back
* `Json.readString_writeString`: a string is read back with its halves put together
-/

namespace MultiTape

open Json (isHighSurrogate isLowSurrogate ofPair)

/-! ### Halves of pairs -/

namespace Text

variable {c d : CodePoint} {t : Text} {n : Nat}

/-- A text in which each first half of a surrogate pair that stands right before a second half is
put together with it. -/
def joinHalves : Text → Text
  | [] => []
  | [c] => [c]
  | c :: d :: rest =>
    if isHighSurrogate c.toNat && isLowSurrogate d.toNat then
      ofPair c.toNat d.toNat :: joinHalves rest
    else c :: joinHalves (d :: rest)

/-- No first half of a surrogate pair stands right before a second half. -/
def Unpaired (t : Text) : Prop :=
  t.IsChain fun c d => (isHighSurrogate c.toNat && isLowSurrogate d.toNat) = false

instance : DecidablePred Unpaired := fun t => inferInstanceAs (Decidable (t.IsChain _))

theorem isLowSurrogate_of_isHighSurrogate (h : isHighSurrogate n = true) :
    isLowSurrogate n = false := by
  simp only [isHighSurrogate, isLowSurrogate, Bool.and_eq_true, Bool.and_eq_false_iff,
    decide_eq_true_eq, decide_eq_false_iff_not] at h ⊢
  omega

/-- Neither kind of half lies outside of the range of halves. -/
theorem isSurrogate_eq_false (h : n < 0xd800 ∨ 0xdfff < n) :
    isHighSurrogate n = false ∧ isLowSurrogate n = false := by
  simp only [isHighSurrogate, isLowSurrogate, Bool.and_eq_false_iff, decide_eq_false_iff_not]
  omega

theorem joinHalves_cons (h : isHighSurrogate c.toNat = false) (t : Text) :
    joinHalves (c :: t) = c :: joinHalves t := by
  cases t with
  | nil => rfl
  | cons d t => rw [joinHalves, h, Bool.false_and, if_neg Bool.false_ne_true]

theorem joinHalves_cons_cons (h : isLowSurrogate d.toNat = false) (c : CodePoint) (t : Text) :
    joinHalves (c :: d :: t) = c :: joinHalves (d :: t) := by
  rw [joinHalves, h, Bool.and_false, if_neg Bool.false_ne_true]

/-- **A text stays as it is** unless two halves in it form a pair. -/
theorem Unpaired.joinHalves_eq (h : Unpaired t) : joinHalves t = t := by
  induction t with
  | nil => rfl
  | cons c t ih =>
    obtain ⟨hhead, htail⟩ := List.isChain_cons.mp h
    cases t with
    | nil => rfl
    | cons d t =>
      rw [joinHalves, hhead d rfl, if_neg Bool.false_ne_true, ih htail]

theorem unpaired_of_lt (h : ∀ c ∈ t, c.toNat < 0xd800) : Unpaired t := by
  refine (List.pairwise_of_forall_mem_list fun c hc _ _ => ?_).isChain
  rw [(isSurrogate_eq_false (.inl (h c hc))).1, Bool.false_and]

end Text

namespace Json

open Text (joinHalves joinHalves_cons joinHalves_cons_cons isSurrogate_eq_false
  isLowSurrogate_of_isHighSurrogate)

variable {c : CodePoint} {s t rest : Text} {ps qs : List Piece} {n : Nat}

/-- A text inside a string is read as some pieces, whatever follows it. -/
def ReadsAs (t : Text) (ps : List Piece) : Prop :=
  ∀ start pos rest, rest ≠ [] →
    ∃ pos', readPieces start pos (t ++ rest) = ps.foldr consPiece (readPieces start pos' rest)

theorem readsAs_nil : ReadsAs [] [] := fun _ pos _ _ => ⟨pos, rfl⟩

theorem ReadsAs.append (ht : ReadsAs t ps) (hs : ReadsAs s qs) : ReadsAs (t ++ s) (ps ++ qs) := by
  intro start pos rest hrest
  obtain ⟨pos₁, h₁⟩ := ht start pos (s ++ rest) (by simp [hrest])
  obtain ⟨pos₂, h₂⟩ := hs start pos₁ rest hrest
  exact ⟨pos₂, by rw [List.append_assoc, h₁, h₂, List.foldr_append]⟩

theorem readsAs_char (hn : 0x20 ≤ c.toNat) (hquote : c ≠ '"') (hslash : c ≠ '\\') :
    ReadsAs [c] [.char c] := by
  intro start pos rest _
  refine ⟨pos + 1, ?_⟩
  rw [List.singleton_append, readPieces, if_neg (by omega)]
  · rfl
  · exact hquote
  all_goals simp [hslash]

theorem readsAs_shortEscape {d : CodePoint} (hc : c ≠ 'u') (h : shortEscape? c = some d) :
    ReadsAs ['\\', c] [.char d] := by
  intro start pos rest _
  refine ⟨pos + 2, ?_⟩
  change readPieces start pos ('\\' :: c :: rest) = _
  rw [readPieces]
  · simp [hc, h]
  · simp [hc]

theorem hexDigit?_digitChar {d : Nat} (h : d < 16) : hexDigit? (.char d.digitChar) = some d := by
  have hdigits : ∀ d < 16, hexDigit? (.char d.digitChar) = some d := by decide
  exact hdigits d h

/-- Code units have four hexadecimal digits. -/
theorem hexadecimal_four (h : n < 0x10000) :
    Text.hexadecimal 4 n =
      [.char (n / 0x1000).digitChar, .char (n / 0x100 % 0x10).digitChar,
        .char (n / 0x10 % 0x10).digitChar, .char (n % 0x10).digitChar] := by
  rw [Text.hexadecimal, Text.padLeft, Text.digits, Nat.toDigits_eq_if (by decide)]
  split
  · rw [show n / 0x1000 = 0 by omega, show n / 0x100 % 0x10 = 0 by omega,
      show n / 0x10 % 0x10 = 0 by omega, show n % 0x10 = n by omega]
    rfl
  rw [Nat.toDigits_eq_if (by decide)]
  split
  · rw [show n / 0x1000 = 0 by omega, show n / 0x100 % 0x10 = 0 by omega,
      show n / 0x10 % 0x10 = n / 0x10 by omega]
    rfl
  rw [Nat.toDigits_eq_if (by decide)]
  split
  · rw [show n / 0x1000 = 0 by omega, show n / 0x100 % 0x10 = n / 0x10 / 0x10 by omega]
    rfl
  · rw [Nat.toDigits_of_lt_base (by omega), show n / 0x1000 = n / 0x10 / 0x10 / 0x10 by omega,
      show n / 0x100 % 0x10 = n / 0x10 / 0x10 % 0x10 by omega]
    rfl

theorem readsAs_unitEscape (h : n < 0x10000) : ReadsAs (unitEscape n) [.unit n] := by
  intro start pos rest hrest
  refine ⟨pos + 6, ?_⟩
  have hvalue : hexValue? (.char (n / 0x1000).digitChar) (.char (n / 0x100 % 0x10).digitChar)
      (.char (n / 0x10 % 0x10).digitChar) (.char (n % 0x10).digitChar) = some n := by
    rw [hexValue?, hexDigit?_digitChar (by omega), hexDigit?_digitChar (by omega),
      hexDigit?_digitChar (by omega), hexDigit?_digitChar (by omega)]
    simp only [Option.bind_eq_bind, Option.bind_some, Option.pure_def, Option.some.injEq]
    omega
  rw [unitEscape, hexadecimal_four h]
  simp only [List.cons_append, List.nil_append]
  rw [readPieces, hvalue]
  simp [hrest]

/-! ### Pieces put together

A first half waits for the piece after it. So what the pieces of the rest of a string give is said
in two ways: for the rest alone, and for the rest behind a first half. -/

/-- The pieces give the text with its halves put together, alone as well as behind the first half of
a pair. -/
def JoinsTo (ps : List Piece) (t : Text) : Prop :=
  joinPieces none ps = joinHalves t ∧
    ∀ n, isHighSurrogate n = true → joinPieces (some n) ps = joinHalves (.ofNat n :: t)

theorem joinsTo_nil : JoinsTo [] [] := ⟨rfl, fun _ _ => rfl⟩

theorem JoinsTo.char (h : JoinsTo ps t) (hc : c.toNat < 0xd800) :
    JoinsTo (.char c :: ps) (c :: t) := by
  obtain ⟨hhigh, hlow⟩ := isSurrogate_eq_false (.inl hc)
  refine ⟨?_, fun n _ => ?_⟩
  · rw [joinPieces, h.1, joinHalves_cons hhigh]
  · rw [joinPieces, h.1, joinHalves_cons_cons hlow, joinHalves_cons hhigh]

theorem JoinsTo.unit (h : JoinsTo ps t) (hn : n < 0x10000) :
    JoinsTo (.unit n :: ps) (.ofNat n :: t) := by
  have hnat : (CodePoint.ofNat n).toNat = n := CodePoint.toNat_ofNat hn
  cases hhigh : isHighSurrogate n with
  | true =>
    have hlow := isLowSurrogate_of_isHighSurrogate hhigh
    refine ⟨?_, fun m _ => ?_⟩
    · rw [joinPieces, if_pos hhigh, h.2 n hhigh]
    · rw [joinPieces, hlow, if_neg Bool.false_ne_true, if_pos hhigh, h.2 n hhigh,
        joinHalves_cons_cons (by rwa [hnat])]
  | false =>
    have halone : joinHalves (.ofNat n :: t) = .ofNat n :: joinHalves t :=
      joinHalves_cons (by rwa [hnat]) t
    refine ⟨?_, fun m hmhigh => ?_⟩
    · rw [joinPieces, hhigh, if_neg Bool.false_ne_true, h.1, halone]
    · have hm : (CodePoint.ofNat m).toNat = m := CodePoint.toNat_ofNat (by
        simp only [isHighSurrogate, Bool.and_eq_true, decide_eq_true_eq] at hmhigh
        omega)
      rw [joinPieces, hhigh]
      cases hlow : isLowSurrogate n with
      | true =>
        rw [if_pos rfl, joinHalves, hnat, hm, hmhigh, hlow, h.1]
        rfl
      | false =>
        rw [if_neg Bool.false_ne_true, if_neg Bool.false_ne_true, h.1,
          joinHalves_cons_cons (by rwa [hnat]), halone]

/-- Two code units that form a pair give one character, which is no half of another. -/
theorem JoinsTo.pair {high low : Nat} (h : JoinsTo ps t) (hhigh : isHighSurrogate high = true)
    (hlow : isLowSurrogate low = true) (hc : ofPair high low = c) (hbeyond : 0xdfff < c.toNat) :
    JoinsTo (.unit high :: .unit low :: ps) (c :: t) := by
  obtain ⟨hcHigh, hcLow⟩ := isSurrogate_eq_false (.inr hbeyond)
  have hpair : joinPieces (some high) (.unit low :: ps) = joinHalves (c :: t) := by
    rw [joinPieces, if_pos hlow, hc, h.1, joinHalves_cons hcHigh]
  refine ⟨?_, fun n _ => ?_⟩
  · rw [joinPieces, if_pos hhigh, hpair]
  · rw [joinPieces, isLowSurrogate_of_isHighSurrogate hhigh, if_neg Bool.false_ne_true,
      if_pos hhigh, hpair, joinHalves_cons_cons hcLow]

/-- **Every character is read back**, also from an escape or a pair of them, and every half. -/
theorem exists_readsAs_writeChar (h : JoinsTo qs t) (c : CodePoint) :
    ∃ ps, ReadsAs (writeChar c) ps ∧ JoinsTo (ps ++ qs) (c :: t) := by
  have hshort {d : CodePoint} (hd : d ≠ 'u') (hc : shortEscape? d = some c)
      (hsmall : c.toNat < 0xd800) : ∃ ps, ReadsAs ['\\', d] ps ∧ JoinsTo (ps ++ qs) (c :: t) :=
    ⟨_, readsAs_shortEscape hd hc, h.char hsmall⟩
  have hofNat {k : Nat} (hk : c.toNat = k) : CodePoint.ofNat k = c := by
    rw [← hk, CodePoint.ofNat_toNat]
  rw [writeChar]
  split_ifs with hself hfeed hreturn htab hback hform hvisible hbasic
  · rw [Bool.or_eq_true, beq_iff_eq, beq_iff_eq] at hself
    rcases hself with rfl | rfl
    · exact hshort (by decide) rfl (by decide)
    · exact hshort (by decide) rfl (by decide)
  · obtain rfl := beq_iff_eq.mp hfeed
    exact hshort (by decide) rfl (by decide)
  · obtain rfl := beq_iff_eq.mp hreturn
    exact hshort (by decide) rfl (by decide)
  · obtain rfl := beq_iff_eq.mp htab
    exact hshort (by decide) rfl (by decide)
  · rw [beq_iff_eq] at hback
    exact hshort (by decide) (congrArg some (hofNat hback)) (by omega)
  · rw [beq_iff_eq] at hform
    exact hshort (by decide) (congrArg some (hofNat hform)) (by omega)
  · rw [Bool.or_eq_true, not_or, beq_iff_eq, beq_iff_eq] at hself
    exact ⟨_, readsAs_char hvisible.1 hself.1 hself.2, h.char (by omega)⟩
  · have hunit := h.unit hbasic
    rw [CodePoint.ofNat_toNat] at hunit
    exact ⟨_, readsAs_unitEscape hbasic, hunit⟩
  · have hmax : c.toNat < 0x110000 := c.toNat_lt
    have hhigh : isHighSurrogate (0xd800 + (c.toNat - 0x10000) / 0x400) = true := by
      simp only [isHighSurrogate, Bool.and_eq_true, decide_eq_true_eq]
      omega
    have hlow : isLowSurrogate (0xdc00 + (c.toNat - 0x10000) % 0x400) = true := by
      simp only [isLowSurrogate, Bool.and_eq_true, decide_eq_true_eq]
      omega
    exact ⟨_, (readsAs_unitEscape (by omega)).append (readsAs_unitEscape (by omega)),
      h.pair hhigh hlow (hofNat (by omega)) (by omega)⟩

theorem exists_readsAs_flatMap (t : Text) :
    ∃ ps, ReadsAs (t.flatMap writeChar) ps ∧ JoinsTo ps t := by
  induction t with
  | nil => exact ⟨[], readsAs_nil, joinsTo_nil⟩
  | cons c t ih =>
    obtain ⟨qs, hqs, hjoins⟩ := ih
    obtain ⟨ps, hps, hjoins⟩ := exists_readsAs_writeChar hjoins c
    exact ⟨ps ++ qs, hps.append hqs, hjoins⟩

theorem foldr_consPiece (ps qs : List Piece) (next : Cursor) :
    ps.foldr consPiece (.ok (qs, next)) = .ok (ps ++ qs, next) := by
  induction ps with
  | nil => rfl
  | cons p ps ih =>
    rw [List.foldr_cons, ih]
    rfl

/-- **A string is read back** with its halves put together, whatever its characters and whatever
follows it. -/
theorem readString_writeString (t rest : Text) (start : Nat) :
    ∃ pos, readString start (t.flatMap writeChar ++ .char '"' :: rest) =
      .ok (joinHalves t, ⟨rest, pos⟩) := by
  obtain ⟨ps, hps, hjoins⟩ := exists_readsAs_flatMap t
  obtain ⟨pos, hpos⟩ := hps start (start + 1) (.char '"' :: rest) (by simp)
  have hclose : readPieces start pos (.char '"' :: rest) = .ok ([], ⟨rest, pos + 1⟩) := rfl
  refine ⟨pos + 1, ?_⟩
  rw [readString, hpos, hclose, foldr_consPiece, List.append_nil]
  exact congrArg (fun t => Except.ok (t, _)) hjoins.1

end Json

end MultiTape
