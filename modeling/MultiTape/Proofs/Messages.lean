import MultiTape.Program.Format
import MultiTape.Proofs.Text.Separate

/-!
# Messages are lines

Whatever is wrong with a program text, the message about it is a line: the tokens it quotes have
their line breaks written as escapes, and all else in it is fixed or a number.

## Main results

* `Text.isLine_quoted`: a quoted text is a line, whatever it holds
* `Program.FormatError.isLine_message`: so is every message about a program text
-/

namespace MultiTape

namespace Text

variable {c : CodePoint} {t : Text} {n : Nat}

/-! ### Quoted text -/

theorem isLine_replicate (hc : isLineBreak c = false) (n : Nat) : IsLine (List.replicate n c) :=
  fun d hd => by rw [List.eq_of_mem_replicate hd, hc]

theorem isLineBreak_of_isPrintable (h : isPrintable c = true) : isLineBreak c = false := by
  by_contra hbreak
  have hcode : c.toNat < 0x20 ∨ c.toNat = 0x85 ∨ c.toNat = 0x2028 ∨ c.toNat = 0x2029 := by
    simp only [isLineBreak, Bool.not_eq_false, Bool.or_eq_true, Bool.and_eq_true,
      decide_eq_true_eq, beq_iff_eq] at hbreak
    omega
  rw [isPrintable] at h
  rcases hcode with hlt | heq | heq | heq
  · rw [if_pos (by omega), decide_eq_true_eq] at h
    omega
  all_goals
    rw [heq] at h
    exact absurd h (by decide +kernel)

theorem isLine_digits (n : Nat) : IsLine (digits 16 n) := by
  have hdigits : ∀ d < 16, isLineBreak (.char d.digitChar) = false := by decide
  intro c hc
  obtain ⟨d, hd, rfl⟩ := exists_of_mem_digits (by decide) hc
  exact hdigits d hd

theorem isLine_hexadecimal (width n : Nat) : IsLine (hexadecimal width n) :=
  isLine_append.mpr ⟨isLine_replicate (by decide) _, isLine_digits n⟩

theorem isLine_escapeChar {quote : CodePoint} (hquote : isLineBreak quote = false) (c : CodePoint) :
    IsLine (escapeChar quote c) := by
  have hpair (d : CodePoint) (hd : isLineBreak d = false) : IsLine ['\\', d] := by
    simpa [IsLine, hd] using (by decide : isLineBreak '\\' = false)
  have hcode (d : CodePoint) (hd : isLineBreak d = false) (width : Nat) :
      IsLine ('\\' :: d :: hexadecimal width c.toNat) :=
    isLine_cons.mpr ⟨by decide, isLine_cons.mpr ⟨hd, isLine_hexadecimal width _⟩⟩
  rw [escapeChar]
  split_ifs with hself hfeed hreturn htab hprint hsmall hmedium
  · refine hpair c ?_
    rw [Bool.or_eq_true, beq_iff_eq, beq_iff_eq] at hself
    rcases hself with rfl | rfl
    · exact hquote
    · decide
  · exact hpair 'n' (by decide)
  · exact hpair 'r' (by decide)
  · exact hpair 't' (by decide)
  · simpa [IsLine] using isLineBreak_of_isPrintable hprint
  · exact hcode 'x' (by decide) 2
  · exact hcode 'u' (by decide) 4
  · exact hcode 'U' (by decide) 8

/-- **A quoted text is a line**, whatever the text holds. -/
theorem isLine_quoted (t : Text) : IsLine (quoted t) := by
  have hquote : isLineBreak (quoteFor t) = false := by
    rw [quoteFor]
    split <;> decide
  rw [quoted, isLine_append, isLine_cons]
  refine ⟨⟨hquote, fun c hc => ?_⟩, by simpa [IsLine] using hquote⟩
  obtain ⟨d, -, hd⟩ := List.mem_flatMap.mp hc
  exact isLine_escapeChar hquote d c hd

end Text

/-! ### Messages -/

namespace Program

theorem Reason.isLine_message (r : Reason) : Text.IsLine r.message := by
  unfold Reason.message
  cases r with
  | endOfText | acceptingNotHalting | nondeterministic => decide +kernel
  | notInteger token | invalidSymbol token | invalidMove token =>
    exact Text.isLine_append.mpr ⟨by decide +kernel, Text.isLine_quoted token⟩
  | negativeCount n | stateOutOfRange n =>
    exact Text.isLine_append.mpr ⟨by decide +kernel, Text.isLine_decimal n⟩
  | fieldCount expected found =>
    have hexpected := Text.isLine_append.mpr
      ⟨(by decide +kernel : Text.IsLine "expected ".toText), Text.isLine_decimal expected⟩
    have hfields := Text.isLine_append.mpr
      ⟨hexpected, (by decide +kernel : Text.IsLine " fields, got ".toText)⟩
    exact Text.isLine_append.mpr ⟨hfields, Text.isLine_decimal found⟩

theorem FormatError.isLine_message (e : FormatError) : Text.IsLine e.message := by
  unfold FormatError.message malformedLine
  simp only [Text.isLine_append]
  refine ⟨⟨⟨by decide +kernel, Text.isLine_decimal e.line⟩, by decide⟩, ?_⟩
  split
  · decide
  · simp only [Text.isLine_append]
    exact ⟨⟨by decide +kernel, e.reason.isLine_message⟩, by decide⟩

end Program

end MultiTape
