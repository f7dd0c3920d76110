/-!
# Code points

What text is made of: the characters, and the halves of surrogate pairs. A half has no encoding, so
that no file and no line of input holds one. But the data format can name halves by escapes, and
text that was read from it may hold them, alone or two in a row that would form a pair. The two are
not the character that the pair stands for.

All code points are in the order of their numbers. Where nothing depends on the difference they are
called characters throughout the library.

## Main definitions

* `CodePoint`: the code points
* `CodePoint.toNat`, `CodePoint.ofNat`: their numbers
-/

namespace MultiTape

/-- A code point. -/
inductive CodePoint where
  /-- A character. -/
  | char (c : Char)
  /-- Half of a surrogate pair, by its place among the halves. -/
  | surrogate (i : Fin 0x800)
  deriving DecidableEq, Repr

namespace CodePoint

instance : Coe Char CodePoint := ⟨.char⟩

instance : Inhabited CodePoint := ⟨.char default⟩

/-- The number of a code point. -/
def toNat : CodePoint → Nat
  | .char c => c.toNat
  | .surrogate i => 0xd800 + i

/-- The code point of a number. -/
def ofNat (n : Nat) : CodePoint :=
  if h : 0xd800 ≤ n ∧ n < 0xe000 then .surrogate ⟨n - 0xd800, by omega⟩ else .char (Char.ofNat n)

instance : LE CodePoint := ⟨fun a b => a.toNat ≤ b.toNat⟩

instance : DecidableLE CodePoint := fun a b => inferInstanceAs (Decidable (a.toNat ≤ b.toNat))

@[simp] theorem toNat_char (c : Char) : (char c).toNat = c.toNat := rfl

/-- No character has the number of a half. -/
theorem toNat_char_lt_or (c : Char) :
    (char c).toNat < 0xd800 ∨ 0xdfff < (char c).toNat ∧ (char c).toNat < 0x110000 := c.valid

@[simp] theorem ofNat_toNat (c : CodePoint) : ofNat c.toNat = c := by
  cases c with
  | char c =>
    have hc := toNat_char_lt_or c
    rw [ofNat, dif_neg (by omega), toNat_char, Char.ofNat_toNat]
  | surrogate i =>
    have hi : 0xd800 ≤ (surrogate i).toNat ∧ (surrogate i).toNat < 0xe000 := by
      rw [toNat]
      omega
    rw [ofNat, dif_pos hi]
    exact congrArg surrogate (Fin.ext (Nat.add_sub_cancel_left ..))

theorem toNat_lt (c : CodePoint) : c.toNat < 0x110000 := by
  cases c with
  | char c =>
    have hc := toNat_char_lt_or c
    omega
  | surrogate i =>
    rw [toNat]
    omega

/-- Below U+10000 every number is that of a code point. -/
theorem toNat_ofNat {n : Nat} (h : n < 0x10000) : (ofNat n).toNat = n := by
  by_cases hn : 0xd800 ≤ n ∧ n < 0xe000
  · rw [ofNat, dif_pos hn, toNat]
    exact Nat.add_sub_cancel' hn.1
  · have hvalid : n.isValidChar := by
      rw [Nat.isValidChar]
      omega
    rw [ofNat, dif_neg hn, toNat_char, Char.ofNat, dif_pos hvalid]
    rfl

theorem toNat_inj {a b : CodePoint} : a.toNat = b.toNat ↔ a = b :=
  ⟨fun h => by rw [← ofNat_toNat a, h, ofNat_toNat], congrArg toNat⟩

end CodePoint

end MultiTape
