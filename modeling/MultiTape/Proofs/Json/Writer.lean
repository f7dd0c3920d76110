import MultiTape.Json.Writer
import MultiTape.Proofs.Messages
import MultiTape.Text.Utf8

/-!
# What is written is one line of ASCII

Whatever value is written, its text consists of printable ASCII characters: all others stand in
strings, and there they are written as escapes. So the text is a line, however many line breaks the
strings hold, and its bytes are decoded to the same text.

## Main definitions

* `Text.IsAscii`: a text of printable ASCII characters

## Main results

* `Json.isAscii_write`: what is written is such a text
* `Text.IsAscii.isLine`: such a text is a line
* `Utf8.decode_encode_of_lt`: text of ASCII characters, control characters among them, is decoded
  to what was encoded
-/

namespace MultiTape

namespace Text

variable {c : CodePoint} {s t sep : Text} {ts : List Text}

/-- A text of printable ASCII characters. -/
def IsAscii (t : Text) : Prop := ∀ c ∈ t, 0x20 ≤ c.toNat ∧ c.toNat < 0x7f

-- As for lines, only the characters of the text are to be looked at.
instance : Decidable (IsAscii t) :=
  List.decidableBAll (fun c : CodePoint => 0x20 ≤ c.toNat ∧ c.toNat < 0x7f) t

@[simp] theorem isAscii_nil : IsAscii [] := by simp [IsAscii]

@[simp] theorem isAscii_cons :
    IsAscii (c :: t) ↔ (0x20 ≤ c.toNat ∧ c.toNat < 0x7f) ∧ IsAscii t :=
  List.forall_mem_cons

@[simp] theorem isAscii_append : IsAscii (s ++ t) ↔ IsAscii s ∧ IsAscii t :=
  List.forall_mem_append

theorem IsAscii.of_subset (h : IsAscii t) (hs : s ⊆ t) : IsAscii s := fun c hc => h c (hs hc)

theorem isAscii_replicate (hc : IsAscii [c]) (n : Nat) : IsAscii (List.replicate n c) :=
  fun d hd => hc d (by simp [List.eq_of_mem_replicate hd])

theorem isAscii_flatMap {f : CodePoint → Text} (hf : ∀ c, IsAscii (f c)) (t : Text) :
    IsAscii (t.flatMap f) := by
  intro d hd
  obtain ⟨c, -, hc⟩ := List.mem_flatMap.mp hd
  exact hf c d hc

theorem isAscii_intercalate (hsep : IsAscii sep) (hts : ∀ t ∈ ts, IsAscii t) :
    IsAscii (List.intercalate sep ts) := by
  induction ts with
  | nil => exact isAscii_nil
  | cons t ts ih =>
    rw [List.forall_mem_cons] at hts
    cases ts with
    | nil => simpa using hts.1
    | cons t' ts =>
      rw [List.intercalate_cons_cons]
      simp only [isAscii_append]
      exact ⟨⟨hts.1, hsep⟩, ih hts.2⟩

/-- No line ends inside printable ASCII. -/
theorem IsAscii.isLine (h : IsAscii t) : IsLine t := by
  intro c hc
  obtain ⟨hlow, hhigh⟩ := h c hc
  by_contra hbreak
  simp only [isLineBreak, Bool.not_eq_false, Bool.or_eq_true, Bool.and_eq_true,
    decide_eq_true_eq, beq_iff_eq] at hbreak
  omega

/-! ### Numbers -/

theorem isAscii_digits {base : Nat} (hbase : 1 < base) (hbase' : base ≤ 16) (n : Nat) :
    IsAscii (digits base n) := by
  have hdigits : ∀ d < 16, 0x20 ≤ d.digitChar.toNat ∧ d.digitChar.toNat < 0x7f := by decide
  intro c hc
  obtain ⟨d, hd, rfl⟩ := exists_of_mem_digits hbase hc
  exact hdigits d (by omega)

theorem isAscii_decimal (n : Int) : IsAscii (decimal n) := by
  cases n with
  | ofNat k => exact isAscii_digits (by decide) (by decide) k
  | negSucc k => exact isAscii_cons.mpr ⟨by decide, isAscii_digits (by decide) (by decide) _⟩

theorem isAscii_padLeft (hc : IsAscii [c]) (ht : IsAscii t) (width : Nat) :
    IsAscii (padLeft c width t) :=
  isAscii_append.mpr ⟨isAscii_replicate hc _, ht⟩

theorem isAscii_hexadecimal (width n : Nat) : IsAscii (hexadecimal width n) :=
  isAscii_padLeft (by decide) (isAscii_digits (by decide) (by decide) n) width

end Text

namespace Utf8

variable {t : Text}

theorem decodeFrom_encode_of_lt (ht : ∀ c ∈ t, c.toNat < 0x80) (pos : Nat) :
    decodeFrom pos none (encode t) = .ok t := by
  induction t generalizing pos with
  | nil => rfl
  | cons c t ih =>
    obtain ⟨hc, ht⟩ := List.forall_mem_cons.mp ht
    have hbyte : (UInt8.ofNat c.toNat).toNat = c.toNat := Nat.mod_eq_of_lt (by omega)
    have hcons : encode (c :: t) = UInt8.ofNat c.toNat :: encode t := by
      rw [encode, List.flatMap_cons, encodeChar, if_pos hc]
      rfl
    rw [hcons, decodeFrom, hbyte, if_pos hc, ih ht, CodePoint.ofNat_toNat]
    rfl

theorem decode_encode_of_lt (ht : ∀ c ∈ t, c.toNat < 0x80) : decode (encode t) = .ok t :=
  decodeFrom_encode_of_lt ht 0

end Utf8

open Text (IsAscii isAscii_append isAscii_cons isAscii_replicate isAscii_digits)

namespace Shortest

theorem isAscii_renderDigits (c : Nat) (u : Int) : IsAscii (renderDigits c u) := by
  have hds : IsAscii (Text.digits 10 c) := isAscii_digits (by decide) (by decide) c
  have htake (n : Nat) : IsAscii ((Text.digits 10 c).take n) :=
    hds.of_subset (List.take_subset n _)
  have hdrop (n : Nat) : IsAscii ((Text.digits 10 c).drop n) :=
    hds.of_subset (List.drop_subset n _)
  have hzeros (n : Nat) : IsAscii (List.replicate n (.char '0')) := isAscii_replicate (by decide) n
  unfold renderDigits
  simp only
  split_ifs
  · exact isAscii_append.mpr ⟨isAscii_append.mpr ⟨by decide, hzeros _⟩, hds⟩
  · exact isAscii_append.mpr ⟨isAscii_append.mpr ⟨hds, hzeros _⟩, by decide⟩
  · exact isAscii_append.mpr ⟨htake _, isAscii_cons.mpr ⟨by decide, hdrop _⟩⟩
  all_goals
    have hexponent : IsAscii (Text.padLeft '0' 2
        (Text.digits 10 (u + (Text.digits 10 c).length - 1).natAbs)) :=
      Text.isAscii_padLeft (by decide) (isAscii_digits (by decide) (by decide) _) 2
    refine isAscii_append.mpr ⟨isAscii_append.mpr ⟨htake _, ?_⟩,
      isAscii_cons.mpr ⟨by decide, isAscii_cons.mpr ⟨by decide, hexponent⟩⟩⟩
    first
    | exact Text.isAscii_nil
    | exact isAscii_cons.mpr ⟨by decide, hdrop _⟩

theorem isAscii_render {infinity nan : Text} (hinfinity : IsAscii infinity) (hnan : IsAscii nan)
    (x : Binary64) : IsAscii (render infinity nan x) := by
  have hsign (negative : Bool) : IsAscii (if negative then ['-'] else []) := by
    cases negative <;> decide
  cases x with
  | nan => exact hnan
  | infinite negative => exact isAscii_append.mpr ⟨hsign negative, hinfinity⟩
  | finite negative m e =>
    refine isAscii_append.mpr ⟨hsign negative, ?_⟩
    split
    · decide
    · exact isAscii_renderDigits _ _

end Shortest

namespace Json

/-! ### Strings -/

theorem isAscii_unitEscape (n : Nat) : IsAscii (unitEscape n) := by
  rw [unitEscape, isAscii_cons, isAscii_cons]
  exact ⟨by decide, by decide, Text.isAscii_hexadecimal 4 n⟩

theorem isAscii_writeChar (c : CodePoint) : IsAscii (writeChar c) := by
  rw [writeChar]
  split_ifs with hself hfeed hreturn htab hback hform hvisible hbasic
  · rw [Bool.or_eq_true, beq_iff_eq, beq_iff_eq] at hself
    rcases hself with rfl | rfl <;> decide
  · decide
  · decide
  · decide
  · decide
  · decide
  · exact isAscii_cons.mpr ⟨hvisible, Text.isAscii_nil⟩
  · exact isAscii_unitEscape _
  · exact isAscii_append.mpr ⟨isAscii_unitEscape _, isAscii_unitEscape _⟩

theorem isAscii_writeString (t : Text) : IsAscii (writeString t) := by
  rw [writeString, isAscii_append, isAscii_cons]
  exact ⟨⟨by decide, Text.isAscii_flatMap isAscii_writeChar t⟩, by decide⟩

/-! ### Values -/

mutual

/-- **What is written is printable ASCII**, whatever the strings hold. -/
theorem isAscii_write : ∀ v : Json, IsAscii v.write
  | .null => by decide
  | .bool true => by decide
  | .bool false => by decide
  | .int n => by
    rw [write]
    exact Text.isAscii_decimal n
  | .float x => by
    rw [write]
    exact Shortest.isAscii_render (by decide) (by decide) x
  | .str t => by
    rw [write]
    exact isAscii_writeString t
  | .arr items => by
    rw [write, isAscii_append, isAscii_cons]
    exact ⟨⟨by decide, Text.isAscii_intercalate (by decide) (isAscii_writeItems items)⟩, by decide⟩
  | .obj members => by
    rw [write, isAscii_append, isAscii_cons]
    exact ⟨⟨by decide, Text.isAscii_intercalate (by decide) (isAscii_writeMembers members)⟩,
      by decide⟩

theorem isAscii_writeItems : ∀ items : List Json, ∀ t ∈ writeItems items, IsAscii t
  | [] => by simp [writeItems]
  | item :: rest => by
    rw [writeItems, List.forall_mem_cons]
    exact ⟨isAscii_write item, isAscii_writeItems rest⟩

theorem isAscii_writeMembers :
    ∀ members : List (Text × Json), ∀ t ∈ writeMembers members, IsAscii t
  | [] => by simp [writeMembers]
  | (key, value) :: rest => by
    rw [writeMembers, List.forall_mem_cons, isAscii_append, isAscii_append]
    exact ⟨⟨⟨isAscii_writeString key, by decide⟩, isAscii_write value⟩, isAscii_writeMembers rest⟩

end

end Json

end MultiTape
