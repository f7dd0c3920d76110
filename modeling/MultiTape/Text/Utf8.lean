import MultiTape.Text.Basic

/-!
# UTF-8

Text as bytes and back. Reading stops at the first byte sequence that encodes no character and says
where it lies and what is wrong with it.

## Main definitions

* `Utf8.encode`: the bytes of a text
* `Utf8.decode`: the text of some bytes, or the first fault
-/

namespace MultiTape

namespace Utf8

/-! ### Writing -/

/-- The bytes of one character. Half of a surrogate pair has no encoding, and gets the bytes that a
character of its number would have. -/
def encodeChar (c : CodePoint) : List UInt8 :=
  let n := c.toNat
  if n < 0x80 then [UInt8.ofNat n]
  else if n < 0x800 then [UInt8.ofNat (0xc0 + n / 0x40), UInt8.ofNat (0x80 + n % 0x40)]
  else if n < 0x10000 then
    [UInt8.ofNat (0xe0 + n / 0x1000), UInt8.ofNat (0x80 + n / 0x40 % 0x40),
      UInt8.ofNat (0x80 + n % 0x40)]
  else
    [UInt8.ofNat (0xf0 + n / 0x40000), UInt8.ofNat (0x80 + n / 0x1000 % 0x40),
      UInt8.ofNat (0x80 + n / 0x40 % 0x40), UInt8.ofNat (0x80 + n % 0x40)]

/-- The bytes of a text. -/
def encode (t : Text) : List UInt8 := t.flatMap encodeChar

/-! ### Reading -/

/-- What is wrong with a byte sequence. -/
inductive Defect where
  /-- The first byte opens no character. -/
  | badStart
  /-- A byte that should continue the character does not. -/
  | badContinuation
  /-- The bytes end inside a character. -/
  | cutShort
  deriving DecidableEq, Repr

/-- The first fault in some bytes: the bytes from `start` up to, not including, `stop` are at fault,
and `byte` is the first of them. -/
structure Fault where
  /-- What is wrong. -/
  defect : Defect
  /-- The first byte at fault. -/
  byte : UInt8
  /-- The position of that byte. -/
  start : Nat
  /-- The position after the last byte at fault. -/
  stop : Nat
  deriving DecidableEq, Repr

/-- How many bytes follow a first byte, what that byte contributes to the code point, and the bounds
of the second byte; nothing if no character of several bytes starts so. -/
def lead? (b : Nat) : Option (Nat × Nat × Nat × Nat) :=
  if 0xc2 ≤ b ∧ b ≤ 0xdf then some (1, b - 0xc0, 0x80, 0xbf)
  else if b = 0xe0 then some (2, 0, 0xa0, 0xbf)
  else if b = 0xed then some (2, 0xd, 0x80, 0x9f)
  else if 0xe1 ≤ b ∧ b ≤ 0xef then some (2, b - 0xe0, 0x80, 0xbf)
  else if b = 0xf0 then some (3, 0, 0x90, 0xbf)
  else if 0xf1 ≤ b ∧ b ≤ 0xf3 then some (3, b - 0xf0, 0x80, 0xbf)
  else if b = 0xf4 then some (3, 4, 0x80, 0x8f)
  else none

/-- Reads bytes from position `pos` on. `pending` is the character under way: where it starts, its
first byte, the number of bytes still owed, the value so far and the bounds of the next byte. -/
def decodeFrom (pos : Nat) (pending : Option (Nat × UInt8 × Nat × Nat × Nat × Nat)) :
    List UInt8 → Except Fault Text
  | [] =>
    match pending with
    | none => .ok []
    | some (start, first, _) => .error ⟨.cutShort, first, start, pos⟩
  | b :: rest =>
    match pending with
    | some (start, first, owed, value, low, high) =>
      if low ≤ b.toNat ∧ b.toNat ≤ high then
        let value := value * 0x40 + (b.toNat - 0x80)
        if owed ≤ 1 then (.ofNat value :: ·) <$> decodeFrom (pos + 1) none rest
        else decodeFrom (pos + 1) (some (start, first, owed - 1, value, 0x80, 0xbf)) rest
      else .error ⟨.badContinuation, first, start, pos⟩
    | none =>
      if b.toNat < 0x80 then (.ofNat b.toNat :: ·) <$> decodeFrom (pos + 1) none rest
      else match lead? b.toNat with
        | some (owed, value, low, high) =>
          decodeFrom (pos + 1) (some (pos, b, owed, value, low, high)) rest
        | none => .error ⟨.badStart, b, pos, pos + 1⟩

/-- The text of some bytes, or the first fault in them. -/
def decode (bytes : List UInt8) : Except Fault Text := decodeFrom 0 none bytes

/-- The wording of a fault; a fault of several bytes is reported by its range. -/
def Fault.message (f : Fault) : Text :=
  let place :=
    if f.stop = f.start + 1 then
      "byte 0x".toText ++ Text.hexadecimal 2 f.byte.toNat ++ " in position ".toText ++
        Text.decimal f.start
    else
      "bytes in position ".toText ++ Text.decimal f.start ++
        .char '-' :: Text.decimal (f.stop - 1 : Nat)
  let reason := match f.defect with
    | .badStart => "invalid start byte".toText
    | .badContinuation => "invalid continuation byte".toText
    | .cutShort => "unexpected end of data".toText
  "'utf-8' codec can't decode ".toText ++ place ++ ": ".toText ++ reason

end Utf8

end MultiTape
