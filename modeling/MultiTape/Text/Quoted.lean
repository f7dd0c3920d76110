import MultiTape.Text.Basic
import MultiTape.Text.Printable

/-!
# Quoted text

Text shown between quotes on one line, as the error messages show the tokens they reject. Single
quotes are used unless the text holds a single quote and no double quote. The backslash, the quote
in use and every character that is not printable are written as escapes.
-/

namespace MultiTape

namespace Text

/-- The character `'`. -/
def singleQuote : CodePoint := CodePoint.ofNat 0x27

/-- The character `"`. -/
def doubleQuote : CodePoint := CodePoint.ofNat 0x22

/-- The quote put around a text: single, unless the text holds a single quote and no double one. -/
def quoteFor (t : Text) : CodePoint :=
  if t.contains singleQuote && !t.contains doubleQuote then doubleQuote else singleQuote

/-- One character as it is written between two `quote` characters. -/
def escapeChar (quote c : CodePoint) : Text :=
  if c == quote || c == '\\' then ['\\', c]
  else if c == '\n' then ['\\', 'n']
  else if c == '\r' then ['\\', 'r']
  else if c == '\t' then ['\\', 't']
  else if isPrintable c then [c]
  else if c.toNat ≤ 0xff then '\\' :: 'x' :: hexadecimal 2 c.toNat
  else if c.toNat ≤ 0xffff then '\\' :: 'u' :: hexadecimal 4 c.toNat
  else '\\' :: 'U' :: hexadecimal 8 c.toNat

/-- A text between quotes, with escapes for what could not be read back otherwise. -/
def quoted (t : Text) : Text :=
  let quote := quoteFor t
  quote :: t.flatMap (escapeChar quote) ++ [quote]

end Text

end MultiTape
