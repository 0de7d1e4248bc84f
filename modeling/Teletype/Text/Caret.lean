/-!
# Caret spelling of bytes

Control bytes have no glyph. They are spelled `^A` to `^_` by the letter that
has the same low bits, delete is spelled `^?`, and a byte with the high bit is
spelled by `M-` in front of the byte without it. Every byte has one spelling,
and all of it is ASCII.
-/

namespace Teletype.Text

/-- The spelling of a byte below 128. -/
def caretLow (b : UInt8) : List Char :=
  if b == 127 then ['^', '?']
  else if b < 32 then ['^', Char.ofNat (b.toNat + 64)]
  else [Char.ofNat b.toNat]

/-- **The caret spelling of a byte**: `^C`, `^?`, `M-a`. -/
def caret (b : UInt8) : List Char :=
  if 128 ≤ b then 'M' :: '-' :: caretLow (b - 128) else caretLow b

/-- The caret spelling of a byte, as the bytes a terminal shows it by. -/
def caretBytes (b : UInt8) : List UInt8 := (caret b).map fun c => UInt8.ofNat c.toNat

end Teletype.Text
