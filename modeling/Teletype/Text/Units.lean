import Teletype.Text.Utf8

/-!
# Sixteen-bit units

Some sources deliver text in units of sixteen bits. Most characters are one
unit; the others are two, a high half and a low half. A source may be cut
between the halves, so the reader keeps a high half until the next unit comes.
A half without its other half stands for nothing.
-/

namespace Teletype.Text

/-- Whether a unit is the first half of a character. -/
def isHighHalf (u : UInt16) : Bool := 0xd800 ≤ u && u ≤ 0xdbff

/-- Whether a unit is the second half of a character. -/
def isLowHalf (u : UInt16) : Bool := 0xdc00 ≤ u && u ≤ 0xdfff

/-- The character of two halves. -/
def joinHalves (high low : UInt16) : Char :=
  Char.ofNat (0x10000 + (high.toNat - 0xd800) * 0x400 + (low.toNat - 0xdc00))

/-- **One unit read**, with the high half that was kept before it: the character
it completes, if any, and the high half that is kept now. -/
def readUnit (kept : Option UInt16) (u : UInt16) : Option Char × Option UInt16 :=
  if isHighHalf u then (none, some u)
  else if isLowHalf u then (kept.map fun high => joinHalves high u, none)
  else (some (Char.ofNat u.toNat), none)

end Teletype.Text
