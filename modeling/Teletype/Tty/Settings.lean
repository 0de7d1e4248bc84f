import Teletype.Error
import Teletype.Termios

/-!
# The settings of a pseudoterminal

A kernel keeps one set of attributes and one size for a pseudoterminal. It does
not keep attributes quite as they are written: a pseudoterminal has no wire, so
its characters always have eight bits without parity, and it always receives.
-/

namespace Teletype

/-- **What the kernel keeps of a pseudoterminal.** -/
structure TtySettings where
  /-- The attributes in the kernel's form. -/
  termios : Termios
  /-- The size. -/
  size : Size := ⟨0, 0⟩

namespace Termios

/-- The bits that say that characters are received. -/
def receives : UInt32 := 0x80

/-- The bits that say that characters have a parity. -/
def hasParity : UInt32 := 0x100

/-- **What a pseudoterminal makes of attributes written to it.** -/
def wireless (t : Termios) : Termios where
  word w :=
    match w with
    | .control => (t.word .control &&& ~~~(sizeField ||| hasParity)) ||| sizeField ||| receives
    | w => t.word w
  chars := t.chars

/-- The control bytes of a new pseudoterminal, in the kernel's order. -/
def freshChars : List UInt8 :=
  [0x03, 0x1c, 0x7f, 0x15, 0x04, 0, 1, 0, 0x11, 0x13, 0x1a, 0, 0x12, 0x0f, 0x17, 0x16, 0]

/-- **The attributes of a new pseudoterminal.** -/
def fresh : Termios where
  word
    | .input => 0x500
    | .output => 0x5
    | .control => 0xbf
    | .discipline => 0x8a3b
  chars i := freshChars.getD i.val 0

end Termios

namespace TtySettings

/-- A new pseudoterminal. -/
def fresh : TtySettings := { termios := Termios.fresh }

/-- **The attributes read.** -/
def attributes (s : TtySettings) : Attributes := s.termios.attributes

/-- **Attributes written**: over what the kernel has, and then as a
pseudoterminal keeps them. -/
def setAttributes (s : TtySettings) (a : Attributes) : TtySettings :=
  { s with termios := (Termios.apply a s.termios).wireless }

end TtySettings

end Teletype
