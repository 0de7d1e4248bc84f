import Teletype.Console.Keyboard

/-!
# The mouse of a console

A console reports the mouse in records of its own, with all buttons that are
held and a word that says what happened. Programs expect the reports that
terminals send, and only those that they asked for.
-/

namespace Teletype

/-- **What a console reports of the mouse.** -/
structure MouseRecord where
  /-- The column. -/
  x : Int16
  /-- The row. -/
  y : Int16
  /-- The buttons held, and in the upper half how far the wheel was turned. -/
  buttons : UInt32
  /-- What happened. -/
  flags : UInt32
  /-- The keys held, as bits. -/
  held : UInt32
  deriving DecidableEq

namespace MouseRecord

/-- Whether the mouse was moved. -/
def isMoved (r : MouseRecord) : Bool := r.flags &&& 0x01 != 0

/-- Whether the wheel was turned. -/
def isWheel (r : MouseRecord) : Bool := r.flags &&& 0x04 != 0

/-- Whether the wheel was tilted, of which no terminal reports anything. -/
def isTilt (r : MouseRecord) : Bool := r.flags &&& 0x08 != 0

/-- The buttons held. -/
def pressed (r : MouseRecord) : UInt32 := r.buttons &&& 0xffff

/-- Whether a level of tracking asks for a record. -/
def isTracked (t : Tracking) (r : MouseRecord) : Bool :=
  match t with
  | .off => false
  | .normal => !r.isMoved
  | .button => !r.isMoved || r.pressed != 0
  | .any => true

/-- The code of the wheel or of the first button held: left, middle, right. -/
def buttonCode (r : MouseRecord) : Nat :=
  if r.isWheel then if r.buttons &&& 0x80000000 != 0 then 65 else 64
  else if r.pressed &&& 0x01 != 0 then 0
  else if r.pressed &&& 0x04 != 0 then 1
  else if r.pressed &&& 0x02 != 0 then 2
  else 3

/-- The code of a record. -/
def code (r : MouseRecord) : Nat :=
  let m := HeldKeys.modifiers r.held
  r.buttonCode + (if r.isMoved && !r.isWheel then 32 else 0) + 4 * m.bits

/-- **The report of a record**, if the tracking asks for it: the code and the place,
each a character 32 beyond. Places left of or above the window count as its
edge. -/
def report? (t : Tracking) (r : MouseRecord) : Option (List UInt8) :=
  if r.isTracked t && !r.isTilt then
    some (Text.utf8 ['\x1b', '[', 'M', Char.ofNat (32 + r.code),
      Char.ofNat (33 + r.x.toInt.toNat), Char.ofNat (33 + r.y.toInt.toNat)])
  else none

end MouseRecord

end Teletype
