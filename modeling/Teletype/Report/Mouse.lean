import Teletype.Report.Supply
import Teletype.Text.Numeral

/-!
# Mouse reports

A terminal that tracks the mouse reports what it does. A report is a code and
two coordinates, counted from one. The code is a few bits: two for the button,
one each for the keys held with it, one for motion, and one for the wheel.

The code for "no button" is shared by releases and by moves, and that of a
button by presses and by drags. The event before tells which is meant.
-/

namespace Teletype

/-- The kinds of mouse events. -/
inductive MouseKind where
  /-- A button was let go. -/
  | released
  /-- A button was pressed. -/
  | pressed
  /-- The wheel was turned. -/
  | wheel
  /-- The mouse was moved with no button held. -/
  | moved
  /-- The mouse was moved with a button held. -/
  | dragged
  deriving DecidableEq, Repr

/-- The name of a kind. -/
def MouseKind.name : MouseKind → String
  | released => "Released"
  | pressed => "Pressed"
  | wheel => "Wheel"
  | moved => "Moved"
  | dragged => "Dragged"

/-- The buttons of a mouse, with the two ways to turn its wheel. -/
inductive MouseButton where
  /-- No button. -/
  | none
  /-- The left button. -/
  | first
  /-- The middle button. -/
  | second
  /-- The right button. -/
  | third
  /-- The wheel, turned away. -/
  | wheelUp
  /-- The wheel, turned near. -/
  | wheelDown
  deriving DecidableEq, Repr

/-- The name of a button. -/
def MouseButton.name : MouseButton → String
  | none => "NoButton"
  | first => "Button1"
  | second => "Button2"
  | third => "Button3"
  | wheelUp => "WheelUp"
  | wheelDown => "WheelDown"

/-- **The keys that modify** a key or a button. -/
structure Modifiers where
  /-- Shift. -/
  shift : Bool := false
  /-- Alt. -/
  alt : Bool := false
  /-- Control. -/
  control : Bool := false
  deriving DecidableEq, Repr

namespace Modifiers

/-- No modifying key. -/
def none : Modifiers := {}

/-- The modifying keys as bits. -/
def bits (m : Modifiers) : Nat := m.shift.toNat + 2 * m.alt.toNat + 4 * m.control.toNat

/-- Whether no modifying key is held. -/
def isNone (m : Modifiers) : Bool := !m.shift && !m.alt && !m.control

end Modifiers

/-- **A mouse event**, with coordinates counted from zero. -/
structure MouseEvent where
  /-- What happened. -/
  kind : MouseKind := .moved
  /-- With which button. -/
  button : MouseButton := .none
  /-- The keys held. -/
  modifiers : Modifiers := {}
  /-- The column. -/
  x : Int := 0
  /-- The row. -/
  y : Int := 0
  deriving DecidableEq, Repr

/-- **Which mouse events a terminal reports.** -/
inductive Tracking where
  /-- None. -/
  | off
  /-- Presses and releases. -/
  | normal
  /-- Moves with a button held, too. -/
  | button
  /-- All. -/
  | any
  deriving DecidableEq, Repr

namespace Tracking

/-- The name of a level of tracking. -/
def name : Tracking → String
  | off => "Off"
  | normal => "Normal"
  | button => "Button"
  | any => "Any"

/-- The level of tracking with a name. -/
def ofName? (s : String) : Option Tracking :=
  [off, normal, button, any].find? fun t => t.name == s

/-- A private mode of the terminal switched: `ESC [ ?`, its number, and a letter. -/
def mode (number : String) (on : Bool) : String :=
  "\x1b[?" ++ number ++ if on then "h" else "l"

/-- **The bytes that make a terminal track the mouse.** -/
def sequence (t : Tracking) : List UInt8 :=
  let switches := match t with
    | off => mode "1000" false ++ mode "1002" false ++ mode "1003" false ++ mode "1005" false
    | normal => mode "1005" true ++ mode "1000" true
    | button => mode "1005" true ++ mode "1002" true
    | any => mode "1005" true ++ mode "1003" true
  switches.toList.map fun c => UInt8.ofNat c.toNat

end Tracking

namespace MouseEvent

/-- Whether a button is held after an event. -/
def isHeld (e : MouseEvent) : Bool := e.kind == .pressed || e.kind == .dragged

/-- The keys held according to a code. -/
def modifiersOf (code : Nat) : Modifiers :=
  { shift := code.testBit 2, alt := code.testBit 3, control := code.testBit 4 }

/-- The button a code names. -/
def buttonOf (code : Nat) : MouseButton :=
  match code % 4 with
  | 0 => .first
  | 1 => .second
  | 2 => .third
  | _ => .none

/-- What happened and with which button, according to a code and the event
before. -/
def action (code : Nat) (last : MouseEvent) : MouseKind × MouseButton :=
  if code.testBit 6 then (.wheel, if code.testBit 0 then .wheelDown else .wheelUp)
  else
    match buttonOf code with
    | .none => if last.isHeld then (.released, last.button) else (.moved, .none)
    | b =>
      if code.testBit 5 || (last.button == b && last.isHeld) then (.dragged, b)
      else (.pressed, b)

/-- **The event of a code and a place**, given the event before. -/
def decode (code : Nat) (x y : Int) (last : MouseEvent) : MouseEvent :=
  { kind := (action code last).1
    button := (action code last).2
    modifiers := modifiersOf code
    x, y }

end MouseEvent

namespace MouseReport

variable {σ : Type}

/-- How many bytes follow the first byte of a field, and the bits it brings
itself. A byte that cannot be the first of several stands for itself. -/
def lead (b : UInt8) : Nat × Nat :=
  if b < 0xc0 then (0, b.toNat)
  else if b < 0xe0 then (1, b.toNat % 32)
  else if b < 0xf0 then (2, b.toNat % 16)
  else if b < 0xf8 then (3, b.toNat % 8)
  else (0, b.toNat)

/-- So many more bytes of a field, six bits each. -/
def fieldRest (next : Action σ (Option UInt8)) : Nat → Nat → Action σ (Option Nat)
  | 0, value => pure (some value)
  | more + 1, value => do
    match ← next with
    | none => pure none
    | some b => fieldRest next more (value * 64 + b.toNat % 64)

/-- **A field of a report**: a number in as many bytes as its first byte says. -/
def field (next : Action σ (Option UInt8)) : Action σ (Option Nat) := do
  match ← next with
  | none => pure none
  | some b => fieldRest next (lead b).1 (lead b).2

/-- **A report read**: three fields, each 32 more than what it means. Nothing when
input ends first. -/
def read (next : Action σ (Option UInt8)) (last : MouseEvent) :
    Action σ (Option MouseEvent) := do
  let some code ← field next | pure none
  let some x ← field next | pure none
  let some y ← field next | pure none
  pure (some (MouseEvent.decode (code - 32) (x - 33) (y - 33) last))

/-- The pieces of a text between semicolons. -/
def pieces : List UInt8 → List (List UInt8)
  | [] => [[]]
  | b :: rest =>
    if b == 0x3b then [] :: pieces rest
    else
      match pieces rest with
      | [] => [[b]]
      | p :: ps => (b :: p) :: ps

/-- The number a piece stands for. -/
def number? (piece : List UInt8) : Option Int :=
  Text.int64? (piece.map fun b => Char.ofNat b.toNat)

/-- The coordinate a number counted from one stands for, brought into the range of 32
bits by wrapping around. The least number of 64 bits has no predecessor among
them. -/
def coordinate? (n : Int) : Option Int :=
  if n = Int64.minValue.toInt then none else some ((n - 1).bmod 4294967296)

/-- The event of a release that names its button. -/
def releaseOf (code : Nat) (x y : Int) (last : MouseEvent) : MouseEvent :=
  let button := match MouseEvent.buttonOf code with
    | .none => last.button
    | b => b
  { MouseEvent.decode (code ||| 3) x y last with kind := .released, button }

/-- The event of a code and a place, by the letter at the end of its report. A wheel
is not let go. -/
def eventOf (letter : UInt8) (code : Nat) (x y : Int) (last : MouseEvent) : MouseEvent :=
  if letter == 0x6d && !code.testBit 6 then releaseOf code x y last
  else MouseEvent.decode code x y last

/-- The code of a report in decimal, and its place as it is written, followed by the
letter: `M`, or `m` for a release. -/
def parts? (body : List UInt8) : Option (Nat × Int × Int × UInt8) := do
  let letter ← body.getLast?
  if letter != 0x4d && letter != 0x6d then none
  else
    let [code, x, y] := pieces body.dropLast | none
    let code ← number? code
    let x ← number? x
    let y ← number? y
    if code < 0 then none else some (code.toNat, x, y, letter)

/-- **The event of a report in decimal**: code, column and row with semicolons
between them, and a letter. Nothing when the bytes are no report; nothing inside
when a coordinate gets out of range. -/
def decimal? (body : List UInt8) (last : MouseEvent) : Option (Option MouseEvent) :=
  (parts? body).map fun (code, x, y, letter) => do
    let x ← coordinate? x
    let y ← coordinate? y
    pure (eventOf letter code x y last)

end MouseReport

end Teletype
