import Teletype.Description.Basic
import Teletype.Report.Mouse
import Teletype.Text.Units

/-!
# The keyboard of a console

A console reports keys going down and coming up, with a number for the key, the
unit of text it types, and which modifying keys are held. A program that talks
to terminals expects bytes: the text that was typed, or the sequence that the
description gives for a key.

Three keys are peculiar. The interrupt character counts when its key comes up.
A character composed on the number pad arrives when Alt comes up. And what
Windows keyboards call AltGr is the right Alt and the left Control together: a
character typed with exactly these two is plain text.
-/

namespace Teletype

/-- **What a console reports of a key.** -/
structure KeyRecord where
  /-- Whether the key went down. -/
  down : Bool
  /-- The number of the key. -/
  key : UInt16
  /-- The unit of text it types; zero for none. -/
  unit : UInt16
  /-- The keys held with it, as bits. -/
  held : UInt32
  /-- How many times it counts. -/
  count : UInt16
  deriving DecidableEq

namespace HeldKeys

/-- The right Alt key. -/
def rightAlt : UInt32 := 0x01

/-- The left Alt key. -/
def leftAlt : UInt32 := 0x02

/-- The right Control key. -/
def rightControl : UInt32 := 0x04

/-- The left Control key. -/
def leftControl : UInt32 := 0x08

/-- The Shift keys. -/
def shift : UInt32 := 0x10

/-- The modifying keys among those held. -/
def modifiers (held : UInt32) : Modifiers :=
  { shift := held &&& shift != 0
    alt := held &&& (rightAlt ||| leftAlt) != 0
    control := held &&& (rightControl ||| leftControl) != 0 }

/-- Whether of the Alt and Control keys exactly the two of AltGr are held. -/
def isAltGr (held : UInt32) : Bool :=
  held &&& (rightAlt ||| leftAlt ||| rightControl ||| leftControl) == (rightAlt ||| leftControl)

end HeldKeys

namespace Keyboard

/-- The byte that starts a sequence. -/
def escape : UInt8 := 0x1b

/-- A sequence for a key with modifying keys: its first number, one more than the
bits of the modifying keys, and a final byte. -/
def modified (number : Nat) (m : Modifiers) (final : Char) : List UInt8 :=
  escape :: Text.utf8
    ('[' :: Text.decimal number ++ ';' :: Text.decimal (1 + m.bits) ++ [final])

/-- What a description says of a key, and the sequence for the key together with
modifying keys, if there is one. -/
structure Sequence where
  /-- The capability that holds the plain sequence. -/
  plain : Capability
  /-- The sequence with modifying keys. -/
  withModifiers : Modifiers → Option (List UInt8)

/-- A key whose sequence with modifying keys has the given number and final byte. -/
def sequence (plain : Capability) (number : Nat) (final : Char) : Sequence :=
  { plain, withModifiers := fun m => some (modified number m final) }

/-- **The keys that send sequences.** Backspace has one only with Alt. -/
def sequenceOf? (key : UInt16) : Option Sequence :=
  match key.toNat with
  | 0x08 =>
    some { plain := .keyBackspace
           withModifiers := fun m => if m.alt then some [escape, 0x08] else none }
  | 0x21 => some (sequence .keyPpage 5 '~')
  | 0x22 => some (sequence .keyNpage 6 '~')
  | 0x23 => some (sequence .keyEnd 1 'F')
  | 0x24 => some (sequence .keyHome 1 'H')
  | 0x25 => some (sequence .keyLeft 1 'D')
  | 0x26 => some (sequence .keyUp 1 'A')
  | 0x27 => some (sequence .keyRight 1 'C')
  | 0x28 => some (sequence .keyDown 1 'B')
  | 0x2d => some (sequence .keyIc 2 '~')
  | 0x2e => some (sequence .keyDc 3 '~')
  | 0x70 => some (sequence .keyF1 1 'P')
  | 0x71 => some (sequence .keyF2 1 'Q')
  | 0x72 => some (sequence .keyF3 1 'R')
  | 0x73 => some (sequence .keyF4 1 'S')
  | 0x74 => some (sequence .keyF5 15 '~')
  | 0x75 => some (sequence .keyF6 17 '~')
  | 0x76 => some (sequence .keyF7 18 '~')
  | 0x77 => some (sequence .keyF8 19 '~')
  | 0x78 => some (sequence .keyF9 20 '~')
  | 0x79 => some (sequence .keyF10 21 '~')
  | 0x7a => some (sequence .keyF11 23 '~')
  | 0x7b => some (sequence .keyF12 24 '~')
  | _ => none

/-- **The sequence a key sends**, if it sends one: with modifying keys the sequence
for them, and otherwise the one of the description, which may fail to expand. -/
def sequenceFor? (d : Description) (key : UInt16) (m : Modifiers) :
    Option (Option (List UInt8)) := do
  let s ← sequenceOf? key
  match if m.isNone then none else s.withModifiers m with
  | some bytes => some (some bytes)
  | none => d.render? s.plain []

/-- The control character of a unit: a question mark has the one that deletes, and
of any other unit five bits count. -/
def controlOf (u : UInt16) : UInt8 :=
  if u == 0x3f then 0x7f
  else
    let b := u.toUInt8
    (if 0x61 ≤ b && b ≤ 0x7a then b - 0x20 else b) &&& 0x1f

/-- The control character of a key that types nothing: letters have one, and the
question mark key. -/
def controlOfKey? (key : UInt16) : Option UInt8 :=
  if 0x41 ≤ key && key ≤ 0x5a then some (key - 0x40).toUInt8
  else if key == 0xbf then some 0x7f
  else none

/-- An escape in front of bytes typed with Alt. -/
def escaped (alt : Bool) (bytes : List UInt8) : List UInt8 :=
  if alt then escape :: bytes else bytes

/-- The bytes of a unit that was typed, and the half that is kept. -/
def typed (kept : Option UInt16) (u : UInt16) : List UInt8 × Option UInt16 :=
  let (c, kept) := Text.readUnit kept u
  (Text.utf8 c.toList, kept)

/-- The modifying keys that count: the two of AltGr do not when they type. -/
def effective (r : KeyRecord) : Modifiers :=
  let m := HeldKeys.modifiers r.held
  if r.unit != 0 && HeldKeys.isAltGr r.held then { m with alt := false, control := false } else m

/-- The unit of the tab. -/
def tab : UInt16 := 0x09

/-- The sequence of a key that went down, if it sends one rather than text. -/
def special? (d : Description) (r : KeyRecord) (m : Modifiers) : Option (Option (List UInt8)) :=
  let backTab := if m.shift && r.unit == tab then d.render? .keyBtab [] else none
  backTab <|> sequenceFor? d r.key m

/-- Whether Control leaves the text of a unit as it is. -/
def ignoresControl (u : UInt16) : Bool := u == 0x20 || u == 0x0a || u == 0x7f

/-- The text of a key that went down, and the half that is kept. -/
def text (kept : Option UInt16) (r : KeyRecord) (m : Modifiers) :
    List UInt8 × Option UInt16 :=
  if r.unit == 0 then
    let code := if m.control then controlOfKey? r.key else none
    (match code with
      | some b => escaped m.alt [b]
      | none => [], kept)
  else if m.control && !ignoresControl r.unit then (escaped m.alt [controlOf r.unit], kept)
  else
    let (bytes, kept) := typed kept r.unit
    (escaped (m.alt && !bytes.isEmpty) bytes, kept)

/-- What a key that went down sends once, unless its sequence fails to expand. -/
def pressed? (d : Description) (kept : Option UInt16) (r : KeyRecord) :
    Option (List UInt8 × Option UInt16) :=
  let m := effective r
  match special? d r m with
  | some expansion => expansion.map fun bytes => (bytes, kept)
  | none => some (text kept r m)

/-- The unit of the interrupt character. -/
def interrupt : UInt16 := 0x03

/-- The number of the Alt key. -/
def altKey : UInt16 := 0x12

/-- What a key that came up sends. -/
def released (kept : Option UInt16) (r : KeyRecord) : List UInt8 × Option UInt16 :=
  if r.unit == interrupt then ([0x03], kept)
  else if r.key == altKey && r.unit != 0 then typed kept r.unit
  else ([], kept)

/-- **What a key record sends**, and the half of a character that is kept; or nothing
when the sequence of the key fails to expand. -/
def read? (d : Description) (kept : Option UInt16) (r : KeyRecord) :
    Option (List UInt8 × Option UInt16) :=
  if !r.down then some (released kept r)
  else if r.unit == interrupt then some ([], kept)
  else
    (pressed? d kept r).map fun (bytes, kept) =>
      ((List.replicate (max r.count.toNat 1) bytes).flatten, kept)

end Keyboard

end Teletype
