import Teletype.Action
import Teletype.Attributes.Basic
import Teletype.Queue
import Teletype.Report.Cursor
import Teletype.Report.Mouse
import Teletype.Signal.Basic

/-!
# Devices

A terminal does its work through a device: the console of the process, a line
that the process was started on, a stream of bytes, a pair of streams behind a
pseudoterminal. The terminal looks after what all of them have in common, and
a device after what is its own: where bytes come from and go to, how attributes
take effect, and what has to be put back in the end.

## Pumps

Most devices are fed by a pump that takes what has arrived and passes it on.
One step of that is `advance`. It may bring signals to light, which the
terminal then raises. When there is nothing to pass on, or the pump does not
run, there is no step; and `backlog` bounds how many steps there can be until
then.
-/

namespace Teletype

/-- **What a terminal needs of its device.** -/
class Device (δ : Type) where
  /-- The word for the kind of device. -/
  kind : δ → String
  /-- Whether signals of the process are the device's. -/
  isSystem : δ → Bool
  /-- The attributes in force. -/
  attributes : Action δ Attributes
  /-- Attributes put in force. -/
  setAttributes : Attributes → Action δ Unit
  /-- The size. -/
  size : Action δ Size
  /-- The size changed, and the signals that this brings about. -/
  setSize : Size → Action δ (List Signal)
  /-- Bytes delivered as input, whatever the pumps do: the signals among them, and
  whether they could be echoed. -/
  deliver : List UInt8 → δ → (List Signal × Except TerminalError Unit) × δ
  /-- Reading the next byte, or only looking at it. -/
  read : Bool → δ → Reading × δ
  /-- How many bytes reads can give, at the most. -/
  unread : δ → Nat
  /-- Bytes put out. -/
  write : List UInt8 → δ → Except DeviceError Unit × δ
  /-- The place of the cursor, when the device knows it without asking. -/
  cursor : Action δ (Option Cursor)
  /-- Whether the device tracks the mouse by itself. -/
  hasMouse : δ → Bool
  /-- Mouse tracking changed; false when escape sequences have to do it. -/
  trackMouse : Tracking → Action δ Bool
  /-- Focus tracking changed; nothing when escape sequences have to do it. -/
  trackFocus : Bool → δ → Option δ
  /-- Whether there is a pump to pause. -/
  canPause : δ → Bool
  /-- Whether a pump is paused. -/
  paused : δ → Bool
  /-- The pumps paused, and their bodies gone. -/
  pause : δ → δ
  /-- The pumps resumed. -/
  resume : δ → δ
  /-- A step of the pumps, and the signals that it brings to light. -/
  advance : δ → Option (List Signal × δ)
  /-- A bound on the steps that can follow one another. -/
  backlog : δ → Nat
  /-- Closing, first: the pumps stopped. -/
  stop : δ → δ
  /-- Closing, second: what was changed put back. -/
  restore : Action δ Unit
  /-- Closing, last: readers woken. -/
  release : δ → δ

namespace Device

/-- **What arrives at a device** that is fed by a stream. -/
inductive Arrival where
  /-- Some bytes. -/
  | bytes (content : List UInt8)
  /-- The end of the stream. -/
  | ended
  /-- A failure of the stream. -/
  | failed
  deriving DecidableEq

/-- The most bytes that a pump takes at once. -/
def chunk : Nat := 1024

/-- How many steps an arrival takes at the most. -/
def Arrival.weight : Arrival → Nat
  | bytes content => content.length + 1
  | ended => 1
  | failed => 1

/-- How many steps all that has arrived takes at the most. -/
def totalWeight : List Arrival → Nat
  | [] => 0
  | a :: rest => a.weight + totalWeight rest

/-- **What a pump takes of what has arrived**: at most a chunk of bytes, or an end.
A read that finds no bytes is an end, too, and so is a failure. -/
def takeArrival : List Arrival → Option (Option (List UInt8) × List Arrival)
  | [] => none
  | .bytes content :: rest =>
    let left := content.drop chunk
    some (if content.isEmpty then none else some (content.take chunk),
      if left.isEmpty then rest else .bytes left :: rest)
  | _ :: rest => some (none, rest)

section

variable {arrivals incoming : List Arrival} {bytes : List UInt8}

/-- Bytes are taken from the bytes in front, and what is left of these stays there. -/
theorem takeArrival_cases (h : takeArrival arrivals = some (some bytes, incoming)) :
    ∃ front rest, arrivals = .bytes front :: rest ∧ front ≠ [] ∧ bytes = front.take chunk
      ∧ incoming
        = if (front.drop chunk).isEmpty then rest else .bytes (front.drop chunk) :: rest := by
  cases arrivals with
  | nil => cases h
  | cons arrival rest =>
    cases arrival with
    | ended => cases h
    | failed => cases h
    | bytes front =>
      rw [takeArrival, Option.some.injEq, Prod.mk.injEq] at h
      obtain ⟨htaken, hrest⟩ := h
      split at htaken
      · cases htaken
      · next hfront =>
        exact ⟨front, rest, rfl, by simpa using hfront, (Option.some.inj htaken).symm, hrest.symm⟩

theorem ne_nil_of_takeArrival (h : takeArrival arrivals = some (some bytes, incoming)) :
    bytes ≠ [] := by
  obtain ⟨front, rest, -, hfront, rfl, -⟩ := takeArrival_cases h
  simpa [chunk] using hfront

end

end Device

end Teletype
