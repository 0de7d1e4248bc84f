import Teletype.Terminal.Report

/-!
# The operations of a terminal

What can be done to a terminal short of closing it is one inductive type, so that
whatever works on a terminal, and in whatever order, is a list of operations.
-/

namespace Teletype

/-- **An operation of a terminal.** What only looks at what the terminal was opened
with is left out. -/
inductive Operation where
  /-- The attributes are asked for. -/
  | attributes
  /-- Attributes are set. -/
  | setAttributes (a : Attributes)
  /-- Raw mode is entered. -/
  | enterRawMode
  /-- It is asked whether input is echoed. -/
  | echoes
  /-- Echo is switched. -/
  | setEcho (on : Bool)
  /-- The size is asked for. -/
  | size
  /-- The size is set. -/
  | setSize (s : Size)
  /-- A byte is read, or looked at. -/
  | read (peek : Bool)
  /-- Several bytes are read. -/
  | readUpTo (n : Nat)
  /-- Input is injected. -/
  | processInput (bytes : List UInt8)
  /-- Bytes are written. -/
  | write (bytes : List UInt8)
  /-- A capability is put out. -/
  | puts (c : Capability) (params : List Param)
  /-- The place of the cursor is asked for. -/
  | cursor
  /-- Mouse tracking is changed. -/
  | trackMouse (tracking : Tracking)
  /-- A mouse event is read. -/
  | mouseEvent
  /-- Focus tracking is changed. -/
  | trackFocus (on : Bool)
  /-- A handler is installed. -/
  | handle (s : Signal) (h : Handler)
  /-- A signal is raised. -/
  | raise (s : Signal)
  /-- The built-in reaction to a change of the window size is set. -/
  | setWinchHook (hook : Handler)
  /-- A signal is sent to the process. -/
  | receive (s : Signal)
  /-- The pumps are paused. -/
  | pause
  /-- The pumps are resumed. -/
  | resume

namespace Operation

variable {δ : Type} [Device δ]

/-- **The operation done**, whatever it answers. -/
def run : Operation → Action (Terminal δ) Unit
  | attributes => do let _ ← Terminal.attributes
  | setAttributes a => Terminal.setAttributes a
  | enterRawMode => do let _ ← Terminal.enterRawMode
  | echoes => do let _ ← Terminal.echoes
  | setEcho on => do let _ ← Terminal.setEcho on
  | size => do let _ ← Terminal.size
  | setSize s => Terminal.setSize s
  | read peek => do let _ ← Terminal.read peek
  | readUpTo n => do let _ ← Terminal.readUpTo n
  | processInput bytes => Terminal.processInput bytes
  | write bytes => Action.ofStep fun t =>
    let (result, t) := t.write bytes
    (result.mapError .device, t)
  | puts c params => do let _ ← Terminal.puts c params
  | cursor => do let _ ← Terminal.cursor
  | trackMouse tracking => do let _ ← Terminal.trackMouse tracking
  | mouseEvent => do let _ ← Terminal.mouseEvent
  | trackFocus on => do let _ ← Terminal.trackFocus on
  | handle s h => modify fun t => (t.handle s h).2
  | raise s => modify fun t => t.raise s
  | setWinchHook hook => modify fun t => t.setWinchHook hook
  | receive s => modify fun t => t.receive s
  | pause => modify fun t => t.pause
  | resume => Terminal.resume

/-- Whether an operation waits until no pump is at work. -/
def waits : Operation → Bool
  | pause => true
  | _ => false

end Operation

end Teletype
