import Teletype.Terminal.Basic

/-!
# Asking a terminal

Some things only the terminal at the other end knows: where the cursor is, what
the mouse does, whether its window has the focus. Some devices know them, too;
then the device is asked. Otherwise an escape sequence is sent, and the answer
comes back in the midst of the input.
-/

namespace Teletype.Terminal

variable {δ : Type} [Device δ]

/-- The place of the cursor, if the terminal tells it in a report: the question is
sent, and the report awaited. -/
def awaitCursor : Action (Terminal δ) (Option (Cursor × List UInt8)) := do
  let d := (← get).description
  match d.text .user6, d.text .user7 with
  | some report, some _ => do
    match ReportShape.ofTemplate? report with
    | none => pure none
    | some shape => do
      send ((← expansion? .user7 []).getD [])
      shape.await next (Device.unread (← get).device + 1) {}
  | _, _ => pure none

/-- **The place of the cursor**, with the input that came before the report and is
lost. Nothing when the terminal does not tell. -/
def cursor : Action (Terminal δ) (Option (Cursor × List UInt8)) := do
  match ← onDevice Device.cursor with
  | some c => pure (some (c, []))
  | none => awaitCursor

/-- Whether the terminal can track the mouse. -/
def hasMouse (t : Terminal δ) : Bool :=
  Device.hasMouse t.device || (t.description.text .keyMouse).isSome

/-- **Mouse tracking changed.** False when the terminal cannot track the mouse. -/
def trackMouse (tracking : Tracking) : Action (Terminal δ) Bool := do
  if (← get).hasMouse then
    checkOpen
    if !(← onDevice (Device.trackMouse tracking)) then send tracking.sequence
    modify fun t => { t with tracking }
    pure true
  else pure false

/-- **The next mouse event**: what follows the sequence that announces a report, which
has already been read. Nothing at the end of input. -/
def mouseEvent : Action (Terminal δ) (Option MouseEvent) := do
  let event ← MouseReport.read next (← get).lastMouse
  modify fun t => { t with lastMouse := event.getD t.lastMouse }
  pure event

/-- The sequence that switches focus reports. -/
def focusSequence (on : Bool) : List UInt8 :=
  (Tracking.mode "1004" on).toList.map fun c => UInt8.ofNat c.toNat

/-- Whether a type of terminal is known to report the focus. -/
def reportsFocus (type : String) : Bool := "xterm".toList.isPrefixOf type.toList

/-- **Focus tracking changed.** False when the terminal cannot report the focus. -/
def trackFocus (on : Bool) : Action (Terminal δ) Bool := do
  checkOpen
  let t ← get
  match Device.trackFocus on t.device with
  | some device => do
    set { t with device, tracksFocus := on }
    pure true
  | none =>
    if reportsFocus t.type then
      send (focusSequence on)
      modify fun t => { t with tracksFocus := on }
      pure true
    else pure false

end Teletype.Terminal
