import Teletype.Console.Basic
import Teletype.Console.MouseRecord
import Teletype.Device.Basic
import Teletype.Discipline.Basic
import Teletype.Pump.Sequential

/-!
# Terminals on consoles

A console reports keys, the mouse, focus and changes of its window in records.
A pump turns keys into bytes and has the line discipline process them; mouse
and focus go straight to the reader, as the reports of terminals, if they are
being tracked; and a change of the window is a signal. When the console can no
longer be read, input ends. A key whose sequence fails to expand ends the pump
alone: the reader goes on waiting, and the pump can be resumed.

The attributes live here, since the console knows only a few of them; its input
mode follows from them and from mouse tracking. Output goes to the console as
it is.
-/

namespace Teletype

open Device

/-- **What a console reports.** -/
inductive ConsoleRecord where
  /-- A key. -/
  | key (record : KeyRecord)
  /-- The mouse. -/
  | mouse (record : MouseRecord)
  /-- The window has got or lost the focus. -/
  | focus (gained : Bool)
  /-- The window has changed its size. -/
  | resize
  /-- The console cannot be read. -/
  | failed
  deriving DecidableEq

/-- **A console with a terminal on it.** -/
structure ConsoleDevice where
  /-- The console. -/
  console : Console
  /-- What the modes were at first. -/
  initial : ConsoleModes
  /-- What is known of its type of terminal. -/
  description : Description
  /-- The attributes. -/
  attributes : Attributes
  /-- Which mouse events are reported. -/
  tracking : Tracking := .off
  /-- Whether focus is reported. -/
  tracksFocus : Bool := false
  /-- The half of a character typed that is kept. -/
  kept : Option UInt16 := none
  /-- The discipline. Its echo goes where the output goes. -/
  discipline : Discipline
  /-- The pump. -/
  pump : SequentialPump := {}
  /-- The records reported and not yet taken. -/
  incoming : List ConsoleRecord := []

namespace ConsoleDevice

/-- What has been put out so far. -/
def output (d : ConsoleDevice) : List UInt8 := (d.discipline.echo.map (·.taken)).getD []

/-- An operation of the console. -/
def onConsole {α : Type} (m : Action Console α) : Action ConsoleDevice α :=
  m.onPart ConsoleDevice.console fun console d => { d with console }

/-- The input mode that attributes and mouse tracking ask for. -/
def mode (d : ConsoleDevice) : UInt32 := Console.modeFor d.attributes d.tracking d.initial.input

/-- **The input mode put in force.** -/
def applyMode : Action ConsoleDevice Unit := do onConsole (Console.setInputMode (← get).mode)

/-- A chunk processed under the attributes in force, and its signals taken. -/
def process (d : ConsoleDevice) (bytes : List UInt8) :
    (List Signal × Except DeviceError Unit) × ConsoleDevice :=
  let (discipline, result) := d.discipline.process d.attributes bytes
  let (signals, discipline) := discipline.takeSignals
  ((signals, result), { d with discipline })

/-- Bytes for the reader that no discipline processes. -/
def report (d : ConsoleDevice) (bytes : List UInt8) : ConsoleDevice :=
  { d with discipline := { d.discipline with queue := d.discipline.queue.write bytes } }

/-- The report of the focus gained or lost. -/
def focusReport (gained : Bool) : List UInt8 := [0x1b, 0x5b, if gained then 0x49 else 0x4f]

/-- **A record taken**, and the signals that it brings to light. -/
def take (d : ConsoleDevice) : ConsoleRecord → List Signal × ConsoleDevice
  | .key r =>
    match Keyboard.read? d.description d.kept r with
    | none => ([], { d with pump := d.pump.finish })
    | some (bytes, kept) =>
      let d := { d with kept }
      if bytes.isEmpty then ([], d)
      else
        let ((signals, _), d) := d.process bytes
        (signals, d)
  | .mouse r => ([], d.report ((r.report? d.tracking).getD []))
  | .focus gained => ([], if d.tracksFocus then d.report (focusReport gained) else d)
  | .resize => ([.winch], d)
  | .failed =>
    ([], { d with discipline := d.discipline.endOfInput, pump := d.pump.finish })

/-- A step of the pump: the next record is taken. -/
def advance (d : ConsoleDevice) : Option (List Signal × ConsoleDevice) :=
  if !d.pump.running then none
  else
    match d.incoming with
    | [] => none
    | record :: incoming => some ({ d with incoming }.take record)

/-- **Attributes put in force.** They are kept even if the console does not take the
mode they ask for. -/
def setAttributes (attributes : Attributes) : Action ConsoleDevice Unit := do
  modify fun d => { d with attributes }
  applyMode

/-- **Mouse tracking changed**, likewise. -/
def trackMouse (tracking : Tracking) : Action ConsoleDevice Bool := do
  modify fun d => { d with tracking }
  applyMode
  pure true

/-- Bytes put out. -/
def write (bytes : List UInt8) (d : ConsoleDevice) : Except DeviceError Unit × ConsoleDevice :=
  let (discipline, result) := d.discipline.writeEcho bytes
  (result, { d with discipline })

instance : Device ConsoleDevice where
  kind _ := "windows"
  isSystem _ := true
  attributes := Action.look (·.attributes)
  setAttributes := setAttributes
  size := onConsole Console.getSize
  setSize _ := throw (.unsupported .setConsoleSize)
  deliver bytes d :=
    let ((signals, result), d) := d.process bytes
    ((signals, result.mapError .device), d)
  read peek d :=
    let (reading, queue) := if peek then d.discipline.queue.peek else d.discipline.queue.read
    (reading, { d with discipline := { d.discipline with queue } })
  unread d := d.discipline.queue.unread
  write := write
  cursor := do pure (some (← onConsole Console.getCursor))
  hasMouse _ := true
  trackMouse := trackMouse
  trackFocus on d := some { d with tracksFocus := on }
  canPause _ := true
  paused d := d.pump.pump.paused
  pause d := { d with pump := d.pump.pauseAndWait }
  resume d := { d with pump := d.pump.resume }
  advance := advance
  backlog d := d.incoming.length
  stop d := { d with pump := d.pump.pauseAndWait }
  restore := do onConsole (Console.restore (← get).initial)
  release d :=
    { d with discipline := { d.discipline with queue := d.discipline.queue.close } }

/-! ## Opening -/

/-- The type of terminal of a console that interprets escape sequences, and of one
that does not. -/
def typeOf (interprets : Bool) : String := if interprets then "windows-vtp" else "windows"

/-- **A console prepared**, step by step: it is asked to interpret escape sequences,
which tells its type; its output is read as UTF-8 from then on, if that can be
had; and its input mode is brought in line with the attributes that it stands
for. A failure on the way leaves behind what was done. -/
def prepare (describe : String → Description) (sink : Sink) :
    Action Console (String × ConsoleDevice) := do
  let output ← Console.outputMode
  let interprets ← (Console.setOutputMode (output ||| Console.escapeSequences)).attempt
  let type := typeOf interprets.toOption.isSome
  let codePage := (← get).modes.codePage
  if codePage != Console.utf8 then
    let _ ← (Console.setCodePage Console.utf8).attempt
  let input ← Console.inputMode
  let attributes := Console.attributesFor input
  Console.setInputMode (Console.modeFor attributes .off input)
  let initial : ConsoleModes := { input, output, codePage }
  pure (type,
    { console := ← get, initial, description := describe type, attributes,
      discipline := { echo := some sink } })

end ConsoleDevice

end Teletype
