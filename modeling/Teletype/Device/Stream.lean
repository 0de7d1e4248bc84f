import Teletype.Device.Basic
import Teletype.Discipline.Basic
import Teletype.Pump.Sequential

/-!
# Terminals on streams

A stream knows nothing of terminals: it brings bytes and takes bytes. The line
discipline is therefore in software, and so are the attributes and the size. A
pump takes what has arrived, at most 1024 bytes at a time, and has the
discipline process it under the attributes in force. What the application
writes and what is echoed go to the same sink; what the application writes
passes through the output flags.

When the stream ends, or fails, the pump ends with it. It can be resumed, and
then takes what has arrived since.
-/

namespace Teletype

open Device

/-- **A stream with a terminal on it.** -/
structure StreamDevice where
  /-- The attributes. -/
  attributes : Attributes := .usual
  /-- The size. -/
  size : Size
  /-- The discipline. Its echo goes where the output goes. -/
  discipline : Discipline
  /-- The pump. -/
  pump : SequentialPump := {}
  /-- What has arrived and not been taken yet. -/
  incoming : List Arrival := []

namespace StreamDevice

/-- A stream of some size that puts out to a sink. -/
def new (size : Size) (sink : Sink) : StreamDevice := { size, discipline := { echo := some sink } }

/-- What has been put out so far. -/
def output (d : StreamDevice) : List UInt8 := (d.discipline.echo.map (·.taken)).getD []

/-- The stream after something more has arrived. -/
def arrive (d : StreamDevice) (a : Arrival) : StreamDevice := { d with incoming := d.incoming ++ [a] }

/-- A chunk processed under the attributes in force, and its signals taken. -/
def process (d : StreamDevice) (bytes : List UInt8) :
    (List Signal × Except DeviceError Unit) × StreamDevice :=
  let (discipline, result) := d.discipline.process d.attributes bytes
  let (signals, discipline) := discipline.takeSignals
  ((signals, result), { d with discipline })

/-- Bytes put out. -/
def write (bytes : List UInt8) (d : StreamDevice) : Except DeviceError Unit × StreamDevice :=
  let (discipline, result) := d.discipline.writeEcho (d.attributes.output bytes)
  (result, { d with discipline })

/-- **A step of the pump.** That a chunk cannot be echoed does not stop it. -/
def advance (d : StreamDevice) : Option (List Signal × StreamDevice) :=
  if !d.pump.running then none
  else
    match takeArrival d.incoming with
    | none => none
    | some (some bytes, incoming) =>
      let ((signals, _), d) := { d with incoming }.process bytes
      some (signals, d)
    | some (none, incoming) =>
      some ([], { d with incoming, discipline := d.discipline.endOfInput, pump := d.pump.finish })

/-- The size changed. Only a change is a signal. -/
def setSize (s : Size) : Action StreamDevice (List Signal) := do
  let d ← get
  set { d with size := s }
  pure (if d.size = s then [] else [.winch])

instance : Device StreamDevice where
  kind _ := "stream"
  isSystem _ := false
  attributes := Action.look (·.attributes)
  setAttributes a := Action.change fun d => { d with attributes := a }
  size := Action.look (·.size)
  setSize := setSize
  deliver bytes d :=
    let ((signals, result), d) := d.process bytes
    ((signals, result.mapError .device), d)
  read peek d :=
    let (reading, queue) := if peek then d.discipline.queue.peek else d.discipline.queue.read
    (reading, { d with discipline := { d.discipline with queue } })
  unread d := d.discipline.queue.unread
  write := write
  cursor := pure none
  hasMouse _ := false
  trackMouse _ := pure false
  trackFocus _ _ := none
  canPause _ := true
  paused d := d.pump.pump.paused
  pause d := { d with pump := d.pump.pauseAndWait }
  resume d := { d with pump := d.pump.resume }
  advance := advance
  backlog d := totalWeight d.incoming
  stop d := { d with pump := d.pump.pause }
  restore := pure ()
  release d :=
    { d with discipline := { d.discipline with queue := d.discipline.queue.close } }

end StreamDevice

end Teletype
