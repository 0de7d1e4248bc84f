import Teletype.Device.Basic
import Teletype.Pump.Sequential
import Teletype.Sink
import Teletype.Tty.Basic

/-!
# Terminals between streams

A pseudoterminal can be put between a pair of streams and an application: what
comes in on one stream is typed at the far end, and what comes out at the far
end goes to the other stream. The application has the near end, and with it a
line discipline, attributes and a size of the kernel's.

Each direction has a pump. The input pump ends at the end of its stream, or when
it fails, and the application is then told that its input is at an end. The
output pump ends when its stream takes no more.
-/

namespace Teletype

open Device

/-- **A pseudoterminal between streams.** -/
structure BridgeDevice where
  /-- The pseudoterminal. -/
  tty : Tty := {}
  /-- The reader at the near end. -/
  reader : PolledReader := {}
  /-- The pump from the far end to the output stream. -/
  outputPump : SequentialPump := {}
  /-- The pump from the input stream to the far end. -/
  inputPump : SequentialPump := {}
  /-- What has arrived and not been typed yet. -/
  incoming : List Arrival := []
  /-- The output stream. -/
  output : Sink
  /-- The attributes found at first. -/
  initial : Attributes

namespace BridgeDevice

/-- A pseudoterminal that puts out to a sink. -/
def new (output : Sink) : BridgeDevice :=
  { output, initial := TtySettings.fresh.attributes }

/-- The bridge after something more has arrived. -/
def arrive (d : BridgeDevice) (a : Arrival) : BridgeDevice := { d with incoming := d.incoming ++ [a] }

/-- **A step of the input pump.** -/
def advanceInput (d : BridgeDevice) : Option BridgeDevice :=
  if !d.inputPump.running then none
  else
    match takeArrival d.incoming with
    | none => none
    | some (some bytes, incoming) => some { d with incoming, tty := d.tty.write bytes }
    | some (none, incoming) =>
      some { d with incoming, reader := { d.reader with closed := true },
                    inputPump := d.inputPump.finish }

/-- **A step of the output pump.** What the stream refuses is lost. -/
def advanceOutput (d : BridgeDevice) : Option BridgeDevice :=
  if !d.outputPump.running || d.tty.output.isEmpty then none
  else
    let (output, result) := d.output.write (d.tty.output.take chunk)
    let tty := { d.tty with output := d.tty.output.drop chunk }
    some { d with output, tty,
                  outputPump := if result.toBool then d.outputPump else d.outputPump.finish }

/-- The next byte. -/
def read (peek : Bool) (d : BridgeDevice) : Reading × BridgeDevice :=
  let (reading, reader, tty) := d.reader.next d.tty peek
  (reading, { d with reader, tty })

/-- Attributes put in force. -/
def setAttributes (a : Attributes) : Action BridgeDevice Unit :=
  Action.change fun d => { d with tty := d.tty.setAttributes a }

instance : Device BridgeDevice where
  kind _ := "posix-pty"
  isSystem _ := false
  attributes := Action.look (·.tty.settings.attributes)
  setAttributes := setAttributes
  size := Action.look (·.tty.settings.size)
  setSize s := do
    Action.change fun d =>
      { d with tty := { d.tty with settings := { d.tty.settings with size := s } } }
    pure []
  deliver _ d := (([], .error (.unsupported .injectInput)), d)
  read := read
  unread d := d.reader.pending.length + d.tty.buffer.length
  write bytes d := (.ok (), { d with tty := d.tty.putOut bytes })
  cursor := pure none
  hasMouse _ := false
  trackMouse _ := pure false
  trackFocus _ _ := none
  canPause _ := true
  paused d := d.outputPump.pump.paused || d.inputPump.pump.paused
  pause d :=
    { d with outputPump := d.outputPump.pauseAndWait, inputPump := d.inputPump.pauseAndWait }
  resume d := { d with outputPump := d.outputPump.resume, inputPump := d.inputPump.resume }
  advance d := (d.advanceInput.orElse fun _ => d.advanceOutput).map fun d => ([], d)
  backlog d := totalWeight d.incoming + d.tty.output.length
  stop d := { d with outputPump := d.outputPump.pauseAndWait, inputPump := d.inputPump.pause }
  restore := do setAttributes (← get).initial
  release d := { d with reader := { d.reader with closed := true } }

end BridgeDevice

end Teletype
