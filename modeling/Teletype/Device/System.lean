import Teletype.Device.Basic
import Teletype.Sink
import Teletype.Stty.Client
import Teletype.Stty.Tool
import Teletype.Tty.Basic

/-!
# The terminal of the process

A process reads its standard input and writes its standard output. If its input
is a line of the kernel, attributes and size are the kernel's. Otherwise, or if
that is preferred, a tool reads and changes them. Input is polled. There is no
line discipline in software into which input could be injected, and no pump.

Closing puts back the attributes that were found when the terminal was opened,
if they could be found.
-/

namespace Teletype

/-- **What the standard input is.** -/
inductive StandardInput where
  /-- A pipe. -/
  | pipe (content : Pipe)
  /-- A line of the kernel. -/
  | line (tty : Tty)

namespace StandardInput

/-- Bytes typed at the far end. -/
def type (bytes : List UInt8) : StandardInput → StandardInput
  | pipe p => pipe (p.write bytes)
  | line t => line (t.write bytes)

/-- The far end closed. -/
def hangUp : StandardInput → StandardInput
  | pipe p => pipe p.hangUp
  | line t => line t.hangUp

/-- How many bytes there are in it. -/
def length : StandardInput → Nat
  | pipe p => p.content.length
  | line t => t.buffer.length

instance : PolledSource StandardInput where
  readable
    | pipe p => PolledSource.readable p
    | line t => PolledSource.readable t
  take n
    | pipe p =>
      let (bytes, p) := PolledSource.take n p
      (bytes, pipe p)
    | line t =>
      let (bytes, t) := PolledSource.take n t
      (bytes, line t)

end StandardInput

/-- **The standard streams with a terminal on them.** -/
structure SystemDevice where
  /-- The standard input. -/
  input : StandardInput
  /-- The reader of it. -/
  reader : PolledReader := {}
  /-- The tool for settings, unless they are the kernel's. -/
  tool : Option SttyTool := none
  /-- The attributes found at first, if they could be found. -/
  initial : Option Attributes := none
  /-- The standard output. -/
  output : Sink := .endless

namespace SystemDevice

/-- An operation of the kernel on the line that the input is. -/
def onLine {α : Type} (f : Tty → α × Tty) : Action SystemDevice α := do
  let d ← get
  match d.input with
  | .pipe _ => throw (.unsupported .notATerminal)
  | .line t =>
    if t.hungUp then throw (.device .hungUp)
    else
      let (a, t) := f t
      set { d with input := .line t }
      pure a

/-- A run of the tool for settings. -/
def runTool (args : List String) : Action SystemDevice String := Action.ofStep fun d =>
  match d.tool with
  | none => (.error (.device .notFound), d)
  | some tool =>
    let (r, tool) := (SttyTool.run args).runOn tool
    (r, { d with tool := some tool })

/-- The attributes. -/
def attributes : Action SystemDevice Attributes := do
  match (← get).tool with
  | none => onLine fun t => (t.settings.attributes, t)
  | some _ => Stty.getAttributes runTool

/-- **Attributes put in force.** -/
def setAttributes (a : Attributes) : Action SystemDevice Unit := do
  match (← get).tool with
  | none => onLine fun t => ((), t.setAttributes a)
  | some _ => Stty.setAttributes runTool a

/-- The size. -/
def size : Action SystemDevice Size := do
  match (← get).tool with
  | none => onLine fun t => (t.settings.size, t)
  | some _ => Stty.getSize runTool

/-- **The size changed.** -/
def setSize (s : Size) : Action SystemDevice Unit := do
  match (← get).tool with
  | none => onLine fun t => ((), { t with settings := { t.settings with size := s } })
  | some _ => Stty.setSize runTool s

/-- The next byte. -/
def read (peek : Bool) (d : SystemDevice) : Reading × SystemDevice :=
  let (reading, reader, input) := d.reader.next d.input peek
  (reading, { d with reader, input })

/-- What was found at first put back. -/
def restore : Action SystemDevice Unit := do
  match (← get).initial with
  | some a => setAttributes a
  | none => pure ()

instance : Device SystemDevice where
  kind d := if d.tool.isSome then "posix-exec" else "posix"
  isSystem _ := true
  attributes := attributes
  setAttributes := setAttributes
  size := size
  setSize s := do
    setSize s
    pure []
  deliver _ d := (([], .error (.unsupported .injectInput)), d)
  read := read
  unread d := d.reader.pending.length + d.input.length
  write bytes d :=
    let (output, result) := d.output.write bytes
    (result, { d with output })
  cursor := pure none
  hasMouse _ := false
  trackMouse _ := pure false
  trackFocus _ _ := none
  canPause _ := false
  paused _ := false
  pause d := d
  resume d := d
  advance _ := none
  backlog _ := 0
  stop d := d
  restore := restore
  release d := { d with reader := { d.reader with closed := true } }

/-! ## Opening -/

/-- Whether the kernel has settings for the input. -/
def isLine (d : SystemDevice) : Bool := (attributes.runOn { d with tool := none }).1.toOption.isSome

/-- **The terminal of the process prepared.** The kernel is asked first, unless the tool
is preferred; if it cannot answer, the tool is needed, and it has to be able to
list the settings. -/
def prepare (prefersTool : Bool) (tool : SttyTool) : Action SystemDevice Unit := do
  if prefersTool || !(← get).isLine then
    modify fun d => { d with tool := some tool }
    let _ ← attributes
  let initial ← attributes.attempt
  modify fun d => { d with initial := initial.toOption }

end SystemDevice

end Teletype
