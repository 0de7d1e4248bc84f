import Teletype.Output
import Teletype.Queue
import Teletype.Signal.Basic
import Teletype.Sink
import Teletype.Text.Caret

/-!
# The line discipline

The discipline stands between the bytes that arrive at a terminal and its
reader. It turns control characters into signals, settles what ends a line,
collects and edits lines when input comes in lines, and echoes.

What one byte does (`Discipline.step`) depends on the attributes and on a state
of three parts: whether the last byte was a carriage return that became a line
feed, so that a line feed right after it is dropped; whether the last byte
quotes the next one; and the line that is being collected.

A chunk of bytes is processed in batches. A batch ends at a signal and at the
end of the chunk. It is echoed, as one write, before the reader can see it. If
a batch cannot be echoed the reader still gets it; but when that batch ended at
a signal, the signal is not recorded and the rest of the chunk is gone.
-/

namespace Teletype

open Text

namespace Discipline

/-- **What the discipline remembers** from one byte to the next. -/
@[ext] structure State where
  /-- Whether a line feed that comes next is dropped. -/
  skipsLf : Bool := false
  /-- Whether the next byte is taken as it is. -/
  quotes : Bool := false
  /-- The line that is being collected. -/
  line : List UInt8 := []
  deriving DecidableEq

/-- **What a byte brings about.** -/
@[ext] structure Effect where
  /-- The bytes the reader gets. -/
  input : List UInt8 := []
  /-- The bytes that are echoed. -/
  echo : List UInt8 := []
  /-- The signal that is raised. -/
  signal : Option Signal := none
  deriving DecidableEq

/-- The control characters that are signals. When a byte stands in several slots
the first of them counts. -/
def signalChars : List (ControlChar × Signal) :=
  [(.intr, .int), (.quit, .quit), (.susp, .tstp), (.status, .info)]

/-- The signal a byte stands for. -/
def signalOf? (a : Attributes) (b : UInt8) : Option Signal :=
  if a.flag .isig then (signalChars.find? fun p => a.isChar p.1 b).map (·.2) else none

/-- The byte that is left when the eighth bit may not count. -/
def strip (a : Attributes) (b : UInt8) : UInt8 := if a.flag .istrip then b &&& 0x7f else b

/-- Whether carriage returns become line feeds. -/
def returnsEndLines (a : Attributes) : Bool :=
  a.flag .inormeol || (a.flag .icrnl && !a.flag .igncr)

/-- **What ends a line.** The byte that is left of a byte, if any, and whether a
line feed that comes next is dropped. -/
def lineEnd (a : Attributes) (skipsLf : Bool) (b : UInt8) : Option UInt8 × Bool :=
  if b == carriageReturn then
    if returnsEndLines a then (some lineFeed, true)
    else if a.flag .igncr then (none, skipsLf)
    else (some b, false)
  else if b == lineFeed then
    if skipsLf then (none, false)
    else (some (if a.flag .inlcr then carriageReturn else b), skipsLf)
  else (some b, false)

/-- The bytes that wipe a character off the screen: back, blank, back. -/
def wipe : List UInt8 := [0x08, 0x20, 0x08]

/-- Whether a byte has no shape of its own. -/
def isControl (b : UInt8) : Bool :=
  (b < 0x20 && b != 0x09 && b != lineFeed && b != carriageReturn) || b == 0x7f

/-- **How a byte is echoed**: in caret notation if it has no shape of its own and
does not start or stop output, and otherwise as it would be put out. -/
def echoed (a : Attributes) (b : UInt8) : List UInt8 :=
  if a.flag .echoctl && isControl b && !(a.isChar .start b || a.isChar .stop b) then
    caretBytes b
  else a.outputByte b

/-- The echo of a byte, if there is any echo. -/
def echoIf (a : Attributes) (echo : List UInt8) : List UInt8 :=
  if a.flag .echo then echo else []

/-- A line without its last word: blanks at its end go, and then what is not
blank. -/
def dropWord (line : List UInt8) : List UInt8 :=
  ((line.reverse.dropWhile (· == 0x20)).dropWhile (· != 0x20)).reverse

/-- The echo of so many characters erased. -/
def erasure (a : Attributes) (count : Nat) : List UInt8 :=
  if a.flag .echo && a.flag .echoe then (List.replicate count wipe).flatten else []

/-- The echo of a line of some length killed by a byte. -/
def killEcho (a : Attributes) (length : Nat) (b : UInt8) : List UInt8 :=
  if a.flag .echoke then (List.replicate length wipe).flatten
  else echoed a b ++ if a.flag .echok then a.outputByte lineFeed else []

/-- Whether a byte that is in the line ends it. -/
def endsLine (a : Attributes) (b : UInt8) : Bool :=
  b == lineFeed || a.isChar .eol b || a.isChar .eol2 b

/-- The echo of a byte added to the line. A line feed is echoed also when only
line feeds are. -/
def lineEcho (a : Attributes) (b : UInt8) : List UInt8 :=
  if b == lineFeed then
    if a.flag .echo || a.flag .echonl then a.outputByte b else []
  else echoIf a (echoed a b)

/-- **Editing.** What a byte does when input comes in lines: it quotes the next
byte, erases a character, a word or the line, ends the input, or joins the line
and perhaps ends it. An end of input with no line pending is handed to the
reader as the byte it is. -/
def edit (a : Attributes) (s : State) (b : UInt8) : State × Effect :=
  if a.flag .iexten && a.isChar .lnext b then ({ s with quotes := true }, {})
  else if a.isChar .erase b then
    ({ s with line := s.line.dropLast },
      { echo := erasure a (s.line.length - s.line.dropLast.length) })
  else if a.flag .iexten && a.isChar .werase b then
    ({ s with line := dropWord s.line },
      { echo := erasure a (s.line.length - (dropWord s.line).length) })
  else if a.isChar .kill b then
    ({ s with line := [] }, { echo := echoIf a (killEcho a s.line.length b) })
  else if a.isChar .eof b then
    ({ s with line := [] }, { input := if s.line.isEmpty then [b] else s.line })
  else if endsLine a b then
    ({ s with line := [] }, { input := s.line ++ [b], echo := lineEcho a b })
  else ({ s with line := s.line ++ [b] }, { echo := lineEcho a b })

/-- **A byte taken as it is**: it joins the line, or goes to the reader when input
does not come in lines. -/
def accept (a : Attributes) (s : State) (b : UInt8) : State × Effect :=
  if a.flag .icanon then
    ({ s with line := s.line ++ [b] }, { echo := echoIf a (echoed a b) })
  else (s, { input := [b], echo := echoIf a (echoed a b) })

/-- What a byte does that is neither quoted nor a signal. -/
def ordinary (a : Attributes) (s : State) (b : UInt8) : State × Effect :=
  match lineEnd a s.skipsLf b with
  | (none, skipsLf) => ({ s with skipsLf }, {})
  | (some b, skipsLf) =>
    if a.flag .icanon then edit a { s with skipsLf } b else accept a { s with skipsLf } b

/-- **What one byte does.** -/
def step (a : Attributes) (s : State) (byte : UInt8) : State × Effect :=
  let b := strip a byte
  if s.quotes then accept a { s with quotes := false } b
  else
    match signalOf? a b with
    | some signal =>
      ({ s with skipsLf := false },
        { echo := echoIf a (caretBytes b), signal := some signal })
    | none => ordinary a s b

end Discipline

/-- **A line discipline** with what it is connected to. -/
structure Discipline where
  /-- What it remembers. -/
  state : Discipline.State := {}
  /-- The signals recorded and not yet raised, oldest first. -/
  pending : List Signal := []
  /-- The queue its reader reads. -/
  queue : Queue := {}
  /-- Where it echoes, if anywhere. -/
  echo : Option Sink := none

namespace Discipline

/-- **A batch**: the bytes for the reader and the echo since the last signal. -/
structure Batch where
  /-- The bytes for the reader. -/
  input : List UInt8 := []
  /-- The bytes to echo. -/
  echo : List UInt8 := []

/-- A batch with what a byte brought about. -/
def Batch.add (b : Batch) (e : Effect) : Batch :=
  { input := b.input ++ e.input, echo := b.echo ++ e.echo }

/-- An echo written, if there is any and somewhere to write it. -/
def writeEcho (d : Discipline) (bytes : List UInt8) : Discipline × Except DeviceError Unit :=
  match d.echo with
  | none => (d, .ok ())
  | some sink =>
    if bytes.isEmpty then (d, .ok ())
    else
      let (sink, result) := sink.write bytes
      ({ d with echo := some sink }, result)

/-- **A batch delivered.** It is echoed before the reader can see it, and the
reader gets it even if the echo fails. -/
def deliver (d : Discipline) (b : Batch) : Discipline × Except DeviceError Unit :=
  let (d, result) := d.writeEcho b.echo
  ({ d with queue := d.queue.write b.input }, result)

/-- **The bytes of a chunk**, behind those of a batch that is not delivered yet. -/
def processFrom (a : Attributes) (d : Discipline) (batch : Batch) :
    List UInt8 → Discipline × Except DeviceError Unit
  | [] => d.deliver batch
  | b :: rest =>
    let (state, effect) := step a d.state b
    let d := { d with state }
    let batch := batch.add effect
    match effect.signal with
    | none => processFrom a d batch rest
    | some signal =>
      match d.deliver batch with
      | (d, .ok ()) => processFrom a { d with pending := d.pending ++ [signal] } {} rest
      | (d, .error e) => (d, .error e)

/-- **A chunk of bytes processed.** The signals among them are recorded. -/
def process (a : Attributes) (d : Discipline) (bytes : List UInt8) :
    Discipline × Except DeviceError Unit :=
  processFrom a d {} bytes

/-- The signals recorded so far, and the discipline without them. -/
def takeSignals (d : Discipline) : List Signal × Discipline :=
  (d.pending, { d with pending := [] })

/-- **The end of input**: a line begun is delivered, and then the end. -/
def endOfInput (d : Discipline) : Discipline :=
  { d with
    queue := (d.queue.write d.state.line).close
    state := { d.state with line := [] } }

end Discipline

end Teletype
