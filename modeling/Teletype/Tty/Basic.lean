import Teletype.Output
import Teletype.PolledReader
import Teletype.Tty.Settings

/-!
# A pseudoterminal

A pseudoterminal has two ends. What is written to the far end is input: the
kernel turns line ends and control characters into what they mean, collects and
edits lines when input comes in lines, and keeps what is to be read at the near
end. What is written at the near end comes out at the far end, with line ends
as the output flags ask.

Nobody is at the far end to see an echo, and no process is bound to the line, so
neither echoes nor signals come out of it here; a signal character still throws
away what was typed before it.

## The buffer

Input waits in one buffer. Some of its bytes end a line; an end of input is a
zero byte that ends a line and is not itself read. In lines, a read gives one
line at most, and only finished ones. Otherwise it gives what is there. When
input begins to come in lines, what is in the buffer becomes one line, and when
it ceases to, the marks are gone and zero bytes are bytes like any other.
-/

namespace Teletype

/-- A byte in the buffer of a pseudoterminal. -/
structure TtyCell where
  /-- The byte. -/
  byte : UInt8
  /-- Whether it ends a line. -/
  endsLine : Bool := false
  deriving DecidableEq

/-- **A pseudoterminal.** -/
structure Tty where
  /-- What the kernel keeps of it. -/
  settings : TtySettings := .fresh
  /-- The input that waits, oldest first. -/
  buffer : List TtyCell := []
  /-- Whether the next byte is taken as it is. -/
  quotes : Bool := false
  /-- The output that has not been fetched at the far end. -/
  output : List UInt8 := []
  /-- Whether the far end is gone. -/
  hungUp : Bool := false

namespace Tty

/-- The attributes in force. -/
def flags (t : Tty) : Attributes := t.settings.attributes

/-- The last byte marked as a line end. -/
def markLast : List TtyCell → List TtyCell
  | [] => []
  | [c] => [{ c with endsLine := true }]
  | c :: rest => c :: markLast rest

/-- The buffer when input begins or ceases to come in lines. -/
def remark (inLines : Bool) (buffer : List TtyCell) : List TtyCell :=
  let plain := buffer.map fun c => { c with endsLine := false }
  if inLines then markLast plain else plain

/-- **Attributes written.** -/
def setAttributes (t : Tty) (a : Attributes) : Tty :=
  let settings := t.settings.setAttributes a
  let before := t.flags.flag .icanon
  let after := settings.attributes.flag .icanon
  if before == after then { t with settings }
  else { t with settings, buffer := remark after t.buffer, quotes := false }

/-- The finished lines of the buffer. -/
def finished (buffer : List TtyCell) : List TtyCell :=
  (buffer.reverse.dropWhile fun c => !c.endsLine).reverse

/-- The line that is being collected. -/
def unfinished (buffer : List TtyCell) : List UInt8 :=
  (buffer.reverse.takeWhile fun c => !c.endsLine).reverse.map (·.byte)

/-- The buffer with another line being collected. -/
def withLine (t : Tty) (line : List UInt8) : Tty :=
  { t with buffer := finished t.buffer ++ line.map fun byte => { byte } }

/-- Whether a byte continues a character of several bytes. -/
def continues (a : Attributes) (b : UInt8) : Bool := a.flag .iutf8 && b &&& 0xc0 == 0x80

/-- The line without its last character; it is given with its end in front. -/
def dropLast (a : Attributes) (reversed : List UInt8) : List UInt8 :=
  (reversed.dropWhile (continues a)).tail

/-- Whether a byte belongs to a word. -/
def isWordByte (b : UInt8) : Bool :=
  (0x30 ≤ b && b ≤ 0x39) || (0x41 ≤ b && b ≤ 0x5a) || (0x61 ≤ b && b ≤ 0x7a) || b == 0x5f ||
    (0xc0 ≤ b && b != 0xd7 && b != 0xf7)

/-- The line without its last word; it is given with its end in front. -/
def dropLastWord (reversed : List UInt8) : List UInt8 :=
  (reversed.dropWhile fun b => !isWordByte b).dropWhile isWordByte

/-- A byte put at the end of the buffer; where parity errors are marked, a byte of
ones is doubled. -/
def put (t : Tty) (b : UInt8) (endsLine : Bool) : Tty :=
  let twice := t.flags.flag .parmrk && b == 0xff
  let doubled := if twice then [{ byte := b }] else []
  { t with buffer := t.buffer ++ doubled ++ [{ byte := b, endsLine }] }

/-- The byte that is left of a line end, if any. -/
def lineEnd (a : Attributes) (b : UInt8) : Option UInt8 :=
  if b == carriageReturn then
    if a.flag .igncr then none else some (if a.flag .icrnl then lineFeed else b)
  else if b == lineFeed && a.flag .inlcr then some carriageReturn
  else some b

/-- **Editing**: what a byte does when input comes in lines. -/
def edit (t : Tty) (b : UInt8) : Tty :=
  let a := t.flags
  let extended := a.flag .iexten
  let reversed := (unfinished t.buffer).reverse
  if a.isChar .erase b then t.withLine (dropLast a reversed).reverse
  else if a.isChar .kill b then t.withLine []
  else if extended && a.isChar .werase b then t.withLine (dropLastWord reversed).reverse
  else if extended && a.isChar .lnext b then { t with quotes := true }
  else if extended && a.flag .echo && a.isChar .reprint b then t
  else if b == lineFeed then t.put b true
  else if a.isChar .eof b then { t with buffer := t.buffer ++ [{ byte := 0, endsLine := true }] }
  else if a.isChar .eol b || (extended && a.isChar .eol2 b) then t.put b true
  else t.put b false

/-- Whether a byte starts or stops the output. -/
def isFlow (a : Attributes) (b : UInt8) : Bool :=
  a.flag .ixon && (a.isChar .start b || a.isChar .stop b)

/-- Whether a byte stands for a signal. -/
def isSignal (a : Attributes) (b : UInt8) : Bool :=
  a.flag .isig && (a.isChar .intr b || a.isChar .quit b || a.isChar .susp b)

/-- **One byte of input.** -/
def receive (t : Tty) (byte : UInt8) : Tty :=
  let a := t.flags
  let b := if a.flag .istrip then byte &&& 0x7f else byte
  if t.quotes then { t with quotes := false }.put b false
  else if isFlow a b then t
  else if isSignal a b then if a.flag .noflsh then t else { t with buffer := [] }
  else
    match lineEnd a b with
    | none => t
    | some b => if a.flag .icanon then t.edit b else t.put b false

/-- **Input written at the far end.** -/
def write (t : Tty) (bytes : List UInt8) : Tty := bytes.foldl receive t

/-- **Output written at the near end.** -/
def putOut (t : Tty) (bytes : List UInt8) : Tty :=
  { t with output := t.output ++ t.flags.output bytes }

/-- The far end closed. What had not been read is gone. -/
def hangUp (t : Tty) : Tty := { t with hungUp := true, buffer := [] }

/-- How many bytes there have to be before a read is worth its while: the least
count asked for, unless there is a limit on the wait. -/
def threshold (t : Tty) : Nat :=
  let least := ((t.flags.char .min).getD 0).toNat
  if (t.flags.char .time).getD 0 == 0 && least != 0 then least else 1

/-- Whether a read would find something. -/
def readable (t : Tty) : Bool :=
  t.hungUp ||
    if t.flags.flag .icanon then t.buffer.any (·.endsLine)
    else t.threshold ≤ t.buffer.length

/-- The first line of a buffer, at most so many bytes of it, and the rest. -/
def takeLine : Nat → List TtyCell → List UInt8 × List TtyCell
  | 0, buffer => ([], buffer)
  | _, [] => ([], [])
  | n + 1, c :: rest =>
    if c.endsLine then (if c.byte == 0 then [] else [c.byte], rest)
    else
      let (line, rest) := takeLine n rest
      (c.byte :: line, rest)

/-- **A read at the near end**, of at most so many bytes. -/
def take (n : Nat) (t : Tty) : List UInt8 × Tty :=
  if t.hungUp then ([], t)
  else if t.flags.flag .icanon then
    let (line, buffer) := takeLine n t.buffer
    (line, { t with buffer })
  else ((t.buffer.take n).map (·.byte), { t with buffer := t.buffer.drop n })

instance : PolledSource Tty where
  readable := Tty.readable
  take := Tty.take

end Tty

end Teletype
