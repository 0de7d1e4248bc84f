import Teletype.Attributes.Flag

/-!
# Attributes of a terminal

The attributes say how a terminal treats what passes through it: which flags
are on, and which bytes have a meaning as control characters. They are neutral
about what carries them out – a line discipline in software, a kernel, or a
settings program.

A control character that has no byte is disabled. Two of the slots hold counts
and not characters: the least number of bytes a raw read returns and how long
it waits.
-/

namespace Teletype

/-- **A slot of the control character table.** -/
inductive ControlChar where
  /-- Ends the input, or the line when one is pending. -/
  | eof
  /-- Ends a line. -/
  | eol
  /-- Ends a line, too. -/
  | eol2
  /-- Erases the last character. -/
  | erase
  /-- Erases the last word. -/
  | werase
  /-- Erases the line. -/
  | kill
  /-- Prints the line again. -/
  | reprint
  /-- Interrupts. -/
  | intr
  /-- Quits. -/
  | quit
  /-- Suspends. -/
  | susp
  /-- Suspends when read. -/
  | dsusp
  /-- Restarts output. -/
  | start
  /-- Stops output. -/
  | stop
  /-- Quotes the next character. -/
  | lnext
  /-- Discards output. -/
  | discard
  /-- The least count of a raw read. -/
  | min
  /-- The patience of a raw read, in tenths of a second. -/
  | time
  /-- Asks for the status. -/
  | status
  deriving DecidableEq

namespace ControlChar

/-- **All slots**, in the order in which listings print them. -/
def all : List ControlChar :=
  [.eof, .eol, .eol2, .erase, .werase, .kill, .reprint, .intr, .quit, .susp, .dsusp,
   .start, .stop, .lnext, .discard, .min, .time, .status]

/-- Every slot is in the list of all slots. -/
theorem mem_all (c : ControlChar) : c ∈ all := by cases c <;> decide

/-- **The name of a slot** in a settings listing. -/
def name : ControlChar → String
  | eof => "eof"
  | eol => "eol"
  | eol2 => "eol2"
  | erase => "erase"
  | werase => "werase"
  | kill => "kill"
  | reprint => "reprint"
  | intr => "intr"
  | quit => "quit"
  | susp => "susp"
  | dsusp => "dsusp"
  | start => "start"
  | stop => "stop"
  | lnext => "lnext"
  | discard => "discard"
  | min => "min"
  | time => "time"
  | status => "status"

/-- The slot with a name. -/
def ofName? (s : String) : Option ControlChar := all.find? fun c => c.name == s

/-- Two slots hold counts. -/
def isCount : ControlChar → Bool
  | min => true
  | time => true
  | _ => false

end ControlChar

/-- A window size in character cells. -/
structure Size where
  /-- Cells in a row. -/
  columns : UInt16
  /-- Cells in a column. -/
  rows : UInt16
  deriving DecidableEq

/-- A size is written columns first. -/
def Size.text (s : Size) : String := toString s.columns.toNat ++ "x" ++ toString s.rows.toNat

/-- **The attributes of a terminal.** -/
@[ext] structure Attributes where
  /-- Which flags are on. -/
  flag : Flag → Bool := fun _ => false
  /-- The byte of each slot, if it has one. -/
  char : ControlChar → Option UInt8 := fun _ => none

namespace Attributes

/-- All flags off and all slots disabled. -/
def empty : Attributes := {}

instance : Inhabited Attributes := ⟨empty⟩

/-- The attributes with a flag switched. -/
def setFlag (a : Attributes) (f : Flag) (on : Bool) : Attributes :=
  { a with flag := fun g => if g = f then on else a.flag g }

/-- The attributes with several flags switched. -/
def setFlags (a : Attributes) (fs : List Flag) (on : Bool) : Attributes :=
  { a with flag := fun g => if g ∈ fs then on else a.flag g }

/-- The attributes with a slot changed. -/
def setChar (a : Attributes) (c : ControlChar) (value : Option UInt8) : Attributes :=
  { a with char := fun d => if d = c then value else a.char d }

@[simp] theorem flag_setFlag (a : Attributes) (f g : Flag) (on : Bool) :
    (a.setFlag f on).flag g = if g = f then on else a.flag g := rfl

@[simp] theorem char_setFlag (a : Attributes) (f : Flag) (on : Bool) :
    (a.setFlag f on).char = a.char := rfl

@[simp] theorem char_setChar (a : Attributes) (c d : ControlChar) (value : Option UInt8) :
    (a.setChar c value).char d = if d = c then value else a.char d := rfl

@[simp] theorem flag_setChar (a : Attributes) (c : ControlChar) (value : Option UInt8) :
    (a.setChar c value).flag = a.flag := rfl

/-- **Whether a byte is a control character.** Counts are not characters, and a
disabled slot has none. -/
def isChar (a : Attributes) (c : ControlChar) (b : UInt8) : Bool :=
  !c.isCount && a.char c == some b

/-- **Raw mode**: no lines, no echo, no quoting and no signals, input bytes as
they come, and reads that return after at most a tenth of a second. -/
def makeRaw (a : Attributes) : Attributes :=
  (((a.setFlags [.icanon, .echo, .iexten, .isig] false).setFlags [.ixon, .icrnl, .inlcr]
    false).setChar .min (some 0)).setChar .time (some 1)

/-- The flags that are on by default. -/
def usualFlags : List Flag :=
  [.brkint, .icrnl, .ixon, .ixany, .imaxbel, .iutf8, .opost, .onlcr, .cs8, .cread, .hupcl,
   .echoke, .echoe, .echo, .echoctl, .isig, .icanon, .iexten, .pendin]

/-- The control characters by default. -/
def usualChar : ControlChar → Option UInt8
  | .eof => some 0x04
  | .eol => none
  | .eol2 => none
  | .erase => some 0x7f
  | .werase => some 0x17
  | .kill => some 0x15
  | .reprint => some 0x12
  | .intr => some 0x03
  | .quit => some 0x1c
  | .susp => some 0x1a
  | .dsusp => some 0x19
  | .start => some 0x11
  | .stop => some 0x13
  | .lnext => some 0x16
  | .discard => some 0x0f
  | .min => some 1
  | .time => some 0
  | .status => some 0x14

/-- **The attributes of a fresh terminal**: lines with echo and signals, and
output that returns the carriage at line ends. -/
def usual : Attributes := { flag := fun f => decide (f ∈ usualFlags), char := usualChar }

end Attributes

end Teletype
