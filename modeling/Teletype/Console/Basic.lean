import Teletype.Action
import Teletype.Attributes.Basic
import Teletype.Report.Cursor
import Teletype.Report.Mouse

/-!
# Consoles

A console keeps two words of mode bits, one for input and one for output, and
the number of the code page in which output is read. They outlive whoever
changes them, so whoever does puts them back.

Any operation of a console may fail, except that the code page can always be
read. A change that fails changes nothing.

## The input mode

The bits of the input mode are coarser than attributes. `Console.modeFor` says
which of them stand for given attributes and mouse tracking. Echo is only
possible together with input in lines. While the mouse is tracked its clicks
cannot edit, and otherwise they may if they could before.
-/

namespace Teletype

/-- The operations of a console that may fail. -/
inductive ConsoleOperation where
  /-- Reading the input mode. -/
  | inputMode
  /-- Reading the output mode. -/
  | outputMode
  /-- Changing the input mode. -/
  | setInputMode
  /-- Changing the output mode. -/
  | setOutputMode
  /-- Changing the code page. -/
  | setCodePage
  /-- Reading the size. -/
  | size
  /-- Reading the place of the cursor. -/
  | cursor
  deriving DecidableEq

namespace ConsoleOperation

/-- The name of an operation. -/
def name : ConsoleOperation → String
  | inputMode => "input_mode"
  | outputMode => "output_mode"
  | setInputMode => "set_input_mode"
  | setOutputMode => "set_output_mode"
  | setCodePage => "set_output_code_page"
  | size => "size"
  | cursor => "cursor_position"

end ConsoleOperation

/-- **What outlives a program** in a console. -/
@[ext] structure ConsoleModes where
  /-- The input mode. -/
  input : UInt32
  /-- The output mode. -/
  output : UInt32
  /-- The code page of the output. -/
  codePage : UInt32
  deriving DecidableEq

/-- An attempt to change something. -/
structure ConsoleChange where
  /-- The operation. -/
  operation : ConsoleOperation
  /-- The new value. -/
  value : UInt32
  deriving DecidableEq

/-- **A console.** -/
structure Console where
  /-- The modes in force. -/
  modes : ConsoleModes
  /-- Whether it can be made to interpret escape sequences. -/
  interprets : Bool := true
  /-- The size of its window. -/
  size : Size
  /-- The place of its cursor. -/
  cursor : Cursor
  /-- Whether an operation fails, by the number of the call from zero. -/
  fails : Nat → ConsoleOperation → Bool := fun _ _ => false
  /-- How many calls there were. -/
  count : Nat := 0
  /-- The changes attempted, oldest first. -/
  changes : List ConsoleChange := []

namespace Console

/-! ## The bits -/

/-- Input comes in lines. -/
def lineInput : UInt32 := 0x02

/-- Input is echoed. -/
def echoInput : UInt32 := 0x04

/-- Changes of the window are reported. -/
def windowInput : UInt32 := 0x08

/-- The mouse is reported. -/
def mouseInput : UInt32 := 0x10

/-- What is typed is inserted. -/
def insertMode : UInt32 := 0x20

/-- Clicks select and edit. -/
def quickEdit : UInt32 := 0x40

/-- The bits for inserting and for clicks count. -/
def extended : UInt32 := 0x80

/-- Output may hold escape sequences. -/
def escapeSequences : UInt32 := 0x04

/-- The code page of UTF-8. -/
def utf8 : UInt32 := 65001

/-- **The input mode** for attributes and mouse tracking, given the mode there was
at first. -/
def modeFor (a : Attributes) (t : Tracking) (initial : UInt32) : UInt32 :=
  windowInput ||| extended ||| (initial &&& insertMode)
    ||| (if a.flag .icanon then lineInput ||| (if a.flag .echo then echoInput else 0) else 0)
    ||| (if t = .off then initial &&& quickEdit else mouseInput)

/-- The attributes at first: by default, with lines and echo as the input mode has
them, and with the erase character of the backspace key. -/
def attributesFor (mode : UInt32) : Attributes :=
  ((Attributes.usual.setFlag .icanon (mode &&& lineInput != 0)).setFlag .echo
    (mode &&& echoInput != 0)).setChar .erase (some 0x08)

/-! ## The operations -/

/-- A call of an operation, which may fail. -/
def call (operation : ConsoleOperation) : Action Console Unit := do
  let c ← get
  set { c with count := c.count + 1 }
  if c.fails c.count operation then throw (.device (.consoleFailed operation.name))

/-- An attempt to change something, remembered. -/
def change (operation : ConsoleOperation) (value : UInt32) : Action Console Unit := do
  modify fun c => { c with changes := c.changes ++ [⟨operation, value⟩] }
  call operation

/-- Reading the input mode. -/
def inputMode : Action Console UInt32 := do
  call .inputMode
  pure (← get).modes.input

/-- Reading the output mode. -/
def outputMode : Action Console UInt32 := do
  call .outputMode
  pure (← get).modes.output

/-- **Changing the input mode.** -/
def setInputMode (mode : UInt32) : Action Console Unit := do
  change .setInputMode mode
  modify fun c => { c with modes := { c.modes with input := mode } }

/-- **Changing the output mode.** Not every console interprets escape sequences. -/
def setOutputMode (mode : UInt32) : Action Console Unit := do
  change .setOutputMode mode
  if mode &&& escapeSequences != 0 && !(← get).interprets then
    throw (.device .noVirtualTerminal)
  modify fun c => { c with modes := { c.modes with output := mode } }

/-- **Changing the code page.** -/
def setCodePage (page : UInt32) : Action Console Unit := do
  change .setCodePage page
  modify fun c => { c with modes := { c.modes with codePage := page } }

/-- Reading the size. -/
def getSize : Action Console Size := do
  call .size
  pure (← get).size

/-- Reading the place of the cursor. -/
def getCursor : Action Console Cursor := do
  call .cursor
  pure (← get).cursor

/-- **Everything put back.** Whatever fails, the rest is tried; the first failure is
the result. The code page is only changed if it is another one. -/
def restore (initial : ConsoleModes) : Action Console Unit := do
  let input ← (setInputMode initial.input).attempt
  let output ← (setOutputMode initial.output).attempt
  let page ←
    if (← get).modes.codePage != initial.codePage then (setCodePage initial.codePage).attempt
    else pure (.ok ())
  input
  output
  page

end Console

end Teletype
