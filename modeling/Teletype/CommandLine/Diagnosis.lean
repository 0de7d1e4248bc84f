import Teletype.Attributes.Listing
import Teletype.CommandLine.Failure
import Teletype.Terminal.Report

/-!
# Diagnosing a terminal

There are two ways to look at a terminal. The report prints what is known of it:
names, size, attributes and a choice of capabilities. The other way is to type:
in raw mode each byte is shown as it arrives, until a `q` or the end of input,
and then the attributes are as before.
-/

namespace Teletype.CommandLine

/-- **A part of the work**: it changes a state, and may fail with an account of what
was being done. -/
abbrev Work (σ α : Type) : Type := ExceptT Failure (StateM σ) α

namespace Work

variable {σ α : Type}

/-- An operation as a part of the work; its failure is told with what was being done,
if that is given. -/
def doing (context : Option String) (m : Action σ α) : Work σ α := fun s =>
  match m.runOn s with
  | (.ok a, s) => (.ok a, s)
  | (.error error, s) => (.error ⟨context, error⟩, s)

/-- Work whose failure is looked at. -/
def attempt (m : Work σ α) : Work σ (Except Failure α) := fun s =>
  let (r, s) := m s
  (.ok r, s)

end Work

variable {δ : Type} [Device δ]

/-- A text written to the terminal. -/
def say (text : String) : Work (Terminal δ) Unit := fun t =>
  match t.write (Text.bytesOf text) with
  | (.ok (), t) => (.ok (), t)
  | (.error e, t) => (.error ⟨none, .device e⟩, t)

/-- A text filled up with blanks to a width. -/
def padEnd (width : Nat) (text : String) : String :=
  text ++ String.ofList (List.replicate (width - text.length) ' ')

/-- A text filled up in front. -/
def padStart (width : Nat) (text : String) : String :=
  String.ofList (List.replicate (width - text.length) ' ') ++ text

/-! ## The report -/

/-- A line with a heading. -/
def headed (heading value : String) : String := padEnd 12 (heading ++ ":") ++ value ++ "\n"

/-- A template as it is shown: an escape has a spelling of its own. -/
def templateText (template : String) : String :=
  String.ofList ((Text.bytesOf template).flatMap fun b =>
    if b == 0x1b then ['\\', 'E'] else Text.caret b)

/-- The capabilities in the report. -/
def reported : List Capability :=
  [.columns, .lines, .maxColors, .autoRightMargin, .clearScreen, .cursorAddress, .keyUp,
   .keyBackspace, .keyMouse, .user6, .user7]

/-- What a description says of a capability. -/
def valueText (d : Description) (c : Capability) : String :=
  if d.flag c then "true"
  else
    match d.number c with
    | some n => toString n
    | none => ((d.text c).map templateText).getD "-"

/-- The line of a capability. -/
def capabilityLine (d : Description) (c : Capability) : String :=
  "  " ++ padEnd 8 c.name ++ " " ++ valueText d c ++ "\n"

/-- The first part of the report. -/
def heading (t : Terminal δ) : String :=
  headed "Name" t.name ++ headed "Type" t.type ++ headed "Backend" (Device.kind t.device)

/-- How a size is told, and how that there is none. -/
def sizeText : Except TerminalError Size → String
  | .ok s => s.text
  | .error e => "unavailable (" ++ e.message ++ ")"

/-- What the terminal can do. -/
def abilities (t : Terminal δ) : String :=
  headed "Mouse" (toString t.hasMouse) ++ headed "Pausable" (toString t.canPause) ++ "\n"

/-- **The report.** A size that cannot be had is told as such; attributes that cannot
be had end the report. -/
def report : Work (Terminal δ) Unit := do
  say (heading (δ := δ) (← get))
  let size ← Work.doing none (Terminal.size (δ := δ)).attempt
  say (headed "Size" (sizeText size))
  say (abilities (δ := δ) (← get))
  let a ← Work.doing (some "Unable to read terminal attributes") (Terminal.attributes (δ := δ))
  say (a.listing ++ "\n\nCapabilities:\n")
  let d := (← get).description
  say (String.join (reported.map (capabilityLine d)))

/-! ## Showing bytes -/

/-- A digit in radix sixteen. -/
def hexDigit (n : Nat) : Char := (Nat.toDigits 16 n).headD '0'

/-- The line that shows a byte: in decimal, in radix sixteen, and in caret
notation. -/
def byteLine (b : UInt8) : String :=
  padStart 3 (toString b.toNat) ++ "  0x"
    ++ String.ofList [hexDigit (b.toNat / 16), hexDigit (b.toNat % 16)]
    ++ "  " ++ String.ofList (Text.caret b) ++ "\r\n"

/-- The byte that ends showing bytes. -/
def quitByte : UInt8 := 0x71

/-- Bytes shown one by one, at most so many. -/
def showBytes : Nat → Work (Terminal δ) Unit
  | 0 => pure ()
  | n + 1 => do
    match ← Work.doing none (Terminal.next (δ := δ)) with
    | none => pure ()
    | some b =>
      if b == quitByte then pure ()
      else
        say (byteLine b)
        showBytes n

/-- **Bytes shown as they are typed**, in raw mode. Whatever happens while they are
shown, the attributes are put back; that they cannot be is worse than what happened. -/
def bytesShown : Work (Terminal δ) Unit := do
  let before ← Work.doing (some "Unable to enter raw mode") (Terminal.enterRawMode (δ := δ))
  say "Press keys to see their bytes, q to quit\r\n"
  let shown ← (showBytes (δ := δ) (Device.unread (← get).device + 1)).attempt
  Work.doing (some "Unable to restore terminal attributes") (Terminal.setAttributes before)
  shown

end Teletype.CommandLine
