import Teletype.Report.Supply
import Teletype.Text.Numeral
import Teletype.Text.Utf8

/-!
# Cursor reports

Asked where its cursor is, a terminal answers with a report in the midst of
other input. What the report looks like is given by a template: literal bytes
and two numbers, the row before the column.

## Finding a report

Input is collected until a suffix of it is a report. What stands before the
report is not part of it and is handed back. Collected bytes that cannot be the
start of a report are given up from the front, so that a report is found at the
earliest place where one ends.
-/

namespace Teletype

/-- A place on the screen, counted from zero. -/
structure Cursor where
  /-- The column. -/
  x : UInt16
  /-- The row. -/
  y : UInt16
  deriving DecidableEq, Repr

/-- **A part of a report.** -/
inductive ReportPart where
  /-- A byte that stands for itself. -/
  | literal (byte : UInt8)
  /-- A number in decimal digits. -/
  | number
  deriving DecidableEq, Repr

/-- **What a report looks like.** -/
structure ReportShape where
  /-- The parts, in order. -/
  parts : List ReportPart
  /-- Whether the terminal counts from one. -/
  oneBased : Bool
  deriving DecidableEq

namespace ReportShape

/-- The byte an escaped byte stands for. -/
def escaped (b : UInt8) : UInt8 := if b == 0x45 || b == 0x65 then 0x1b else b

/-- The parts a template names, and whether it counts from one. A number is `%d`,
a percent sign is `%%`, and `%p` only says which of the two numbers follows. Any
other operator cannot be part of a report. -/
def scan : List UInt8 → Option (List ReportPart × Bool)
  | [] => some ([], false)
  | 0x5c :: [] => some ([.literal 0x5c], false)
  | 0x5c :: e :: rest => (scan rest).map fun (ps, one) => (.literal (escaped e) :: ps, one)
  | 0x25 :: [] => some ([], false)
  | 0x25 :: 0x69 :: rest => (scan rest).map fun (ps, _) => (ps, true)
  | 0x25 :: 0x64 :: rest => (scan rest).map fun (ps, one) => (.number :: ps, one)
  | 0x25 :: 0x25 :: rest => (scan rest).map fun (ps, one) => (.literal 0x25 :: ps, one)
  | 0x25 :: 0x70 :: [] => some ([], false)
  | 0x25 :: 0x70 :: _ :: rest => scan rest
  | 0x25 :: _ :: _ => none
  | c :: rest => (scan rest).map fun (ps, one) => (.literal c :: ps, one)

/-- **The shape a template describes**, if it describes one: there are exactly two
numbers. -/
def ofTemplate? (template : String) : Option ReportShape := do
  let (parts, oneBased) ← scan (Text.bytesOf template)
  if parts.count .number = 2 then some ⟨parts, oneBased⟩ else none

/-- Whether a byte is a decimal digit. -/
def isDigit (b : UInt8) : Bool := 0x30 ≤ b && b ≤ 0x39

/-- A digit in front of the first of some runs of digits. -/
def consDigit (d : UInt8) : List (List UInt8) → List (List UInt8)
  | [] => [[d]]
  | ds :: fs => (d :: ds) :: fs

/-- **The digits of each number** in bytes that are the given parts. A number takes
as many digits as the parts after it allow: it goes on with the next digit if it
can, and ends before it otherwise. -/
def fields? : List ReportPart → List UInt8 → Option (List (List UInt8))
  | [], [] => some []
  | [], _ :: _ => none
  | _ :: _, [] => none
  | .literal b :: parts, c :: bytes => if c == b then fields? parts bytes else none
  | .number :: parts, c :: bytes =>
    if isDigit c then
      match fields? (.number :: parts) bytes with
      | some fs => some (consDigit c fs)
      | none => (fields? parts bytes).map ([c] :: ·)
    else none

/-- The number a run of digits stands for, if it fits in 64 bits. -/
def number? (digits : List UInt8) : Option Int :=
  Text.int64? (digits.map fun b => Char.ofNat b.toNat)

/-- A count brought into the range of a coordinate. -/
def coordinate (n : Int) : UInt16 := UInt16.ofNat (min n.toNat 65535)

/-- **The cursor a report tells of**, if the bytes are one. -/
def cursor? (shape : ReportShape) (bytes : List UInt8) : Option Cursor := do
  let [row, column] ← fields? shape.parts bytes | none
  let y ← number? row
  let x ← number? column
  let base := if shape.oneBased then 1 else 0
  some ⟨coordinate (x - base), coordinate (y - base)⟩

/-- Whether the bytes are the given parts, or could become them with more bytes. -/
def couldBecome : List ReportPart → List UInt8 → Bool
  | [], bytes => bytes.isEmpty
  | .literal _ :: _, [] => true
  | .literal b :: parts, c :: bytes => c == b && couldBecome parts bytes
  | .number :: parts, bytes =>
    match bytes.dropWhile isDigit with
    | [] => true
    | left =>
      if left.length = bytes.length || parts.isEmpty then false else couldBecome parts left

/-- **Whether more bytes could still make a report.** -/
def couldMatch (shape : ReportShape) (bytes : List UInt8) : Bool :=
  couldBecome shape.parts bytes

/-- **What has been collected** in search of a report. -/
structure Search where
  /-- The bytes given up. -/
  dropped : List UInt8 := []
  /-- The bytes that may be the start of a report. -/
  held : List UInt8 := []

/-- Bytes given up from the front of those held until the rest could be the start
of a report. -/
def giveUp (shape : ReportShape) (dropped : List UInt8) : List UInt8 → Search
  | [] => { dropped }
  | b :: rest =>
    if shape.couldMatch (b :: rest) then { dropped, held := b :: rest }
    else giveUp shape (dropped ++ [b]) rest

/-- **One more byte in the search**: the report found, with the bytes before it,
or the search that goes on. -/
def Search.push (shape : ReportShape) (s : Search) (b : UInt8) :
    Sum (Cursor × List UInt8) Search :=
  match shape.cursor? (s.held ++ [b]) with
  | some cursor => .inl (cursor, s.dropped)
  | none => .inr (giveUp shape s.dropped (s.held ++ [b]))

/-- **A report awaited**, with at most so many requests for a byte: the cursor and
the bytes that came before its report, or nothing when input ends first. -/
def await {σ : Type} (shape : ReportShape) (next : Action σ (Option UInt8)) :
    Nat → Search → Action σ (Option (Cursor × List UInt8))
  | 0, _ => pure none
  | requests + 1, s => do
    match ← next with
    | none => pure none
    | some b =>
      match s.push shape b with
      | .inl found => pure (some found)
      | .inr s => await shape next requests s

/-- **A report searched in a supply of bytes.** One request more than there are
bytes comes upon the end. -/
def find (shape : ReportShape) : Action Supply (Option (Cursor × List UInt8)) := do
  shape.await Supply.next ((← get).bytes.length + 1) {}

end ReportShape

end Teletype
