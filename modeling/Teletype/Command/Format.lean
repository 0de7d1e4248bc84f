import Teletype.Command.Basic
import Teletype.Command.Escape
import Teletype.Template.Conversion

/-!
# Formats

`printf` prints its arguments as a format says: bytes, escapes, and directives
that each take an argument. The format is used once more as long as arguments
are left over and it takes some.

The program and the command of the shell differ in their escapes, in what they
complain of, and in the status of a format that is broken.
-/

namespace Teletype.Format

/-! ## Directives -/

/-- A count in a directive. -/
inductive Count where
  /-- It is written. -/
  | given (n : Nat)
  /-- It is an argument. -/
  | argument

/-- **A directive**, without its letter. -/
structure Directive where
  /-- `-`: fill on the right. -/
  left : Bool := false
  /-- `+`: a sign in front of numbers that are not negative. -/
  plus : Bool := false
  /-- A space in front of numbers that are not negative. -/
  space : Bool := false
  /-- `#`: a mark of the base. -/
  alternate : Bool := false
  /-- `0`: fill with zeros. -/
  zero : Bool := false
  /-- The least number of bytes. -/
  width : Count := .given 0
  /-- The least number of digits, or the greatest number of bytes. -/
  precision : Option Count := none

/-- **A piece of a format.** -/
inductive Piece where
  /-- Something that takes no argument. -/
  | plain (escaped : Escaped)
  /-- A directive and its letter. -/
  | directive (d : Directive) (letter : Char)
  /-- A directive that is not understood, or has no letter. -/
  | broken (written : String) (cut : Bool)

/-- The flags of a directive. -/
def readFlags (d : Directive) : List Char → Directive × List Char
  | '-' :: cs => readFlags { d with left := true } cs
  | '+' :: cs => readFlags { d with plus := true } cs
  | ' ' :: cs => readFlags { d with space := true } cs
  | '#' :: cs => readFlags { d with alternate := true } cs
  | '0' :: cs => readFlags { d with zero := true } cs
  | cs => (d, cs)

/-- A count of a directive. -/
def readCount (cs : List Char) : Count × List Char :=
  match cs with
  | '*' :: rest => (.argument, rest)
  | _ =>
    (.given ((cs.takeWhile Char.isDigit).foldl (fun n c => n * 10 + (c.toNat - 48)) 0),
      cs.dropWhile Char.isDigit)

/-- A precision of a directive. -/
def readPrecision : List Char → Option Count × List Char
  | '.' :: rest =>
    let (count, rest) := readCount rest
    (some count, rest)
  | cs => (none, cs)

/-- Whether a letter only says how long a number is. -/
def isModifier (c : Char) : Bool := ['h', 'l', 'j', 't', 'z'].contains c

/-- Whether a letter ends a directive. -/
def isLetter (c : Char) : Bool := ['d', 'i', 'o', 'u', 'x', 'X', 'c', 's', 'b'].contains c

/-- The characters at the front of a text that is longer than another. -/
def readSoFar (cs rest : List Char) : String :=
  String.ofList (cs.take (cs.length - rest.length))

/-- **The directive behind a percent sign.** Numbers may have modifiers, and texts with
escapes may be filled up, in some manners of printing only. -/
def readDirective (modifiers fillsTexts : Bool) (cs : List Char) : Piece × List Char :=
  let (d, rest) := readFlags {} cs
  let (width, rest) := readCount rest
  let (precision, rest) := readPrecision rest
  let rest := if modifiers then rest.dropWhile isModifier else rest
  match rest with
  | [] => (.broken ("%" ++ readSoFar cs rest) true, [])
  | c :: left =>
    if isLetter c && (c != 'b' || fillsTexts || cs.length = rest.length) then
      (.directive { d with width, precision } c, left)
    else (.broken ("%" ++ readSoFar cs left) false, left)

/-- The pieces of a format, at most so many. -/
def readPieces (style : EscapeStyle) (modifiers fillsTexts : Bool) :
    Nat → List Char → List Piece
  | 0, _ => []
  | _ + 1, [] => []
  | n + 1, c :: cs =>
    let (piece, rest) : Piece × List Char :=
      match c, cs with
      | '%', '%' :: rest => (.plain (.bytes [0x25]), rest)
      | '%', cs => readDirective modifiers fillsTexts cs
      | c, cs =>
        let (escaped, rest) := (if c == '\\' then style.escape? cs else none).getD
          (.bytes (String.utf8EncodeChar c), cs)
        (.plain escaped, rest)
    piece :: readPieces style modifiers fillsTexts n rest

/-! ## Numbers in arguments -/

/-- What may be wrong with a number in an argument. -/
inductive Flaw where
  /-- It is none. -/
  | noNumber
  /-- Something follows it. -/
  | incomplete
  /-- It is beyond 64 bits. -/
  | outOfRange
  deriving DecidableEq

/-- The radix that the front of a number tells, and its digits. -/
def radixOf : List Char → Nat × List Char
  | '0' :: 'x' :: c :: cs =>
    if EscapeStyle.isDigitOf 16 c then (16, c :: cs) else (8, '0' :: 'x' :: c :: cs)
  | '0' :: cs => (8, '0' :: cs)
  | cs => (10, cs)

/-- A number brought between two bounds, and what is wrong if that changes it. -/
def clamp (least greatest n : Int) : Int × Option Flaw :=
  if n < least then (least, some .outOfRange)
  else if greatest < n then (greatest, some .outOfRange)
  else (n, none)

/-- The sign of a number, and what follows it. -/
def signOf : List Char → Int × List Char
  | '-' :: cs => (-1, cs)
  | '+' :: cs => (1, cs)
  | cs => (1, cs)

/-- **The number an argument stands for**, and what is wrong with it. A quotation mark
makes a number of the byte behind it, and no text at all is zero. -/
def numberOf (signed : Bool) (argument : String) : Int × Option Flaw :=
  match argument.toList with
  | [] => (0, none)
  | q :: c :: _ =>
    if q == '"' || q.toNat == 39 then
      ((((String.utf8EncodeChar c).map UInt8.toNat).headD 0 : Nat), none)
    else numeral
  | _ => numeral
where
  /-- The number of a numeral. -/
  numeral : Int × Option Flaw :=
    let (sign, cs) := signOf (argument.toList.dropWhile Char.isWhitespace)
    let (radix, cs) := radixOf cs
    let ds := cs.takeWhile (EscapeStyle.isDigitOf radix)
    if ds.isEmpty then (0, some .noNumber)
    else
      let n : Int := ds.foldl (fun n c => n * radix + EscapeStyle.digitValue c) 0
      let (n, flaw) :=
        if signed then clamp (-9223372036854775808) 9223372036854775807 (sign * n)
        else clamp (-18446744073709551615) 18446744073709551615 (sign * n)
      (n, if flaw.isNone && ds.length < cs.length then some .incomplete else flaw)

/-! ## Writing -/

/-- Bytes filled up to a width. -/
def fill (d : Directive) (width : Nat) (bytes : List UInt8) : List UInt8 :=
  let blanks := List.replicate (width - bytes.length) 0x20
  if d.left then bytes ++ blanks else blanks ++ bytes

/-- A number as a directive writes it. -/
def writeNumber (d : Directive) (width : Nat) (precision : Option Nat) (letter : Char) (n : Int) :
    List UInt8 :=
  let signed := letter == 'd' || letter == 'i'
  let size := if signed then n.natAbs else (n % 18446744073709551616).toNat
  let kind : Template.Letter :=
    if letter == 'o' then .octal
    else if letter == 'x' then .hex
    else if letter == 'X' then .upperHex
    else .decimal
  let ds := if precision = some 0 && size = 0 then [] else Template.Conversion.digits kind size
  let ds := Template.Conversion.zeroFill (precision.getD 0) ds
  let mark : List Char :=
    if !d.alternate then []
    else if letter == 'o' && ds.head? != some '0' then ['0']
    else if (letter == 'x' || letter == 'X') && size != 0 then ['0', letter]
    else []
  let sign : List Char :=
    if !signed then []
    else if n < 0 then ['-']
    else if d.plus then ['+']
    else if d.space then [' ']
    else []
  let zeros :=
    if d.zero && !d.left && precision.isNone then width - sign.length - mark.length else 0
  fill d width (Text.utf8 (sign ++ mark ++ Template.Conversion.zeroFill zeros ds))

/-! ## Printing -/

/-- **A way of printing**: what differs between the program and the command. -/
structure Manner where
  /-- What a complaint begins with. -/
  heading : String
  /-- The escapes in formats. -/
  escapes : EscapeStyle
  /-- Whether directives may say how long a number is. -/
  modifiers : Bool
  /-- Whether texts with escapes can be filled up and cut. -/
  fillsTexts : Bool
  /-- How an argument is named in a complaint. -/
  name : String → String
  /-- The complaint of an argument that is no number. -/
  noNumber : String
  /-- The complaint of an argument that goes on behind its number. -/
  incomplete : String
  /-- The complaint of a directive that is not understood, or has no letter. -/
  broken : String → Bool → String
  /-- The status of a format that is broken. -/
  brokenStatus : Nat

/-- **What has been printed**, and what is left to print. -/
structure Progress where
  /-- The arguments left. -/
  arguments : List String
  /-- What has been printed. -/
  output : List UInt8 := []
  /-- The complaints. -/
  complaint : List UInt8 := []
  /-- The status. -/
  status : Nat := 0
  /-- Whether printing has ended. -/
  ended : Bool := false

namespace Progress

/-- One more complaint, which makes printing fail. -/
def complain (p : Progress) (m : Manner) (text : String) (status : Nat) : Progress :=
  { p with complaint := p.complaint ++ Text.bytesOf (m.heading ++ text ++ "\n"), status }

/-- The next argument, if one is left. -/
def next (p : Progress) : Option String × Progress :=
  (p.arguments.head?, { p with arguments := p.arguments.tail })

/-- More printed. -/
def print (p : Progress) (bytes : List UInt8) : Progress := { p with output := p.output ++ bytes }

/-- The next argument as a number. -/
def number (p : Progress) (m : Manner) (signed : Bool) : Int × Progress :=
  let (argument, p) := p.next
  let argument := argument.getD ""
  match numberOf signed argument with
  | (n, none) => (n, p)
  | (n, some flaw) =>
    let text := match flaw with
      | .noNumber => m.noNumber
      | .incomplete => m.incomplete
      | .outOfRange => "Numerical result out of range"
    (n, p.complain m (m.name argument ++ ": " ++ text) 1)

/-- A count, which may be the next argument. -/
def count (p : Progress) (m : Manner) : Count → Int × Progress
  | .given n => (n, p)
  | .argument => p.number m true

/-- A directive carried out. -/
def direct (p : Progress) (m : Manner) (d : Directive) (letter : Char) : Progress :=
  let (width, p) := p.count m d.width
  let (precision, p) : Option Int × Progress := match d.precision with
    | none => (none, p)
    | some c =>
      let (n, p) := p.count m c
      (some n, p)
  let d := if width < 0 then { d with left := true } else d
  let width := width.natAbs
  let precision := precision.bind fun n => if n < 0 then none else some n.toNat
  let cut (bytes : List UInt8) := fill d width (match precision with
    | some n => bytes.take n
    | none => bytes)
  if letter == 's' then
    let (argument, p) := p.next
    p.print (cut (Text.bytesOf (argument.getD "")))
  else if letter == 'c' then
    let (argument, p) := p.next
    p.print (fill d width [((Text.bytesOf (argument.getD "")).head?).getD 0])
  else if letter == 'b' then
    let (argument, p) := p.next
    let style := { m.escapes with skipsZero := true, stops := true }
    let (bytes, stopped) := style.resolve (argument.getD "")
    { p.print (cut bytes) with ended := stopped }
  else
    let (n, p) := p.number m (letter == 'd' || letter == 'i')
    p.print (writeNumber d width precision letter n)

/-- A piece of the format carried out. -/
def step (m : Manner) (p : Progress) (piece : Piece) : Progress :=
  if p.ended then p
  else
    match piece with
    | .plain (.bytes content) => p.print content
    | .plain .stop => { p with ended := true }
    | .plain .noDigits =>
      { p.complain m "missing hexadecimal number in escape" 1 with ended := true }
    | .broken written cut =>
      { p.complain m (m.broken written cut) m.brokenStatus with ended := true }
    | .directive d letter => p.direct m d letter

/-- The format used as long as it takes arguments and some are left, at most so
often. -/
def passes (m : Manner) (pieces : List Piece) : Nat → Progress → Progress
  | 0, p => p
  | n + 1, p =>
    let after := pieces.foldl (step m) p
    if after.ended || after.arguments.isEmpty || after.arguments.length = p.arguments.length then
      after
    else passes m pieces n after

end Progress

/-- **What printing arguments by a format leaves behind.** -/
def print (m : Manner) (template : String) (arguments : List String) : Outcome :=
  let pieces :=
    readPieces m.escapes m.modifiers m.fillsTexts template.length template.toList
  let p := Progress.passes m pieces (arguments.length + 1) { arguments }
  { output := p.output, complaint := p.complaint, status := .exited p.status }

end Teletype.Format
