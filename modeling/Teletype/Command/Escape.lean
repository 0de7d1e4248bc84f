import Teletype.Text.Utf8

/-!
# Backslash escapes in arguments

Programs that print their arguments resolve escapes in them: a backslash and a
letter, octal digits, and perhaps hexadecimal ones stand for a byte. Which
escapes there are is a matter of style. A backslash that starts none of them
stands for itself.
-/

namespace Teletype

/-- **A style of escapes.** -/
structure EscapeStyle where
  /-- Whether a zero in front of octal digits is not counted among the three. -/
  skipsZero : Bool := false
  /-- Whether `\x` and up to two hexadecimal digits stand for a byte. -/
  hex : Bool := false
  /-- Whether `\x` needs a digit. -/
  hexNeedsDigit : Bool := false
  /-- Whether a quotation mark may be escaped. -/
  quotes : Bool := false
  /-- Whether `\c` ends all output. -/
  stops : Bool := false

/-- **What a piece of text comes to** when its escapes are resolved. -/
inductive Escaped where
  /-- Bytes. -/
  | bytes (content : List UInt8)
  /-- The end of all output. -/
  | stop
  /-- A failure: there are no digits where some are needed. -/
  | noDigits

namespace EscapeStyle

/-- The control character a letter stands for after a backslash. -/
def letter? : Char → Option UInt8
  | 'a' => some 7
  | 'b' => some 8
  | 'e' => some 27
  | 'f' => some 12
  | 'n' => some 10
  | 'r' => some 13
  | 't' => some 9
  | 'v' => some 11
  | '\\' => some 92
  | _ => none

/-- The value of a digit. -/
def digitValue (c : Char) : Nat :=
  if c.isDigit then c.toNat - 48 else c.toLower.toNat - 87

/-- Whether a character is a digit of a radix. -/
def isDigitOf (radix : Nat) (c : Char) : Bool :=
  (c.isDigit || ('a' ≤ c.toLower && c.toLower ≤ 'f')) && digitValue c < radix

/-- Up to so many digits of a radix off the front. -/
def digits (radix : Nat) : Nat → List Char → List Char × List Char
  | 0, cs => ([], cs)
  | _ + 1, [] => ([], [])
  | n + 1, c :: cs =>
    if isDigitOf radix c then
      let (ds, rest) := digits radix n cs
      (c :: ds, rest)
    else ([], c :: cs)

/-- The byte of digits in a radix. -/
def byteOf (radix : Nat) (ds : List Char) : UInt8 :=
  UInt8.ofNat (ds.foldl (fun n c => n * radix + digitValue c) 0)

/-- The escape of octal digits, if there are some. -/
def octal? (style : EscapeStyle) (cs : List Char) : Option (Escaped × List Char) :=
  let counted := match cs with
    | '0' :: rest => if style.skipsZero then rest else cs
    | _ => cs
  match digits 8 3 counted with
  | ([], rest) => if counted.length = cs.length then none else some (.bytes [0], rest)
  | (ds, rest) => some (.bytes [byteOf 8 ds], rest)

/-- The escape of hexadecimal digits, behind its `x`. -/
def hex? (style : EscapeStyle) (cs : List Char) : Option (Escaped × List Char) :=
  if !style.hex then none
  else
    match digits 16 2 cs with
    | ([], rest) => if style.hexNeedsDigit then some (.noDigits, rest) else none
    | (ds, rest) => some (.bytes [byteOf 16 ds], rest)

/-- **The escape that starts behind a backslash**, if one does. -/
def escape? (style : EscapeStyle) (cs : List Char) : Option (Escaped × List Char) :=
  match cs with
  | [] => none
  | c :: rest =>
    match letter? c with
    | some b => some (.bytes [b], rest)
    | none =>
      if c == 'c' && style.stops then some (.stop, rest)
      else if c == '"' && style.quotes then some (.bytes [0x22], rest)
      else if c == 'x' then style.hex? rest
      else style.octal? cs

/-- The bytes of a text with its escapes resolved, in at most so many steps, and
whether they end all output. -/
def resolveFor (style : EscapeStyle) : Nat → List Char → List UInt8 × Bool
  | 0, _ => ([], false)
  | _ + 1, [] => ([], false)
  | steps + 1, c :: cs =>
    let (escaped, rest) := (if c == '\\' then style.escape? cs else none).getD
      (.bytes (String.utf8EncodeChar c), cs)
    match escaped with
    | .bytes content =>
      let (out, stopped) := resolveFor style steps rest
      (content ++ out, stopped)
    | .stop => ([], true)
    | .noDigits => ([], false)

/-- **A text with its escapes resolved**, and whether it ends all output. -/
def resolve (style : EscapeStyle) (text : String) : List UInt8 × Bool :=
  style.resolveFor text.length text.toList

end EscapeStyle

end Teletype
