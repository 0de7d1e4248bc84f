import Teletype.Text.Numeral
import Teletype.Toml.Node

/-!
# Texts, numbers and dates in TOML

Each reader here takes what it reads off the front of the characters and leaves
the rest. A reader that fails fails for good: whatever may follow a value could
not follow half of one.
-/

namespace Teletype.Toml

/-! ## Texts -/

/-- Whether a character may stand in a text or a comment. -/
def isPlain (c : Char) : Bool := c == '\t' || (' ' ≤ c && c != '\x7f')

/-- Whether a character is a blank within a line. -/
def isBlank (c : Char) : Bool := c == ' ' || c == '\t'

/-- The character of a code point in hexadecimal digits. -/
def codePoint? (digits : List Char) : Option Char := do
  let n ← Text.digits? 16 digits
  if n.isValidChar then some (Char.ofNat n) else none

/-- The character that a letter behind a backslash stands for. -/
def escape? : Char → Option Char
  | 'b' => some '\x08'
  | 't' => some '\t'
  | 'n' => some '\n'
  | 'f' => some '\x0c'
  | 'r' => some '\r'
  | '"' => some '"'
  | '\\' => some '\\'
  | _ => none

/-- A character in front of what a reader reads. -/
def consRead (c : Option Char) (r : Option (List Char × List Char)) : Option (List Char × List Char) := do
  let c ← c
  let (cs, rest) ← r
  some (c :: cs, rest)

/-- A quoted text, behind its opening quote. -/
def quoted : List Char → Option (List Char × List Char)
  | '"' :: rest => some ([], rest)
  | '\\' :: 'u' :: a :: b :: c :: d :: rest => consRead (codePoint? [a, b, c, d]) (quoted rest)
  | '\\' :: 'U' :: a :: b :: c :: d :: e :: f :: g :: h :: rest =>
    consRead (codePoint? [a, b, c, d, e, f, g, h]) (quoted rest)
  | '\\' :: c :: rest => consRead (escape? c) (quoted rest)
  | c :: rest => if isPlain c then consRead (some c) (quoted rest) else none
  | [] => none

/-- A text in single quotes, behind its opening quote. -/
def literal : List Char → Option (List Char × List Char)
  | '\'' :: rest => some ([], rest)
  | c :: rest => if isPlain c then consRead (some c) (literal rest) else none
  | [] => none

/-- Characters without one line end at their front. -/
def skipNewline : List Char → List Char
  | '\n' :: rest => rest
  | '\r' :: '\n' :: rest => rest
  | cs => cs

/-- Whether a line end comes after blanks. -/
def endsLine (cs : List Char) : Bool :=
  match cs.dropWhile isBlank with
  | '\n' :: _ => true
  | '\r' :: '\n' :: _ => true
  | _ => false

/-- A quoted text of several lines, behind its opening quotes. A backslash at the
end of a line takes away the blanks and line ends that follow it. -/
def longQuoted (skipping : Bool) : List Char → Option (List Char × List Char)
  | '"' :: '"' :: '"' :: '"' :: '"' :: rest => some (['"', '"'], rest)
  | '"' :: '"' :: '"' :: '"' :: rest => some (['"'], rest)
  | '"' :: '"' :: '"' :: rest => some ([], rest)
  | '\r' :: '\n' :: rest =>
    if skipping then longQuoted true rest else consRead (some '\n') (longQuoted false rest)
  | '\n' :: rest =>
    if skipping then longQuoted true rest else consRead (some '\n') (longQuoted false rest)
  | '\\' :: 'u' :: a :: b :: c :: d :: rest =>
    consRead (codePoint? [a, b, c, d]) (longQuoted false rest)
  | '\\' :: 'U' :: a :: b :: c :: d :: e :: f :: g :: h :: rest =>
    consRead (codePoint? [a, b, c, d, e, f, g, h]) (longQuoted false rest)
  | '\\' :: '\n' :: rest => longQuoted true rest
  | '\\' :: c :: rest =>
    if endsLine (c :: rest) then longQuoted true rest
    else consRead (escape? c) (longQuoted false rest)
  | c :: rest =>
    if skipping && isBlank c then longQuoted true rest
    else if isPlain c then consRead (some c) (longQuoted false rest)
    else none
  | [] => none

/-- A text of several lines in single quotes, behind its opening quotes. -/
def longLiteral : List Char → Option (List Char × List Char)
  | '\'' :: '\'' :: '\'' :: '\'' :: '\'' :: rest => some (['\'', '\''], rest)
  | '\'' :: '\'' :: '\'' :: '\'' :: rest => some (['\''], rest)
  | '\'' :: '\'' :: '\'' :: rest => some ([], rest)
  | '\r' :: '\n' :: rest => consRead (some '\n') (longLiteral rest)
  | c :: rest =>
    if isPlain c || c == '\n' then consRead (some c) (longLiteral rest) else none
  | [] => none

/-- **A text**, if one starts here. -/
def text? : List Char → Option (List Char × List Char)
  | '"' :: '"' :: '"' :: rest => longQuoted false (skipNewline rest)
  | '"' :: rest => quoted rest
  | '\'' :: '\'' :: '\'' :: rest => longLiteral (skipNewline rest)
  | '\'' :: rest => literal rest
  | _ => none

/-! ## Numbers -/

/-- Whether a character is a digit of a radix. -/
def isDigitOf (radix : Nat) (c : Char) : Bool := (Text.digits? radix [c]).isSome

/-- The digits that follow a digit. A single underscore may stand between two. -/
def moreDigits (radix : Nat) : List Char → Option (List Char × List Char)
  | '_' :: c :: rest =>
    if isDigitOf radix c then consRead (some c) (moreDigits radix rest) else none
  | ['_'] => none
  | c :: rest =>
    if isDigitOf radix c then consRead (some c) (moreDigits radix rest)
    else some ([], c :: rest)
  | [] => some ([], [])

/-- A run of digits. -/
def digits (radix : Nat) : List Char → Option (List Char × List Char)
  | c :: rest => if isDigitOf radix c then consRead (some c) (moreDigits radix rest) else none
  | [] => none

/-- A run of decimal digits that starts with a zero only if that is all of it. -/
def whole : List Char → Option (List Char × List Char)
  | '0' :: rest => some (['0'], rest)
  | cs => digits 10 cs

/-- An integer that fits in 64 bits. -/
def wide? (n : Int) : Option Node :=
  if -9223372036854775808 ≤ n && n ≤ 9223372036854775807 then some (.integer n) else none

/-- An integer in another radix, behind its mark. -/
def inRadix (radix : Nat) (cs : List Char) : Option (Node × List Char) := do
  let (ds, rest) ← digits radix cs
  let n ← Text.digits? radix ds
  some (← wide? n, rest)

/-- The sign in front of a number, and what follows it. -/
def sign : List Char → List Char × List Char
  | '+' :: rest => (['+'], rest)
  | '-' :: rest => (['-'], rest)
  | cs => ([], cs)

/-- The exponent of a number, if it has one: its text, with its mark. -/
def exponent : List Char → Option (List Char × List Char)
  | c :: rest =>
    if c == 'e' || c == 'E' then do
      let (s, rest) := sign rest
      let (ds, rest) ← digits 10 rest
      some ('e' :: s ++ ds, rest)
    else some ([], c :: rest)
  | [] => some ([], [])

/-- The fraction of a number, if it has one: its text, with its point. -/
def fraction : List Char → Option (List Char × List Char)
  | '.' :: rest => do
    let (ds, rest) ← digits 10 rest
    some ('.' :: ds, rest)
  | cs => some ([], cs)

/-- The least integer that no number with a fraction can be: halfway between the
largest of 64 bits and the next one there would be. -/
def tooLarge : Nat := Nat.pow 2 1024 - Nat.pow 2 970

/-- Whether a number, given by its digits and its power of ten, is too large. -/
def isTooLarge (value : Nat) (power : Int) : Bool :=
  let size := (Text.decimal value).length + power
  if value = 0 || size < 309 then false
  else if 309 < size then true
  else if 0 ≤ power then tooLarge ≤ value * Nat.pow 10 power.toNat
  else tooLarge * Nat.pow 10 (-power).toNat ≤ value

/-- Whether a number with the given digits and exponent is too large. -/
def overflows (whole fraction exponent : List Char) : Bool :=
  let value := (Text.digits? 10 (whole ++ fraction.drop 1)).getD 0
  let power := match exponent with
    | 'e' :: '-' :: ds => -(Int.ofNat ((Text.digits? 10 ds).getD 0))
    | 'e' :: '+' :: ds => Int.ofNat ((Text.digits? 10 ds).getD 0)
    | 'e' :: ds => Int.ofNat ((Text.digits? 10 ds).getD 0)
    | _ => 0
  isTooLarge value (power - (fraction.drop 1).length)

/-- A decimal number: an integer, unless it has a fraction or an exponent. A
positive one must not be too large. -/
def decimalNumber (s cs : List Char) : Option (Node × List Char) := do
  let (ds, rest) ← whole cs
  let (frac, rest) ← fraction rest
  let (exp, rest) ← exponent rest
  if frac.isEmpty && exp.isEmpty then
    let n ← Text.digits? 10 ds
    some (← wide? (if s == ['-'] then -(Int.ofNat n) else Int.ofNat n), rest)
  else if s != ['-'] && overflows ds frac exp then none
  else some (.real (String.ofList (s ++ ds ++ frac ++ exp)), rest)

/-- **A number**, if one starts here. -/
def number? (cs : List Char) : Option (Node × List Char) :=
  let (s, rest) := sign cs
  match rest with
  | 'i' :: 'n' :: 'f' :: rest => some (.real (String.ofList s ++ "inf"), rest)
  | 'n' :: 'a' :: 'n' :: rest => some (.real (String.ofList s ++ "nan"), rest)
  | '0' :: 'x' :: digits => if s.isEmpty then inRadix 16 digits else none
  | '0' :: 'o' :: digits => if s.isEmpty then inRadix 8 digits else none
  | '0' :: 'b' :: digits => if s.isEmpty then inRadix 2 digits else none
  | cs => decimalNumber s cs

/-! ## Dates and times -/

/-- So many decimal digits. -/
def fixedDigits (count : Nat) (cs : List Char) : Option (Nat × List Char) := do
  if (cs.take count).length = count && (cs.take count).all (isDigitOf 10) then
    some (← Text.digits? 10 (cs.take count), cs.drop count)
  else none

/-- A number of two digits up to a greatest one. -/
def upTo (greatest : Nat) (cs : List Char) : Option (Nat × List Char) := do
  let (n, rest) ← fixedDigits 2 cs
  if n ≤ greatest then some (n, rest) else none

/-- Characters behind an expected one. -/
def behind (c : Char) : List Char → Option (List Char)
  | d :: rest => if d == c then some rest else none
  | [] => none

/-- The days of a month. -/
def daysIn (year : Nat) : Nat → Nat
  | 2 => if year % 4 = 0 && (year % 100 != 0 || year % 400 = 0) then 29 else 28
  | 4 => 30
  | 6 => 30
  | 9 => 30
  | 11 => 30
  | _ => 31

/-- What is behind a date. -/
def date? (cs : List Char) : Option (List Char) := do
  let (year, rest) ← fixedDigits 4 cs
  let (month, rest) ← fixedDigits 2 (← behind '-' rest)
  let (day, rest) ← fixedDigits 2 (← behind '-' rest)
  if 1 ≤ month && month ≤ 12 && 1 ≤ day && day ≤ daysIn year month then some rest else none

/-- Characters without the fraction of a second at their front. -/
def skipFraction : List Char → List Char
  | '.' :: c :: rest =>
    if isDigitOf 10 c then rest.dropWhile (isDigitOf 10) else '.' :: c :: rest
  | cs => cs

/-- What is behind a time. -/
def time? (cs : List Char) : Option (List Char) := do
  let (_, rest) ← upTo 23 cs
  let (_, rest) ← upTo 59 (← behind ':' rest)
  let (_, rest) ← upTo 60 (← behind ':' rest)
  some (skipFraction rest)

/-- What is behind an offset from universal time. -/
def offset? : List Char → Option (List Char)
  | 'Z' :: rest => some rest
  | 'z' :: rest => some rest
  | c :: rest =>
    if c == '+' || c == '-' then do
      let (_, rest) ← upTo 23 rest
      let (_, rest) ← upTo 59 (← behind ':' rest)
      some rest
    else none
  | [] => none

/-- What is behind a time and perhaps an offset. -/
def timeAndOffset? (cs : List Char) : Option (List Char) := do
  let rest ← time? cs
  some ((offset? rest).getD rest)

/-- What is behind a moment: a date, perhaps with a time, or a time. -/
def behindMoment? (cs : List Char) : Option (List Char) :=
  match date? cs with
  | some (c :: rest) =>
    if c == 'T' || c == 't' || c == ' ' then
      some ((timeAndOffset? rest).getD (c :: rest))
    else some (c :: rest)
  | some [] => some []
  | none => time? cs

/-- **A moment**, if one starts here. -/
def moment? (cs : List Char) : Option (Node × List Char) := do
  let rest ← behindMoment? cs
  some (.moment (String.ofList (cs.take (cs.length - rest.length))), rest)

end Teletype.Toml
