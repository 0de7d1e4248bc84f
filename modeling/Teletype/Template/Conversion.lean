import Teletype.Template.Param

/-!
# Conversions

A conversion writes the value on top of the stack: `%d`, `%3d`, `%:-#8.4x`,
`%s`. It has flags, a least width, a precision and a letter, in that order.

The number goes out as sign, base mark and digits, the digits filled with
zeros up to the precision, and the whole filled with spaces up to the width.
A text is cut to the precision instead. The width is compared with the length
in bytes but filled by characters, so the two differ for texts beyond ASCII.

Both counts are numbers of 64 bits, and filling goes up to a width of 16 bits.
Counts beyond the former cannot be read, and a wider conversion can be written
only of a value that needs no filling.
-/

namespace Teletype.Template

/-- The letter that ends a conversion. -/
inductive Letter where
  /-- `%d` -/
  | decimal
  /-- `%o` -/
  | octal
  /-- `%x` -/
  | hex
  /-- `%X` -/
  | upperHex
  /-- `%s` -/
  | text
  deriving DecidableEq

/-- The letter a byte stands for. -/
def Letter.ofByte? (b : UInt8) : Option Letter :=
  if b == 0x64 then some .decimal
  else if b == 0x6f then some .octal
  else if b == 0x78 then some .hex
  else if b == 0x58 then some .upperHex
  else if b == 0x73 then some .text
  else none

/-- **A conversion**, as written between the percent sign and its letter. -/
structure Conversion where
  /-- `-`: fill on the right. -/
  left : Bool := false
  /-- `+`: a sign in front of decimal numbers that are not negative. -/
  plus : Bool := false
  /-- A space in front of decimal numbers that are not negative. -/
  space : Bool := false
  /-- `#`: a base mark. -/
  alternate : Bool := false
  /-- The least number of characters written. -/
  width : Nat := 0
  /-- The least number of digits, or the greatest number of characters. -/
  precision : Option Nat := none
  /-- The letter. -/
  letter : Letter := .decimal
  deriving DecidableEq

namespace Conversion

/-! ## Writing a value -/

/-- The digits of a magnitude in the conversion's base. -/
def digits (letter : Letter) (n : Nat) : List Char :=
  match letter with
  | .octal => Nat.toDigits 8 n
  | .hex => Nat.toDigits 16 n
  | .upperHex => (Nat.toDigits 16 n).map Char.toUpper
  | _ => Nat.toDigits 10 n

/-- Zeros in front, up to a number of digits. -/
def zeroFill (count : Nat) (ds : List Char) : List Char :=
  List.replicate (count - ds.length) '0' ++ ds

/-- The base mark: `0x` and `0X` in front of numbers other than zero, a zero
in front of octal digits that do not start with one. -/
def baseMark (c : Conversion) (n : Int64) (ds : List Char) : List Char :=
  if !c.alternate then []
  else
    match c.letter with
    | .octal => if ds.head? = some '0' then [] else ['0']
    | .hex => if n = 0 then [] else ['0', 'x']
    | .upperHex => if n = 0 then [] else ['0', 'X']
    | _ => []

/-- The sign: always written for negative numbers, on request for others in
decimal. -/
def sign (c : Conversion) (n : Int64) : List Char :=
  if n < 0 then ['-']
  else if c.letter = .decimal && c.plus then ['+']
  else if c.letter = .decimal && c.space then [' ']
  else []

/-- The decimal numeral of a number. -/
def numeral (n : Int64) : List Char :=
  if n < 0 then '-' :: Nat.toDigits 10 n.toInt.natAbs else Nat.toDigits 10 n.toInt.natAbs

/-- A number before it is filled up to the width. -/
def number (c : Conversion) (n : Int64) : List Char :=
  let ds := digits c.letter n.toInt.natAbs
  let ds := zeroFill (c.precision.getD 0) ds
  c.sign n ++ c.baseMark n ds ++ ds

/-- A text before it is filled up to the width. -/
def clip (c : Conversion) (s : List Char) : List Char :=
  match c.precision with
  | some p => s.take p
  | none => s

/-- What a value looks like before it is filled up to the width. -/
def body (c : Conversion) : Param → List Char
  | .int n => if c.letter = .text then c.clip (numeral n) else c.number n
  | .text s => if c.letter = .text then c.clip s.toList else c.number 0

/-- The greatest width that can be filled up to. -/
def greatestFill : Nat := 65535

/-- Spaces up to the width, on the side the flags choose, or nothing when the width
is too great to be filled up to. -/
def pad? (c : Conversion) (cs : List Char) : Option (List Char) :=
  if c.width ≤ (Text.utf8 cs).length then some cs
  else if greatestFill < c.width then none
  else
    let spaces := List.replicate (c.width - cs.length) ' '
    some (if c.left then cs ++ spaces else spaces ++ cs)

/-- **The text of a value**, or nothing when it would have to be filled up too far. -/
def render? (c : Conversion) (value : Param) : Option (List Char) := c.pad? (c.body value)

/-! ## Reading a conversion -/

/-- The flags at the front, in any order and number. -/
def readFlags (c : Conversion) : List UInt8 → Conversion × List UInt8
  | [] => (c, [])
  | b :: rest =>
    if b == 0x2d then { c with left := true }.readFlags rest
    else if b == 0x2b then { c with plus := true }.readFlags rest
    else if b == 0x20 then { c with space := true }.readFlags rest
    else if b == 0x23 then { c with alternate := true }.readFlags rest
    else (c, b :: rest)

/-- A run of decimal digits continuing a number; none at all leave it as it
is. -/
def readCount (value : Nat) : List UInt8 → Nat × List UInt8
  | [] => (value, [])
  | b :: rest =>
    if 0x30 ≤ b && b ≤ 0x39 then readCount (value * 10 + (b - 0x30).toNat) rest
    else (value, b :: rest)

/-- A precision, if a point starts one. A point alone means zero. -/
def readPrecision : List UInt8 → Option Nat × List UInt8
  | [] => (none, [])
  | b :: rest =>
    if b == 0x2e then
      let (value, left) := readCount 0 rest
      (some value, left)
    else (none, b :: rest)

/-- A colon may stand in front, to keep flags apart from operators. -/
def skipColon : List UInt8 → List UInt8
  | [] => []
  | b :: rest => if b == 0x3a then rest else b :: rest

/-- **All but the letter of a conversion** off the front. -/
def readCounts (bytes : List UInt8) : Conversion × List UInt8 :=
  let (c, rest) := ({} : Conversion).readFlags (skipColon bytes)
  let (width, rest) := readCount 0 rest
  let (precision, rest) := readPrecision rest
  ({ c with width, precision }, rest)

/-- The greatest count that can be read. -/
def greatestCount : Nat := 18446744073709551615

/-- Whether the counts of a conversion can be read. -/
def isReadable (c : Conversion) : Bool :=
  c.width ≤ greatestCount && c.precision.getD 0 ≤ greatestCount

/-- A conversion completed by the letter that comes next, if one does. -/
def readLetter? (c : Conversion) : List UInt8 → Option (Conversion × List UInt8)
  | [] => none
  | b :: rest => (Letter.ofByte? b).map fun letter => ({ c with letter }, rest)

theorem length_readFlags (c : Conversion) (bytes : List UInt8) :
    (c.readFlags bytes).2.length ≤ bytes.length := by
  induction bytes generalizing c with
  | nil => exact Nat.le_refl _
  | cons b rest ih =>
    unfold readFlags
    split
    · exact Nat.le_trans (ih _) (Nat.le_succ _)
    · split
      · exact Nat.le_trans (ih _) (Nat.le_succ _)
      · split
        · exact Nat.le_trans (ih _) (Nat.le_succ _)
        · split
          · exact Nat.le_trans (ih _) (Nat.le_succ _)
          · exact Nat.le_refl _

theorem length_readCount (value : Nat) (bytes : List UInt8) :
    (readCount value bytes).2.length ≤ bytes.length := by
  induction bytes generalizing value with
  | nil => exact Nat.le_refl _
  | cons b rest ih =>
    unfold readCount
    split
    · exact Nat.le_trans (ih _) (Nat.le_succ _)
    · exact Nat.le_refl _

theorem length_readPrecision (bytes : List UInt8) :
    (readPrecision bytes).2.length ≤ bytes.length := by
  cases bytes with
  | nil => exact Nat.le_refl _
  | cons b rest =>
    simp only [readPrecision]
    split
    · exact Nat.le_trans (length_readCount ..) (Nat.le_succ _)
    · exact Nat.le_refl _

theorem length_skipColon (bytes : List UInt8) : (skipColon bytes).length ≤ bytes.length := by
  cases bytes with
  | nil => exact Nat.le_refl _
  | cons b rest =>
    simp only [skipColon]
    split
    · exact Nat.le_succ _
    · exact Nat.le_refl _

theorem length_readCounts (bytes : List UInt8) :
    (readCounts bytes).2.length ≤ bytes.length :=
  calc (readCounts bytes).2.length
    _ ≤ (readCount 0 (({} : Conversion).readFlags (skipColon bytes)).2).2.length :=
      length_readPrecision _
    _ ≤ (({} : Conversion).readFlags (skipColon bytes)).2.length := length_readCount ..
    _ ≤ (skipColon bytes).length := length_readFlags ..
    _ ≤ bytes.length := length_skipColon bytes

/-- What follows the letter is shorter than what starts with it. -/
theorem length_readLetter? {c d : Conversion} {bytes rest : List UInt8}
    (h : c.readLetter? bytes = some (d, rest)) : rest.length < bytes.length := by
  cases bytes with
  | nil => simp [readLetter?] at h
  | cons b left =>
    obtain ⟨letter, _, heq⟩ := Option.map_eq_some_iff.1 h
    simp only [Prod.mk.injEq] at heq
    rw [← heq.2]
    exact Nat.lt_succ_self _

end Conversion

end Teletype.Template
