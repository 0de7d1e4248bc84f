/-!
# Numerals

A numeral is a non-empty run of digits of some radix, with a sign in front
where the number may be negative. Readers say which numbers they accept; a
numeral outside is refused like one that is malformed, so that a reader has
one way to fail.
-/

namespace Teletype.Text

/-- The value of a digit, the letters of either case standing for ten and up. -/
def digitValue? (c : Char) : Option Nat :=
  if '0' ≤ c && c ≤ '9' then some (c.toNat - '0'.toNat)
  else if 'a' ≤ c && c ≤ 'z' then some (c.toNat - 'a'.toNat + 10)
  else if 'A' ≤ c && c ≤ 'Z' then some (c.toNat - 'A'.toNat + 10)
  else none

/-- One more digit at the end of a numeral. -/
def pushDigit? (radix : Nat) (value : Nat) (c : Char) : Option Nat := do
  let d ← digitValue? c
  if d < radix then some (value * radix + d) else none

/-- **A run of digits**: its value in the radix, unless it is empty or holds
anything but digits. -/
def digits? (radix : Nat) : List Char → Option Nat
  | [] => none
  | cs => cs.foldlM (pushDigit? radix) 0

/-- **A natural number up to a bound.** A plus sign may stand in front. -/
def natural? (radix bound : Nat) (cs : List Char) : Option Nat := do
  let n ← match cs with
    | '+' :: rest => digits? radix rest
    | rest => digits? radix rest
  if n ≤ bound then some n else none

/-- **An integer between two bounds.** A plus or a minus sign may stand in
front. -/
def integer? (radix : Nat) (least greatest : Int) (cs : List Char) : Option Int := do
  let n ← match cs with
    | '+' :: rest => (digits? radix rest).map Int.ofNat
    | '-' :: rest => (digits? radix rest).map fun n => -(Int.ofNat n)
    | rest => (digits? radix rest).map Int.ofNat
  if least ≤ n && n ≤ greatest then some n else none

/-- An integer that fits in 64 bits, in decimal. -/
def int64? (cs : List Char) : Option Int :=
  integer? 10 (-9223372036854775808) 9223372036854775807 cs

/-- An integer that fits in 32 bits, in a radix. -/
def int32? (radix : Nat) (cs : List Char) : Option Int :=
  integer? radix (-2147483648) 2147483647 cs

/-- The decimal numeral of a natural number. -/
def decimal (n : Nat) : List Char := Nat.toDigits 10 n

end Teletype.Text
