/-!
# Bytes and characters

Terminals carry bytes; descriptions and settings are texts. This module
writes a text as its UTF-8 bytes and reads bytes back, either strictly – the
bytes have to be well formed – or with every ill-formed stretch replaced by
the replacement character.

Reading goes one character at a time. What is left over is never longer than
what was there before, which is what makes the reading end.
-/

namespace Teletype.Text

/-- **The UTF-8 bytes of a text**, one group of bytes per character. -/
def utf8 (cs : List Char) : List UInt8 := cs.flatMap String.utf8EncodeChar

/-- The UTF-8 bytes of a string. -/
def bytesOf (s : String) : List UInt8 := utf8 s.toList

@[simp] theorem utf8_nil : utf8 [] = [] := rfl

@[simp] theorem utf8_cons (c : Char) (cs : List Char) :
    utf8 (c :: cs) = String.utf8EncodeChar c ++ utf8 cs := rfl

/-- What the first byte of a multi-byte character announces. -/
structure Lead where
  /-- The number of bytes still to come. -/
  more : Nat
  /-- The least value the next byte may have. -/
  least : UInt8
  /-- The greatest value the next byte may have. -/
  greatest : UInt8
  /-- The bits of the code point the first byte itself holds. -/
  bits : Nat

/-- **The first bytes of multi-byte characters.** The bounds on the second byte
keep out overlong forms, surrogates and code points past the last one. -/
def Lead.of? (b : UInt8) : Option Lead :=
  if 0xc2 ≤ b && b ≤ 0xdf then some ⟨1, 0x80, 0xbf, (b &&& 0x1f).toNat⟩
  else if b == 0xe0 then some ⟨2, 0xa0, 0xbf, 0⟩
  else if b == 0xed then some ⟨2, 0x80, 0x9f, 0xd⟩
  else if 0xe1 ≤ b && b ≤ 0xef then some ⟨2, 0x80, 0xbf, (b &&& 0x0f).toNat⟩
  else if b == 0xf0 then some ⟨3, 0x90, 0xbf, 0⟩
  else if 0xf1 ≤ b && b ≤ 0xf3 then some ⟨3, 0x80, 0xbf, (b &&& 0x07).toNat⟩
  else if b == 0xf4 then some ⟨3, 0x80, 0x8f, 4⟩
  else none

/-- The remaining bytes of a character: the code point when all of them are
there and in range, and in either case what follows the bytes that fit. -/
def continuation : Nat → UInt8 → UInt8 → Nat → List UInt8 → Option Nat × List UInt8
  | 0, _, _, bits, rest => (some bits, rest)
  | _ + 1, _, _, _, [] => (none, [])
  | more + 1, least, greatest, bits, b :: rest =>
    if least ≤ b && b ≤ greatest then
      continuation more 0x80 0xbf (bits * 64 + (b &&& 0x3f).toNat) rest
    else (none, b :: rest)

theorem length_continuation (more : Nat) (least greatest : UInt8) (bits : Nat)
    (rest : List UInt8) :
    (continuation more least greatest bits rest).2.length ≤ rest.length := by
  induction more generalizing least greatest bits rest with
  | zero => exact Nat.le_refl _
  | succ more ih =>
    cases rest with
    | nil => exact Nat.le_refl _
    | cons b rest =>
      unfold continuation
      split
      · exact Nat.le_trans (ih ..) (Nat.le_succ _)
      · exact Nat.le_refl _

/-- **One character off the front**: the character that starts with the byte
`b`, or nothing when `b` and the bytes that fit after it form none. -/
def nextChar (b : UInt8) (rest : List UInt8) : Option Char × List UInt8 :=
  if b < 0x80 then (some (Char.ofNat b.toNat), rest)
  else
    match Lead.of? b with
    | none => (none, rest)
    | some lead =>
      let (code, left) := continuation lead.more lead.least lead.greatest lead.bits rest
      (code.map Char.ofNat, left)

theorem length_nextChar (b : UInt8) (rest : List UInt8) :
    (nextChar b rest).2.length ≤ rest.length := by
  unfold nextChar
  split
  · exact Nat.le_refl _
  · split
    · exact Nat.le_refl _
    · exact length_continuation ..

/-- **The characters of a byte string**, with a gap for every ill-formed
stretch. -/
def decodeParts : List UInt8 → List (Option Char)
  | [] => []
  | b :: rest => (nextChar b rest).1 :: decodeParts (nextChar b rest).2
termination_by bytes => bytes.length
decreasing_by exact Nat.lt_succ_of_le (length_nextChar b rest)

/-- The text of well-formed bytes, and nothing otherwise. -/
def decode? (bytes : List UInt8) : Option (List Char) := (decodeParts bytes).mapM id

/-- The text of any bytes, each ill-formed stretch read as one replacement
character. -/
def decodeLossy (bytes : List UInt8) : List Char :=
  (decodeParts bytes).map (·.getD (Char.ofNat 0xfffd))

end Teletype.Text
