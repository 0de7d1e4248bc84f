/-!
# Escapes in capability strings

A capability string spells control bytes with a backslash – `\E`, `\n`, up to
three octal digits – or with a caret in front of a letter. `unescape` resolves
these and leaves everything else, the `%` operators included, as it stands.
-/

namespace Teletype.Template

/-- An octal digit's value. -/
def octalDigit? (b : UInt8) : Option Nat :=
  if 0x30 ≤ b && b ≤ 0x37 then some (b - 0x30).toNat else none

/-- **Up to so many further octal digits** of a number, and what follows them. -/
def octal : Nat → Nat → List UInt8 → Nat × List UInt8
  | 0, value, rest => (value, rest)
  | _ + 1, value, [] => (value, [])
  | more + 1, value, b :: rest =>
    match octalDigit? b with
    | some d => octal more (value * 8 + d) rest
    | none => (value, b :: rest)

/-- The byte an octal number stands for: its low eight bits, except that zero
is spelled for 128, because a zero byte cannot stand in a description. -/
def octalByte (value : Nat) : UInt8 := if value = 0 then 0x80 else UInt8.ofNat value

/-- The byte a letter stands for after a backslash; any byte that has no
meaning of its own stands for itself. -/
def namedEscape (b : UInt8) : UInt8 :=
  if b == 0x45 || b == 0x65 then 0x1b        -- `\E` and `\e`
  else if b == 0x6e || b == 0x6c then 0x0a   -- `\n` and `\l`
  else if b == 0x72 then 0x0d                -- `\r`
  else if b == 0x74 then 0x09                -- `\t`
  else if b == 0x62 then 0x08                -- `\b`
  else if b == 0x66 then 0x0c                -- `\f`
  else if b == 0x73 then 0x20                -- `\s`
  else b

/-- **What a backslash stands for**, given what follows it: one byte, and the
rest. A backslash that nothing follows stands for itself. -/
def escape : List UInt8 → UInt8 × List UInt8
  | [] => (0x5c, [])
  | b :: rest =>
    match octalDigit? b with
    | some d => let (value, left) := octal 2 d rest; (octalByte value, left)
    | none => (namedEscape b, rest)

/-- The control byte a caret makes of the byte after it. -/
def caretByte (b : UInt8) : UInt8 := b &&& 0x1f

theorem length_octal (more value : Nat) (rest : List UInt8) :
    (octal more value rest).2.length ≤ rest.length := by
  induction more generalizing value rest with
  | zero => exact Nat.le_refl _
  | succ more ih =>
    cases rest with
    | nil => exact Nat.le_refl _
    | cons b rest =>
      unfold octal
      split
      · exact Nat.le_trans (ih ..) (Nat.le_succ _)
      · exact Nat.le_refl _

theorem length_escape (rest : List UInt8) : (escape rest).2.length ≤ rest.length := by
  cases rest with
  | nil => exact Nat.le_refl _
  | cons b rest =>
    simp only [escape]
    split
    · exact Nat.le_trans (length_octal ..) (Nat.le_succ _)
    · exact Nat.le_succ _

/-- **Escapes resolved**, and nothing else touched. A caret at the very end
stands for itself. -/
def unescape : List UInt8 → List UInt8
  | [] => []
  | b :: rest =>
    if b == 0x5c then (escape rest).1 :: unescape (escape rest).2
    else if b == 0x5e then
      match rest with
      | [] => [b]
      | c :: rest => caretByte c :: unescape rest
    else b :: unescape rest
termination_by bytes => bytes.length
decreasing_by
  · exact Nat.lt_succ_of_le (length_escape rest)
  · exact Nat.lt_succ_of_lt (Nat.lt_succ_self _)
  · exact Nat.lt_succ_self _

end Teletype.Template
