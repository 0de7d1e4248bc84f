import Teletype.Attributes.Basic

/-!
# What happens to output

Bytes that are written to a terminal pass through its output flags. Only line
ends are affected, and only when output is processed at all: a line feed may
gain a carriage return, and a carriage return may become a line feed.
-/

namespace Teletype

/-- The line feed. -/
def lineFeed : UInt8 := 0x0a

/-- The carriage return. -/
def carriageReturn : UInt8 := 0x0d

namespace Attributes

/-- What is put out for one byte. -/
def outputByte (a : Attributes) (b : UInt8) : List UInt8 :=
  if !a.flag .opost then [b]
  else if b == lineFeed && a.flag .onlcr then [carriageReturn, lineFeed]
  else if b == carriageReturn && a.flag .ocrnl then [lineFeed]
  else [b]

/-- **What is put out** for bytes that are written. -/
def output (a : Attributes) (bytes : List UInt8) : List UInt8 := bytes.flatMap a.outputByte

@[simp] theorem output_nil (a : Attributes) : a.output [] = [] := rfl

@[simp] theorem output_append (a : Attributes) (xs ys : List UInt8) :
    a.output (xs ++ ys) = a.output xs ++ a.output ys := List.flatMap_append

/-- Unprocessed output is what was written. -/
theorem output_of_not_opost (a : Attributes) (h : a.flag .opost = false) (bytes : List UInt8) :
    a.output bytes = bytes := by
  induction bytes with
  | nil => rfl
  | cons b rest ih =>
    rw [output, List.flatMap_cons, ← output, ih]
    simp [outputByte, h]

end Attributes

end Teletype
