import Teletype.Text.Utf8

/-!
# Parameters of a template

A capability string is a template with up to nine parameters, each a number
or a text. Wherever arithmetic meets a text it reads zero, so no operation of
the template language can fail on the kind of its operand.
-/

namespace Teletype

/-- **A parameter**, and likewise a value on the stack of a running template. -/
inductive Param where
  /-- A number. -/
  | int (n : Int64)
  /-- A text. -/
  | text (s : String)
  deriving DecidableEq

namespace Param

instance : Inhabited Param := ⟨.int 0⟩

/-- The number arithmetic sees: a text counts as zero. -/
def toInt : Param → Int64
  | int n => n
  | text _ => 0

/-- The length in bytes of a text; a number has none. -/
def byteLength : Param → Int64
  | int _ => 0
  | text s => Int64.ofNat (Text.bytesOf s).length

/-- **The parameter one greater**, where it is a number; a text stays as it is. The
greatest number has no successor. -/
def succ? : Param → Option Param
  | int n => if n = Int64.maxValue then none else some (int (n + 1))
  | text s => some (text s)

end Param

end Teletype
