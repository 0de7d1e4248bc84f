import Teletype.Attributes.Basic
import Teletype.Text.Caret

/-!
# The text of attributes

Attributes print as five lines: the flags that are on, word by word, and the
control characters. The shape is that of a settings listing, so a reader of
such listings can read it back.
-/

namespace Teletype.Attributes

/-- The names of the flags of a word that are on. -/
def onNames (a : Attributes) (w : FlagWord) : List String :=
  ((Flag.ofWord w).filter a.flag).map Flag.name

/-- **The spelling of a slot's value**: a count in decimal, a character by its
caret spelling, a disabled slot by `<undef>`. -/
def charText (c : ControlChar) (value : Option UInt8) : String :=
  match value with
  | none => "<undef>"
  | some b => if c.isCount then toString b.toNat else String.ofList (Text.caret b)

/-- **The text of attributes.** -/
def listing (a : Attributes) : String :=
  let words := fun (label : String) (w : FlagWord) =>
    label ++ ": " ++ String.intercalate " " (a.onNames w) ++ "\n"
  let chars := ControlChar.all.map fun c => c.name ++ " = " ++ charText c (a.char c)
  words "iflags" .input ++ words "oflags" .output ++ words "cflags" .control
    ++ words "lflags" .discipline ++ "cchars: " ++ String.intercalate "; " chars ++ ";"

end Teletype.Attributes
