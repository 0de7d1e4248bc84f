import Teletype.Attributes.Basic
import Teletype.Text.Caret

/-!
# Asking for a change of settings

`stty` changes what its arguments name and nothing else. To move a terminal
from one set of attributes to another, the arguments name exactly the settings
in which the two differ: a flag by its name, with a minus to turn it off, and
a slot by its name and its new value.
-/

namespace Teletype.Stty

/-- Flags that only a line discipline in software has; `stty` knows no name for
them. -/
def isSoftwareOnly (f : Flag) : Bool := f == .inormeol

/-- The argument that switches a flag. -/
def flagArgument (f : Flag) (on : Bool) : String := if on then f.name else "-" ++ f.name

/-- The argument for a flag in which two sets of attributes differ. -/
def flagChange (target current : Attributes) (f : Flag) : List String :=
  if isSoftwareOnly f || target.flag f == current.flag f then []
  else [flagArgument f (target.flag f)]

/-- **The spelling of a character's value** in an argument. A zero byte cannot
be a control character, so it disables the slot too. -/
def charArgument (value : Option UInt8) : String :=
  match value with
  | none => "undef"
  | some b => if b == 0 then "undef" else String.ofList (Text.caret b)

/-- The arguments for a slot in which two sets of attributes differ. A count
cannot be disabled, so a disabled one is not asked for. -/
def charChange (target current : Attributes) (c : ControlChar) : List String :=
  if target.char c == current.char c then []
  else if c.isCount then
    match target.char c with
    | some n => [c.name, toString n.toNat]
    | none => []
  else [c.name, charArgument (target.char c)]

/-- **The arguments that turn `current` into `target`.** -/
def changes (target current : Attributes) : List String :=
  Flag.all.flatMap (flagChange target current)
    ++ ControlChar.all.flatMap (charChange target current)

/-- The arguments that set the window size. -/
def sizeArguments (s : Size) : List String :=
  ["columns", toString s.columns.toNat, "rows", toString s.rows.toNat]

end Teletype.Stty
