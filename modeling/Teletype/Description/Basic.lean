import Teletype.Description.Capability
import Teletype.Template.Expand

/-!
# Descriptions of terminal types

A description holds what is known of one type of terminal: its names, the
properties it has, its numbers, and its texts as raw templates. Each
capability has a value only in the part of its own kind when a description is
read from a text.
-/

namespace Teletype

/-- **A description of a terminal type.** -/
@[ext] structure Description where
  /-- The names of the type, the primary one first. -/
  names : List String := []
  /-- The properties the terminal has. -/
  flag : Capability → Bool := fun _ => false
  /-- The numbers. -/
  number : Capability → Option Int := fun _ => none
  /-- The raw templates of the texts. -/
  text : Capability → Option String := fun _ => none

namespace Description

instance : Inhabited Description := ⟨{}⟩

/-- The primary name; a description without names has an empty one. -/
def name (d : Description) : String := d.names.headD ""

/-- The properties the terminal has, in the order of all capabilities. -/
def flags (d : Description) : List Capability := Capability.all.filter d.flag

/-- The numbers the description gives, in the order of all capabilities. -/
def numbers (d : Description) : List (Capability × Int) :=
  Capability.all.filterMap fun c => (d.number c).map fun n => (c, n)

/-- The templates the description gives, in the order of all capabilities. -/
def texts (d : Description) : List (Capability × String) :=
  Capability.all.filterMap fun c => (d.text c).map fun t => (c, t)

/-- A description that says nothing, whatever its names. -/
def isEmpty (d : Description) : Bool :=
  d.flags.isEmpty && d.numbers.isEmpty && d.texts.isEmpty

/-- The description with a property. -/
def withFlag (d : Description) (c : Capability) : Description :=
  { d with flag := fun x => x == c || d.flag x }

/-- The description with a number. -/
def withNumber (d : Description) (c : Capability) (n : Int) : Description :=
  { d with number := fun x => if x = c then some n else d.number x }

/-- The description with a template. -/
def withText (d : Description) (c : Capability) (t : String) : Description :=
  { d with text := fun x => if x = c then some t else d.text x }

/-- **A text capability expanded** with parameters. Nothing when the terminal
lacks it; nothing inside when a number gets out of range. -/
def render? (d : Description) (c : Capability) (params : List Param) :
    Option (Option (List UInt8)) :=
  (d.text c).map fun t => Template.render? t params

end Description

end Teletype
