import Teletype.Command.Basic
import Teletype.Description.Builtin
import Teletype.Description.Reading

/-!
# Where descriptions come from

A description is looked up in several sources in turn: those known from the
start, tables of fixed texts, and a command that prints the description of a
type. The first source whose text says anything wins. A type that no source
knows gets the `ansi` description, so every type has one.
-/

namespace Teletype.Description

/-- **A source of descriptions.** -/
inductive Source where
  /-- The types known from the start. -/
  | builtin
  /-- A table of types and their texts. -/
  | fixed (table : List (String × String))
  /-- A command that is run with `-x` and the type. -/
  | command (program : String)

/-- **The text a source has for a type.** A command's text counts only if the
command succeeds and prints well-formed text, and a type with a zero character
cannot be an argument. -/
def Source.lookup? (programs : Programs) (type : String) : Source → Option String
  | builtin => builtin? type
  | fixed table => table.lookup type
  | command program =>
    if !(Programs.canPass program && Programs.canPass type) then none
    else
      match programs program ["-x", type] with
      | none => none
      | some o =>
        if o.status.succeeded then (Text.decode? o.output).map String.ofList else none

/-- **The description of a type**: from the first source whose text says
anything, and otherwise the `ansi` one. -/
def resolve (programs : Programs) (type : String) (sources : List Source) : Description :=
  let found := sources.findSome? fun s =>
    ((s.lookup? programs type).map ofText).filter fun d => !d.isEmpty
  found.getD (ofText ansiText)

end Teletype.Description
