import Teletype.Description.Basic

/-!
# Reading a description

A description is a text of fields separated by commas. The first field is the
header, the names separated by bars. Every other field says one thing: `am`
that the terminal has a property, `cols#80` a number, `cup=…` a template, and
`name@` takes a capability back, which says nothing about a fresh description.
Lines that start with a number sign are comments.

A backslash protects the character after it, so a comma behind one does not
end a field. Fields that are blank, unknown or of the wrong kind are passed
over.
-/

namespace Teletype.Description

open Text

/-! ## Lines and fields -/

/-- **The lines of a text** without their ends, which are NL or CR NL. What
follows the last line end is a line only if there is something. -/
def lines (cs : List Char) : List (List Char) := go [] cs
where
  /-- The lines, given the characters of the current one so far in reverse. -/
  go (line : List Char) : List Char → List (List Char)
    | [] => if line.isEmpty then [] else [line.reverse]
    | '\n' :: rest => (dropReturn line).reverse :: go [] rest
    | c :: rest => go (c :: line) rest
  /-- A line in reverse without the CR of its end. -/
  dropReturn : List Char → List Char
    | '\r' :: line => line
    | line => line

/-- Whether a line is a comment. -/
def isComment (line : List Char) : Bool := (trimStart line).head? == some '#'

/-- The text of a description without its comments. -/
def withoutComments (source : List Char) : List Char :=
  List.intercalate ['\n'] ((lines source).filter fun l => !isComment l)

/-- **The fields of a text**: cut at commas that no backslash protects. What
follows the last comma is a field only if it is not blank. -/
def fields (cs : List Char) : List (List Char) := go [] cs
where
  /-- The fields, given the characters of the current one so far in reverse. -/
  go (field : List Char) : List Char → List (List Char)
    | [] => if (trim field.reverse).isEmpty then [] else [field.reverse]
    | '\\' :: c :: rest => go (c :: '\\' :: field) rest
    | ',' :: rest => field.reverse :: go [] rest
    | c :: rest => go (c :: field) rest

/-- The names of a header, separated by bars and trimmed. -/
def headerNames (header : List Char) : List String :=
  (pieces (trim header)).map fun p => String.ofList (trim p)
where
  /-- The pieces between bars. -/
  pieces : List Char → List (List Char)
    | [] => [[]]
    | c :: cs =>
      if c == '|' then [] :: pieces cs
      else
        match pieces cs with
        | [] => [[c]]
        | p :: ps => (c :: p) :: ps

/-! ## One field -/

/-- **The number in a field**: hexadecimal behind `0x`, octal behind a zero,
and decimal otherwise, within 32 bits. -/
def number? (cs : List Char) : Option Int :=
  match trim cs with
  | '0' :: 'x' :: rest => int32? 16 rest
  | '0' :: 'X' :: rest => int32? 16 rest
  | '0' :: c :: rest => int32? 8 (c :: rest)
  | cs => int32? 10 cs

/-- The capability a field names, if it is of the kind the field's form asks
for. -/
def lookup? (name : List Char) (k : CapabilityKind) : Option Capability :=
  Capability.ofNameAndKind? (String.ofList (trim name)) k

/-- What one field says. -/
inductive Statement where
  /-- A property. -/
  | flag (c : Capability)
  /-- A number. -/
  | number (c : Capability) (n : Int)
  /-- A template. -/
  | text (c : Capability) (t : String)
  deriving DecidableEq

/-- **What a field says**, if anything. The first equals or number sign decides
the form; without either the field is a property's name. -/
def statement? (field : List Char) : Option Statement :=
  let field := trim field
  if field.isEmpty || field.getLast? == some '@' then none
  else
    let name := field.takeWhile fun c => c != '=' && c != '#'
    match field.dropWhile fun c => c != '=' && c != '#' with
    | [] => (lookup? field .flag).map .flag
    | mark :: value =>
      if mark == '=' then
        (lookup? name .text).map fun c => .text c (String.ofList value)
      else
        match lookup? name .number, number? value with
        | some c, some n => some (.number c n)
        | _, _ => none

/-- A statement added to a description. A later one about the same capability
replaces the earlier. -/
def state (d : Description) : Statement → Description
  | .flag c => d.withFlag c
  | .number c n => d.withNumber c n
  | .text c t => d.withText c t

/-! ## The whole text -/

/-- **The description in a text.** -/
def ofText (source : String) : Description :=
  match fields (withoutComments source.toList) with
  | [] => {}
  | header :: rest =>
    (rest.filterMap statement?).foldl state { names := headerNames header }

end Teletype.Description
