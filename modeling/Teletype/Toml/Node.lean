/-!
# The tables of a TOML document

A document is a tree of tables. What may still be said of a table depends on
how it came to be: a header may take up a table that so far was only passed
through on the way to another one, dotted keys may add to a table that dotted
keys made, and a table written between braces is finished.

Entries are kept in the order in which they were made.
-/

namespace Teletype.Toml

/-- How a table came to be. -/
inductive Origin where
  /-- A header passed through it. -/
  | passed
  /-- Dotted keys made it. -/
  | dotted
  /-- A header names it, or it is the document. -/
  | named
  /-- It was written between braces. -/
  | braces
  deriving DecidableEq

/-- **A value or a table** of a document. -/
inductive Node where
  /-- A text. -/
  | text (content : String)
  /-- An integer. -/
  | integer (value : Int)
  /-- A truth value. -/
  | boolean (value : Bool)
  /-- A number with a fraction or an exponent, as it is written. -/
  | real (spelling : String)
  /-- A date, a time, or both, as it is written. -/
  | moment (spelling : String)
  /-- A list of values. -/
  | list (items : List Node)
  /-- A table. -/
  | table (origin : Origin) (entries : List (String × Node))
  /-- A list of tables with a header each. -/
  | tables (items : List (List (String × Node)))

/-- The entries of a table. -/
abbrev Entries : Type := List (String × Node)

namespace Entries

/-- The entry of a key. -/
def find? (key : String) (entries : Entries) : Option Node := entries.lookup key

/-- The entries with another one for a key: in the place of the old one, or at the
end. -/
def set (key : String) (node : Node) : Entries → Entries
  | [] => [(key, node)]
  | (k, n) :: rest => if k == key then (k, node) :: rest else (k, n) :: set key node rest

/-- The last of some tables changed, if there is one. -/
def changeLast (f : Entries → Option Entries) : List Entries → Option (List Entries)
  | [] => none
  | [last] => (f last).map fun e => [e]
  | e :: rest => (changeLast f rest).map (e :: ·)

/-- **The table at the end of a path changed.** Tables on the way that are not there
are made. The change is told how the table came to be. Dotted keys may not pass
through tables that headers name. -/
def change (dotted : Bool) (f : Origin → Entries → Option Entries) :
    List String → Origin → Entries → Option Entries
  | [], origin, entries => f origin entries
  | key :: path, _, entries =>
    match entries.find? key with
    | none =>
      let origin := if dotted then Origin.dotted else Origin.passed
      (change dotted f path origin []).map fun e => entries.set key (.table origin e)
    | some (.table origin e) =>
      if origin = .braces || (dotted && origin = .named) then none
      else (change dotted f path origin e).map fun e => entries.set key (.table origin e)
    | some (.tables items) =>
      (changeLast (change dotted f path .named) items).map fun items =>
        entries.set key (.tables items)
    | some _ => none

/-- A key stated in a table: it must be new. -/
def state (key : String) (node : Node) (entries : Entries) : Option Entries :=
  match entries.find? key with
  | some _ => none
  | none => some (entries ++ [(key, node)])

/-- **A statement of a dotted key.** The table it adds to must be one that dotted
keys made, unless the key has one part only. -/
def assign (path : List String) (key : String) (node : Node) (entries : Entries) :
    Option Entries :=
  change true (fun origin e =>
    if path.isEmpty || origin = .dotted then e.state key node else none) path .named entries

/-- **The header of a table**: the table is new, or was only passed through. -/
def openTable (path : List String) (key : String) (entries : Entries) : Option Entries :=
  change false (fun _ e =>
    match e.find? key with
    | none => some (e ++ [(key, .table .named [])])
    | some (.table .passed inner) => some (e.set key (.table .named inner))
    | some _ => none) path .named entries

/-- **The header of one more table of a list.** -/
def openNext (path : List String) (key : String) (entries : Entries) : Option Entries :=
  change false (fun _ e =>
    match e.find? key with
    | none => some (e ++ [(key, .tables [[]])])
    | some (.tables items) => some (e.set key (.tables (items ++ [[]])))
    | some _ => none) path .named entries

end Entries

end Teletype.Toml
