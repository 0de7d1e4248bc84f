import Teletype.Action

/-!
# A scripted `stty`

For trying out what depends on `stty` there is one that follows a script: the
listings it prints one after the other, and the complaints with which it fails.
It remembers how it was called.
-/

namespace Teletype

/-- **The script of a `stty`**, and how it was called. -/
structure SttyScript where
  /-- The listings to print; the last one is printed again and again. -/
  listings : List String := []
  /-- The complaint with which listing fails, if it does. -/
  listingFails : Option String := none
  /-- The complaint with which every other call fails, if it does. -/
  changeFails : Option String := none
  /-- The arguments of the calls so far. -/
  calls : List (List String) := []

namespace SttyScript

/-- Whether a call asks for a listing. -/
def asksForListing (args : List String) : Bool := args.getLast? == some "-a"

/-- The script after a listing was printed. -/
def afterListing (s : SttyScript) : SttyScript :=
  match s.listings with
  | _ :: next :: rest => { s with listings := next :: rest }
  | _ => s

/-- **A call**: what is printed, or the complaint. -/
def call (args : List String) (s : SttyScript) : Except String String × SttyScript :=
  let s := { s with calls := s.calls ++ [args] }
  if asksForListing args then
    match s.listingFails with
    | some complaint => (.error complaint, s)
    | none => (.ok (s.listings.headD ""), s.afterListing)
  else
    match s.changeFails with
    | some complaint => (.error complaint, s)
    | none => (.ok "", s)

/-- The calls as actions; a complaint is the failure of a command. -/
def run (failure : String → TerminalError) (args : List String) : Action SttyScript String :=
  Action.ofStep fun s =>
    match s.call args with
    | (.ok out, s) => (.ok out, s)
    | (.error complaint, s) => (.error (failure complaint), s)

end SttyScript

end Teletype
