import Teletype.Action
import Teletype.Stty.Listing
import Teletype.Stty.Request

/-!
# Settings by way of `stty`

Where the kernel cannot be asked directly, `stty` can be: one run of it lists
the settings, and another changes some of them. Only what differs is asked for,
and when nothing differs no change is asked for at all.

`stty` may do a part of what it was asked and fail. Then the settings are listed
once more, and what still differs is what was refused.
-/

namespace Teletype.Stty

/-- The complaint of `stty` about changes of which it did a part. -/
def partialComplaint : String := "unable to perform all requested operations"

/-- Whether a text occurs in another. -/
def occursIn (part : List Char) : List Char → Bool
  | [] => part.isEmpty
  | c :: rest => part.isPrefixOf (c :: rest) || occursIn part rest

/-- Whether a failure is that of changes of which a part was done. -/
def isPartial : TerminalError → Bool
  | .command _ _ complaint => occursIn partialComplaint.toList complaint.toList
  | _ => false

/-- The arguments that make `stty` speak of a device, in front of others. Without
a device it speaks of its standard input. -/
def forDevice (device : Option String) (args : List String) : List String :=
  match device with
  | some d => "-F" :: d :: args
  | none => args

variable {σ : Type} (run : List String → Action σ String)

/-- **The attributes**, as `stty` lists them. -/
def getAttributes : Action σ Attributes := do pure (attributes (← run ["-a"]))

/-- **The size**, as `stty` lists it. -/
def getSize : Action σ Size := do pure (size (← run ["-a"]))

/-- Once more after changes of which a part was done: what still differs was
refused. -/
def afterPartial (a : Attributes) : Action σ Unit := do
  let remaining := changes a (← getAttributes run)
  if remaining.isEmpty then pure () else throw (.partialApply remaining)

/-- **Attributes set**: what differs is changed, by one run of `stty`. -/
def setAttributes (a : Attributes) : Action σ Unit := do
  let args := changes a (← getAttributes run)
  if args.isEmpty then pure ()
  else
    match ← (run args).attempt with
    | .ok _ => pure ()
    | .error e => if isPartial e then afterPartial run a else throw e

/-- **A size set.** -/
def setSize (s : Size) : Action σ Unit := do
  let _ ← run (sizeArguments s)
  pure ()

end Teletype.Stty
