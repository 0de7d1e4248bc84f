import Teletype.Signal.Registry

/-!
# Owners of registrations

A terminal that listens to the signals of the process owns registrations: one
for each signal that the platform can deliver. When a handler is installed the
owner registers anew and only then gives the old registration up, so that there
is never a moment at which the signal is nobody's. An owner that closes gives
up all it has.

Several owners share the one registry of the process. An owner is therefore
only the tokens that it holds.
-/

namespace Teletype

/-- **The tokens an owner holds**, one for each signal at most. -/
structure Owner where
  /-- The token held for a signal. -/
  token : Signal → Option Token := fun _ => none

namespace Owner

variable {α : Type}

/-- The tokens held. -/
def tokens (o : Owner) : List Token := Signal.all.filterMap o.token

/-- A token put in the place of the one held for a signal. -/
def hold (o : Owner) (s : Signal) (t : Option Token) : Owner :=
  { token := fun x => if x = s then t else o.token x }

/-- The registry without a registration that may have been. -/
def giveUp (r : Registry α) (t : Option Token) : Registry α :=
  match t with
  | some t => r.unregister t
  | none => r

/-- **Registering anew** for a signal: the new registration comes before the old one
goes. -/
def register (o : Owner) (r : Registry α) (s : Signal) (action : Option α) :
    Owner × Registry α :=
  let (t, r) := r.register s action
  (o.hold s t, giveUp r (o.token s))

/-- What an owner registers for a handler: the platform's own reaction for the
default handler, and its own doing for all others. -/
def actionFor (own : α) (h : Handler) : Option α := if h.isDefault then none else some own

/-- **An owner that starts listening**: the platform's own reaction for every signal. -/
def listen (r : Registry α) : Owner × Registry α :=
  Signal.all.foldl (fun (o, r) s => register o r s none) ({}, r)

/-- **All given up.** -/
def release (o : Owner) (r : Registry α) : Owner × Registry α :=
  ({}, o.tokens.foldl Registry.unregister r)

end Owner

end Teletype
