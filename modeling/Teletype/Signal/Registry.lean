import Teletype.Signal.Basic

/-!
# Signals of the process

The operating system sends signals to the process as a whole. For each signal
the process keeps a stack of registrations, and the newest one receives what is
sent. A registration may also ask for the reaction that the platform has of
its own. Registrations can be given up in any order.

The platform knows five of the six signals: a status request is not one of its
own.
-/

namespace Teletype

/-- Whether the platform can deliver a signal. -/
def Signal.isNative : Signal → Bool
  | .info => false
  | _ => true

/-- **The proof of a registration**, needed to give it up. -/
structure Token where
  /-- The signal registered for. -/
  signal : Signal
  /-- What tells the registration from all others. -/
  id : Nat
  deriving DecidableEq

/-- A registration. What is to be done is nothing when the platform's own
reaction was asked for. -/
structure Registration (α : Type) where
  /-- What tells it from all others. -/
  id : Nat
  /-- What is to be done. -/
  action : Option α

/-- **The registrations of a process.** -/
structure Registry (α : Type) where
  /-- The number of registrations there ever were. -/
  issued : Nat := 0
  /-- The registrations of each signal, newest first. -/
  stack : Signal → List (Registration α) := fun _ => []

namespace Registry

variable {α : Type}

/-- **Registering** for a signal; nothing when the platform cannot deliver it. -/
def register (r : Registry α) (s : Signal) (action : Option α) : Option Token × Registry α :=
  if s.isNative then
    let id := r.issued + 1
    (some ⟨s, id⟩,
      { issued := id
        stack := fun x => if x = s then ⟨id, action⟩ :: r.stack x else r.stack x })
  else (none, r)

/-- **Giving a registration up.** -/
def unregister (r : Registry α) (t : Token) : Registry α :=
  { r with
    stack := fun x =>
      if x = t.signal then (r.stack x).filter (fun e => e.id != t.id) else r.stack x }

/-- **What a signal sent does**: what the newest registration asks for. Nothing
stands for the reaction of the platform. -/
def dispatch (r : Registry α) (s : Signal) : Option α := (r.stack s).head?.bind (·.action)

/-- The registrations in force. -/
def tokens (r : Registry α) : List Token :=
  Signal.all.flatMap fun s => (r.stack s).map fun e => ⟨s, e.id⟩

end Registry

end Teletype
