import Teletype.Signal.Agenda
import Teletype.Terminal.Operation

/-!
# A terminal that callbacks use as well

A callback runs on the thread that raises its signal, and it may do to the terminal
whatever anybody may: read and write, change attributes, raise further signals, close.
So while a signal is being raised any operations may be done before the next step of the
callback, and a signal raised meanwhile comes first. What is left to do for the thread is
its agenda (`Host.work`). A call of a writer is an act of its own, since it may come
without bytes.
-/

namespace Teletype

/-- **A terminal, and what is left to do** for those who raise its signals. -/
structure Reentrant (δ : Type) where
  /-- The terminal. -/
  terminal : Terminal δ
  /-- The agenda. -/
  agenda : List Task := []

namespace Reentrant

/-- **What may be done next**, by the application or by a callback. -/
inductive Act where
  /-- An operation is done, and what it raises is raised in one go. -/
  | operate (o : Operation)
  /-- A writer is called. -/
  | write (bytes : List UInt8)
  /-- A signal begins to be raised. -/
  | raise (s : Signal)
  /-- The next step of a callback is done. -/
  | work
  /-- The pumps do a step, and its signals begin to be raised. -/
  | pump
  /-- The terminal is closed. -/
  | close

variable {δ : Type} [Device δ]

/-- **What an act does.** -/
def after (s : Reentrant δ) : Act → Reentrant δ
  | .operate o => { s with terminal := (o.run.runOn s.terminal).2 }
  | .write bytes => { s with terminal := (s.terminal.writeOnce bytes).2 }
  | .raise signal => { s with agenda := .raise signal :: s.agenda }
  | .work =>
    let (agenda, terminal) := Terminal.host.work s.agenda s.terminal
    { agenda, terminal }
  | .pump =>
    match Device.advance s.terminal.device with
    | none => s
    | some (signals, device) =>
      { terminal := { s.terminal with device }, agenda := signals.map .raise ++ s.agenda }
  | .close => { s with terminal := (Terminal.close.runOn s.terminal).2 }

/-- **What some acts do**, one after the other. -/
def run (s : Reentrant δ) (acts : List Act) : Reentrant δ := acts.foldl after s

end Reentrant

end Teletype
