import Teletype.Signal.Basic

/-!
# Raising signals bit by bit

Whoever raises signals runs callbacks one step after the other, and while a thread
does so others are at work on the same host. What a thread has yet to do is its
agenda: signals to raise and steps of callbacks, the next one first. Bytes that a
callback feeds back put the signals among them on the agenda, in front of the rest of
the callback, and so a thread that is left alone does what raising does in one go.
-/

namespace Teletype

/-- **Something to do** for a thread that raises signals. -/
inductive Task where
  /-- A signal to raise. -/
  | raise (s : Signal)
  /-- A step of a callback that runs for a signal. -/
  | step (s : Signal) (step : HandlerStep)

namespace Host

variable {σ : Type}

/-- **The next thing done**: what is still to do then, and the state it leaves. -/
def work (host : Host σ) : List Task → σ → List Task × σ
  | [], st => ([], st)
  | .raise s :: rest, st =>
    (((host.table st).reaction s).steps.map (.step s) ++ rest,
      host.note s ((host.table st).handler s) st)
  | .step s (.mark tag) :: rest, st => (rest, host.mark tag s st)
  | .step _ (.setAttributes a) :: rest, st => (rest, host.setAttributes a st)
  | .step _ (.feed bytes) :: rest, st =>
    let (st, signals) := host.deliver bytes st
    (signals.map .raise ++ rest, st)
  | .step s (.install h) :: rest, st => (rest, host.install s h st)

end Host

end Teletype
