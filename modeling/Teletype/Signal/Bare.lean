import Teletype.Signal.Basic

/-!
# Handlers on their own

A table of handlers without a terminal around it. There is nothing to set
attributes of and nowhere to feed bytes to, so all that callbacks do here is to
leave marks and to install their successors.
-/

namespace Teletype

/-- **A table of handlers with the marks their callbacks left**, oldest first. -/
structure BareSignals where
  /-- The handlers. -/
  signals : SignalTable := {}
  /-- The marks. -/
  log : List (String × Signal) := []

/-- What callbacks may do to handlers on their own. -/
def BareSignals.host : Host BareSignals where
  table s := s.signals
  mark tag signal s := { s with log := s.log ++ [(tag, signal)] }
  setAttributes _ s := s
  deliver _ s := (s, [])
  install signal handler s := { s with signals := s.signals.install signal handler }

end Teletype
