import Teletype.Discipline.Basic

/-!
# A discipline with its handlers

Signals that a discipline records are raised once the chunk they came in has
been processed. Handlers may then change the attributes the next chunk is
processed under, feed further chunks, and put other handlers in their places.
-/

namespace Teletype

/-- **A discipline with the attributes it goes by and the handlers of its
signals.** -/
structure Session where
  /-- The attributes. -/
  attributes : Attributes
  /-- The discipline. -/
  discipline : Discipline := {}
  /-- The handlers. -/
  signals : SignalTable := {}
  /-- The marks that callbacks left, oldest first. -/
  log : List (String × Signal) := []

namespace Session

/-- A chunk processed; its signals wait. -/
def process (s : Session) (bytes : List UInt8) : Session × Except DeviceError Unit :=
  let (discipline, result) := s.discipline.process s.attributes bytes
  ({ s with discipline }, result)

/-- The signals that wait, taken away. -/
def takeSignals (s : Session) : List Signal × Session :=
  let (signals, discipline) := s.discipline.takeSignals
  (signals, { s with discipline })

/-- A chunk processed, its signals taken away to be raised. -/
def deliver (s : Session) (bytes : List UInt8) : Session × List Signal × Except DeviceError Unit :=
  let (s, result) := s.process bytes
  let (signals, s) := s.takeSignals
  (s, signals, result)

/-- What callbacks may do to a session. -/
def host : Host Session where
  table s := s.signals
  mark tag signal s := { s with log := s.log ++ [(tag, signal)] }
  setAttributes attributes s := { s with attributes }
  deliver bytes s := ((s.deliver bytes).1, (s.deliver bytes).2.1)
  install signal handler s := { s with signals := s.signals.install signal handler }

/-- **A chunk fed in**: processed, and then its signals raised in the order in
which they came – also when the echo failed. -/
def feed? (s : Session) (bytes : List UInt8) : Option (Session × Except DeviceError Unit) :=
  let (s, signals, result) := s.deliver bytes
  (host.raiseAll? signals s).map (·, result)

/-- A chunk fed in by someone who waits until that is over. -/
def feed (s : Session) (bytes : List UInt8) : Session × Except DeviceError Unit :=
  (s.feed? bytes).getD (s, .ok ())

/-- The end of input. -/
def endOfInput (s : Session) : Session := { s with discipline := s.discipline.endOfInput }

end Session

end Teletype
