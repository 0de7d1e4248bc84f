import Teletype.Pump.Basic

/-!
# A pump under one controller

When one controller makes its calls one after the other, and whoever pauses a
pump also sees its thread end, there is nothing to interleave: every call runs
all of its sections before the next. The body counted here goes on until it is
told to stop.
-/

namespace Teletype

/-- **A pump and what became of its bodies.** -/
structure SequentialPump where
  /-- The pump. -/
  pump : Pump := {}
  /-- How many bodies were begun. -/
  started : Nat := 0
  /-- How many bodies have returned. -/
  ended : Nat := 0
  deriving DecidableEq, Repr

namespace SequentialPump

/-- Whether a body is under way. -/
def running (s : SequentialPump) : Bool := s.pump.running

/-- The pump resumed. -/
def resume (s : SequentialPump) : SequentialPump :=
  { s with
    pump := s.pump.resume
    started := s.started + (s.pump.resume.generation - s.pump.generation) }

/-- The body, if one is under way, returns. -/
def finish (s : SequentialPump) : SequentialPump :=
  match s.pump.thread with
  | none => s
  | some g => { s with pump := s.pump.finish g, ended := s.ended + 1 }

/-- The pump paused; the body is told so and returns. -/
def pause (s : SequentialPump) : SequentialPump := { s with pump := s.pump.pause }.finish

/-- The pump paused by a controller that waits until the thread is gone. -/
def pauseAndWait (s : SequentialPump) : SequentialPump :=
  match s.pump.pause.take with
  | (none, pump) => { s with pump }
  | (some g, pump) => { s with pump := (pump.finish g).joined, ended := s.ended + 1 }

/-- The body, if one is under way, pauses its own pump, and then returns. -/
def pauseSelf (s : SequentialPump) : SequentialPump :=
  if s.running then s.pause else s

end SequentialPump

end Teletype
