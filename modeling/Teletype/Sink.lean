import Teletype.Error

/-!
# Sinks

A sink is where bytes go. It takes the bytes of a write together or refuses the
write as a whole, and it may refuse any write it likes: what it does depends on
how many writes there were and on how many bytes there would be.
-/

namespace Teletype

/-- **A sink of bytes.** -/
structure Sink where
  /-- Whether a write is refused, by its number from zero and by how many bytes
  would have been taken with it. -/
  refuses : Nat → Nat → Bool := fun _ _ => false
  /-- How many writes there were, refused ones too. -/
  attempts : Nat := 0
  /-- The bytes taken. -/
  taken : List UInt8 := []

namespace Sink

/-- The sink that never refuses. -/
def endless : Sink := {}

/-- The sink that takes so many bytes and no more. -/
def ofLimit (limit : Nat) : Sink := { refuses := fun _ total => limit < total }

/-- **Writing to a sink.** -/
def write (s : Sink) (bytes : List UInt8) : Sink × Except DeviceError Unit :=
  let next := { s with attempts := s.attempts + 1 }
  if s.refuses s.attempts (s.taken.length + bytes.length) then (next, .error .sinkFull)
  else ({ next with taken := s.taken ++ bytes }, .ok ())

/-- A sink that never refuses takes every write. -/
theorem write_of_never_refuses (s : Sink) (h : ∀ n total, s.refuses n total = false)
    (bytes : List UInt8) :
    s.write bytes
      = ({ s with attempts := s.attempts + 1, taken := s.taken ++ bytes }, .ok ()) := by
  simp [write, h]

/-- What a sink refuses never changes. -/
@[simp] theorem refuses_write (s : Sink) (bytes : List UInt8) :
    (s.write bytes).1.refuses = s.refuses := by
  simp only [write]
  split <;> rfl

end Sink

end Teletype
