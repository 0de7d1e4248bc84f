import Teletype.Action

/-!
# Bytes on request

Readers of reports ask for one byte at a time. Whatever they ask answers with a
byte, with nothing at the end of input, or with a failure. It may be a terminal
with all its state; here it is a list of bytes.
-/

namespace Teletype

/-- **Bytes fixed beforehand**, then the end of input or a failure. -/
structure Supply where
  /-- The bytes that are left. -/
  bytes : List UInt8
  /-- What comes after them: the end of input, or a failure. -/
  failure : Option TerminalError := none

/-- The next byte of a supply. -/
def Supply.next : Action Supply (Option UInt8) := do
  let s ← get
  match s.bytes, s.failure with
  | b :: rest, _ => do
    set { s with bytes := rest }
    pure (some b)
  | [], none => pure none
  | [], some e => throw e

end Teletype
