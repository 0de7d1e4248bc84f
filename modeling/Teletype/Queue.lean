/-!
# The queue between a pump and a reader

Bytes arrive in packets, and so do ends of input: any of several writers may
put either into the channel. The reader takes packets out one by one as it
needs them and keeps the bytes it has not consumed yet.

A read answers with a byte, with the end of input, or with the news that there
is nothing yet. How long it would have waited makes no difference here: nothing
arrives while a read is under way, so a read that would wait expires.

## The end of input

Once the reader has taken an end out of the channel it looks no further, even
when other writers go on. The channel itself ends when it is empty and no
writer is left. Counting the available bytes is different: it takes out *all*
packets, those behind an end too.
-/

namespace Teletype

/-- **What a read finds.** -/
inductive Reading where
  /-- A byte. -/
  | byte (value : UInt8)
  /-- Nothing within the time allowed. -/
  | expired
  /-- The end of input. -/
  | eof
  deriving DecidableEq

namespace Reading

/-- The byte of a reading. -/
def byte? : Reading → Option UInt8
  | byte b => some b
  | _ => none

end Reading

/-- What travels through the channel. -/
inductive Packet where
  /-- Some bytes. -/
  | bytes (content : List UInt8)
  /-- The end of input. -/
  | eof
  deriving DecidableEq

/-- The bytes of a packet. -/
def Packet.content : Packet → List UInt8
  | bytes content => content
  | eof => []

/-- **The queue between writers and a reader.** -/
structure Queue where
  /-- The packets sent and not yet taken out, oldest first. -/
  channel : List Packet := []
  /-- The bytes taken out and not yet consumed. -/
  pending : List UInt8 := []
  /-- Whether the reader has come upon the end. -/
  ended : Bool := false
  /-- For each writer there ever was, whether it is still there. -/
  writers : List Bool := [true]
  /-- Whether the reader is still there. -/
  attended : Bool := true
  deriving DecidableEq

namespace Queue

/-- Whether a writer is still there. -/
def hasWriter (q : Queue) (writer : Nat) : Bool := q.writers.getD writer false

/-- A packet put into the channel, while there is someone to read it. -/
def send (q : Queue) (p : Packet) : Queue :=
  if q.attended then { q with channel := q.channel ++ [p] } else q

/-- **Bytes written.** No bytes make no packet. -/
def write (q : Queue) (content : List UInt8) : Queue :=
  if content.isEmpty then q else q.send (.bytes content)

/-- Whether a write reaches a reader, or has nothing to bring. -/
def takes (q : Queue) (content : List UInt8) : Bool := content.isEmpty || q.attended

/-- **The end of input announced.** Bytes sent before it are still delivered. -/
def close (q : Queue) : Queue := q.send .eof

/-- A new writer beside the others; its number is how many there were. -/
def addWriter (q : Queue) : Queue := { q with writers := q.writers ++ [true] }

/-- A writer gone. -/
def dropWriter (q : Queue) (writer : Nat) : Queue :=
  { q with writers := q.writers.set writer false }

/-- The reader gone, and all that was on its way to it. -/
def dropReader (q : Queue) : Queue := { q with attended := false, channel := [], pending := [] }

/-- Packets taken out until there is a byte or an end: the bytes, whether the
end was met, and the packets left. -/
def takeOut : List Packet → List UInt8 × Bool × List Packet
  | [] => ([], false, [])
  | .eof :: rest => ([], true, rest)
  | .bytes [] :: rest => takeOut rest
  | .bytes (b :: bs) :: rest => (b :: bs, false, rest)

/-- The queue made ready for a read: unless a byte is pending or the end was met,
packets are taken out, and an empty channel without writers is an end. -/
def ready (q : Queue) : Queue :=
  if q.pending.isEmpty && !q.ended then
    match takeOut q.channel with
    | ([], false, rest) => { q with channel := rest, ended := q.writers.all (!·) }
    | (pending, ended, rest) => { q with channel := rest, pending, ended }
  else q

/-- What a read of a queue made ready finds. -/
def front (q : Queue) : Reading :=
  match q.pending with
  | b :: _ => .byte b
  | [] => if q.ended then .eof else .expired

/-- **Looking at the next byte** without consuming it. -/
def peek (q : Queue) : Reading × Queue := (q.ready.front, q.ready)

/-- **Reading the next byte.** -/
def read (q : Queue) : Reading × Queue :=
  (q.ready.front, { q.ready with pending := q.ready.pending.tail })

/-- **How many bytes are there.** All packets are taken out to count them. -/
def available (q : Queue) : Nat × Queue :=
  let pending := q.pending ++ q.channel.flatMap Packet.content
  (pending.length, { q with channel := [], pending, ended := q.ended || q.channel.contains .eof })

/-- How many bytes there are to read, beyond an end too. -/
def unread (q : Queue) : Nat := q.pending.length + (q.channel.flatMap Packet.content).length

/-- Bytes read until there is none, and the reading that ended it. -/
def drain (q : Queue) : List UInt8 × Reading × Queue :=
  go q q.unread
where
  /-- Reads on, at most so many bytes. -/
  go (q : Queue) : Nat → List UInt8 × Reading × Queue
    | 0 => ([], q.read)
    | n + 1 =>
      match q.read with
      | (.byte b, q) =>
        let (bytes, reading, q) := go q n
        (b :: bytes, reading, q)
      | (reading, q) => ([], reading, q)

end Queue

end Teletype
