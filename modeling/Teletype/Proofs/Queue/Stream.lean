import Mathlib.Data.List.ReduceOption
import Teletype.Queue

/-!
# The stream in a queue

A queue is fed packet by packet, and gives up its packets one by one as its reader needs
them. Where one packet ends and the next begins is visible to nobody. What the reader
comes upon is one stream of bytes and ends of input (`Queue.stream`): a packet of bytes
adds its bytes to it and an announced end adds an end (`stream_write`, `stream_close`).

The reader takes a piece off the front of the stream when it has nothing pending: some
bytes, or an end. When there is neither, it finds out whether a writer is left
(`ready_cases`). Taking a piece and adding to the other side of the stream do not get in
each other's way (`ready_extend`).
-/

namespace Teletype

/-! ## Bytes and ends -/

/-- What a reader comes upon in a packet: bytes, or an end of input. -/
def Packet.units : Packet → List (Option UInt8)
  | .bytes content => content.map some
  | .eof => [none]

namespace Queue

/-- **The stream in the channel of a queue**: its bytes and ends of input in
order, whatever packets they came in. -/
def stream (q : Queue) : List (Option UInt8) := q.channel.flatMap Packet.units

/-- A queue apart from its channel. -/
def frame (q : Queue) : Queue := { q with channel := [] }

/-- What writing to a queue adds to the stream: nothing when there is no reader. -/
def admitted (q : Queue) (content : List UInt8) : List (Option UInt8) :=
  if q.attended then content.map some else []

/-- What an end adds to the stream: nothing when there is no reader. -/
def ending (q : Queue) : List (Option UInt8) := if q.attended then [none] else []

@[simp] theorem admitted_nil (q : Queue) : q.admitted [] = [] := by
  rw [admitted, List.map_nil, ite_self]

theorem admitted_append (q : Queue) (xs ys : List UInt8) :
    q.admitted (xs ++ ys) = q.admitted xs ++ q.admitted ys := by
  unfold admitted
  split
  · exact List.map_append
  · rfl

theorem attended_of_frame {p q : Queue} (h : p.frame = q.frame) : p.attended = q.attended := by
  show p.frame.attended = q.frame.attended
  rw [h]

theorem admitted_of_frame {p q : Queue} (h : p.frame = q.frame) : p.admitted = q.admitted := by
  funext content
  rw [admitted, admitted, attended_of_frame h]

theorem ending_of_frame {p q : Queue} (h : p.frame = q.frame) : p.ending = q.ending := by
  rw [ending, ending, attended_of_frame h]

/-! ## What writers do to it -/

/-- What is sent touches nothing but the channel. -/
theorem frame_send (q : Queue) (p : Packet) : (q.send p).frame = q.frame := by
  unfold send
  split <;> rfl

theorem frame_write (q : Queue) (content : List UInt8) : (q.write content).frame = q.frame := by
  unfold write
  split
  · rfl
  · exact q.frame_send _

theorem frame_close (q : Queue) : q.close.frame = q.frame := q.frame_send .eof

theorem pending_of_frame {p q : Queue} (h : p.frame = q.frame) : p.pending = q.pending := by
  show p.frame.pending = q.frame.pending
  rw [h]

theorem ended_of_frame {p q : Queue} (h : p.frame = q.frame) : p.ended = q.ended := by
  show p.frame.ended = q.frame.ended
  rw [h]

theorem writers_of_frame {p q : Queue} (h : p.frame = q.frame) : p.writers = q.writers := by
  show p.frame.writers = q.frame.writers
  rw [h]

/-- **What is sent is added to the stream**, if there is a reader. -/
theorem stream_send (q : Queue) (p : Packet) :
    (q.send p).stream = q.stream ++ if q.attended then p.units else [] := by
  unfold send
  split
  · rw [stream, List.flatMap_append, List.flatMap_singleton]
    rfl
  · rw [List.append_nil]

/-- **Writing adds to the stream.** -/
theorem stream_write (q : Queue) (content : List UInt8) :
    (q.write content).stream = q.stream ++ q.admitted content := by
  unfold write
  split
  · next h => rw [List.isEmpty_iff.1 h, admitted_nil, List.append_nil]
  · exact q.stream_send _

theorem stream_close (q : Queue) : q.close.stream = q.stream ++ q.ending := q.stream_send .eof

/-! ## What the reader does to it -/

section

variable {packets : List Packet} {q : Queue}

theorem reduceOption_map_some {α : Type} (l : List α) : (l.map some).reduceOption = l := by
  induction l with
  | nil => rfl
  | cons a l ih => rw [List.map_cons, List.reduceOption_cons_of_some, ih]

theorem reduceOption_units (p : Packet) : p.units.reduceOption = p.content := by
  cases p with
  | bytes content => exact reduceOption_map_some content
  | eof => rfl

/-- The bytes in the channel are the bytes of the stream. -/
theorem flatMap_content (packets : List Packet) :
    packets.flatMap Packet.content = (packets.flatMap Packet.units).reduceOption := by
  induction packets with
  | nil => rfl
  | cons p packets ih =>
    rw [List.flatMap_cons, List.flatMap_cons, List.reduceOption_append, reduceOption_units, ih]

/-- An end in the channel is one in the stream. -/
theorem contains_eof (packets : List Packet) :
    packets.contains .eof = (packets.flatMap Packet.units).contains none := by
  induction packets with
  | nil => rfl
  | cons p packets ih =>
    rw [List.flatMap_cons, List.contains_cons, ih]
    cases p <;> simp [Packet.units]

/-- **Taking packets out takes a piece off the stream**: some bytes, an end, or all of
nothing. -/
theorem takeOut_cases (packets : List Packet) :
    (∃ b bytes rest, takeOut packets = (b :: bytes, false, rest)
      ∧ packets.flatMap Packet.units = (b :: bytes).map some ++ rest.flatMap Packet.units)
    ∨ (∃ rest, takeOut packets = ([], true, rest)
      ∧ packets.flatMap Packet.units = none :: rest.flatMap Packet.units)
    ∨ (takeOut packets = ([], false, []) ∧ packets.flatMap Packet.units = []) := by
  induction packets with
  | nil => exact .inr (.inr ⟨rfl, rfl⟩)
  | cons p packets ih =>
    match p with
    | .eof => exact .inr (.inl ⟨packets, rfl, rfl⟩)
    | .bytes (b :: bytes) => exact .inl ⟨b, bytes, packets, rfl, rfl⟩
    | .bytes [] => exact ih

/-- Packets behind do not matter when some bytes are found before them. -/
theorem takeOut_append (h : (takeOut packets).1 ≠ []) (more : List Packet) :
    takeOut (packets ++ more)
      = ((takeOut packets).1, (takeOut packets).2.1, (takeOut packets).2.2 ++ more) := by
  induction packets with
  | nil => exact absurd rfl h
  | cons p packets ih =>
    match p with
    | .eof => exact absurd rfl h
    | .bytes (b :: bytes) => rfl
    | .bytes [] => exact ih h

theorem ready_of_pending (h : q.pending ≠ []) : q.ready = q := by
  unfold ready
  rw [List.isEmpty_eq_false_iff.2 h]
  rfl

theorem ready_of_ended (h : q.ended = true) : q.ready = q := by
  unfold ready
  rw [h, Bool.not_true, Bool.and_false]
  rfl

/-- **What a read makes of a queue.** With a byte pending or the end met it needs
nothing. Otherwise it takes a piece off the stream, or finds that there is none. -/
theorem ready_cases (q : Queue) :
    ((q.pending ≠ [] ∨ q.ended = true) ∧ q.ready = q)
    ∨ (q.pending = [] ∧ q.ended = false ∧
      ((∃ b bytes rest, q.stream = (b :: bytes).map some ++ rest.flatMap Packet.units
          ∧ q.ready = { q with channel := rest, pending := b :: bytes })
        ∨ (∃ rest, q.stream = none :: rest.flatMap Packet.units
          ∧ q.ready = { q with channel := rest, ended := true })
        ∨ (q.stream = [] ∧ q.ready = { q with channel := [], ended := q.writers.all (!·) }))) := by
  obtain ⟨channel, pending, ended, writers, attended⟩ := q
  match pending, ended with
  | _ :: _, _ => exact .inl ⟨.inl (by simp), rfl⟩
  | [], true => exact .inl ⟨.inr rfl, rfl⟩
  | [], false =>
    refine .inr ⟨rfl, rfl, ?_⟩
    unfold ready
    rcases takeOut_cases channel with ⟨b, bytes, rest, htake, hunits⟩ | ⟨rest, htake, hunits⟩
      | ⟨htake, hunits⟩
    · exact .inl ⟨b, bytes, rest, hunits, by rw [htake]; rfl⟩
    · exact .inr (.inl ⟨rest, hunits, by rw [htake]; rfl⟩)
    · exact .inr (.inr ⟨hunits, by rw [htake]; rfl⟩)

@[simp] theorem ready_writers (q : Queue) : q.ready.writers = q.writers := by
  unfold ready
  split
  · split <;> rfl
  · rfl

@[simp] theorem ready_attended (q : Queue) : q.ready.attended = q.attended := by
  unfold ready
  split
  · split <;> rfl
  · rfl

/-- **A piece taken off the front** and one added behind do not get in each other's way. -/
theorem ready_extend (h : q.ready.pending ≠ []) (more : List Packet) (writers : List Bool) :
    ({ q with channel := q.channel ++ more, writers } : Queue).ready
      = { q.ready with channel := q.ready.channel ++ more, writers } := by
  obtain ⟨channel, pending, ended, ws, attended⟩ := q
  match pending, ended with
  | _ :: _, _ => rfl
  | [], true => exact absurd rfl h
  | [], false =>
    unfold ready at h ⊢
    rcases takeOut_cases channel with ⟨b, bytes, rest, htake, -⟩ | ⟨rest, htake, -⟩ | ⟨htake, -⟩
    · have hbytes : (takeOut channel).1 ≠ [] := by
        rw [htake]
        exact List.cons_ne_nil b bytes
      have happend := takeOut_append hbytes more
      rw [htake] at happend
      rw [htake, happend]
      rfl
    · rw [htake] at h
      exact absurd rfl h
    · rw [htake] at h
      exact absurd rfl h

theorem ready_send (h : q.ready.pending ≠ []) (p : Packet) :
    (q.send p).ready = q.ready.send p := by
  unfold send
  by_cases hattended : q.attended = true
  · rw [if_pos hattended, if_pos (q.ready_attended.trans hattended)]
    refine (ready_extend h [p] q.writers).trans ?_
    rw [← q.ready_writers]
  · rw [if_neg hattended, if_neg (by rwa [ready_attended])]

theorem ready_write (h : q.ready.pending ≠ []) (content : List UInt8) :
    (q.write content).ready = q.ready.write content := by
  unfold write
  split
  · rfl
  · exact ready_send h _

theorem ready_addWriter (h : q.ready.pending ≠ []) : q.addWriter.ready = q.ready.addWriter := by
  have hextend := ready_extend h [] (q.writers ++ [true])
  simp only [List.append_nil] at hextend
  rw [addWriter, addWriter, hextend, ready_writers]

theorem ready_dropWriter (h : q.ready.pending ≠ []) (w : Nat) :
    (q.dropWriter w).ready = q.ready.dropWriter w := by
  have hextend := ready_extend h [] (q.writers.set w false)
  simp only [List.append_nil] at hextend
  rw [dropWriter, dropWriter, hextend, ready_writers]

/-- Counting is no different before a read and after. -/
theorem available_ready (h : q.ready.pending ≠ []) : q.ready.available = q.available := by
  rcases q.ready_cases with ⟨-, hready⟩ | ⟨hpending, hended, hcases⟩
  · rw [hready]
  · rcases hcases with ⟨b, bytes, rest, hstream, hready⟩ | ⟨rest, -, hready⟩ | ⟨-, hready⟩
    · rw [hready]
      simp only [available, flatMap_content, contains_eof]
      rw [show q.channel.flatMap Packet.units = _ from hstream, hpending, List.reduceOption_append,
        reduceOption_map_some]
      simp
    · exact absurd hpending (by rwa [hready] at h)
    · exact absurd hpending (by rwa [hready] at h)

end

end Queue

end Teletype
