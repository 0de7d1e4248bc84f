import Teletype.Proofs.Queue.History

/-!
# Queues that cannot be told apart

Two queues may hold their bytes in packets of different size, and one of them may hold an
end behind an end. Neither shows in what they answer. **What shows is how many writers
there are, which bytes come before the first end, whether there is one, and which bytes
there are altogether** (`Alike`). For before an end is met, only the bytes in front of it
can be read, and afterwards only those that are pending. The bytes behind an end show when
they are counted, and how many ends stand between them does not.

Queues that are alike give the same answers, whatever is done to both (`Alike.answers`).
-/

namespace Teletype

namespace Queue

/-- **What is in a queue for its reader**, in order: the bytes pending and the stream. -/
def units (q : Queue) : List (Option UInt8) := q.pending.map some ++ q.stream

/-- The bytes in a queue, those behind an end among them. -/
def bytes (q : Queue) : List UInt8 := q.pending ++ q.stream.reduceOption

/-- **What some acts answer**, one after another. -/
def answers (q : Queue) : List Act → List Answer
  | [] => []
  | a :: later => q.answer a :: (q.after a).answers later

/-- **Queues that cannot be told apart.** -/
structure Alike (p q : Queue) : Prop where
  /-- The same writers are there. -/
  writers : p.writers = q.writers
  /-- So is the reader, or it is not. -/
  attended : p.attended = q.attended
  /-- An end has been met in both or in none. -/
  ended : p.ended = q.ended
  /-- The same bytes are there. -/
  bytes : p.bytes = q.bytes
  /-- When an end has been met, the same are pending. -/
  pending : p.ended = true → p.pending = q.pending
  /-- Otherwise the same stand in front of the first end, -/
  front : p.ended = false → beforeEnd p.units = beforeEnd q.units
  /-- and there is an end in both or in none. -/
  closed : p.ended = false → (none ∈ p.units ↔ none ∈ q.units)

section

variable {p q : Queue} {b : UInt8}

/-! ## Made ready for a read -/

theorem reduceOption_units_eq (q : Queue) : q.units.reduceOption = q.bytes := by
  rw [units, List.reduceOption_append, reduceOption_map_some]
  rfl

/-- What is added to the stream is added behind all that is there. -/
theorem units_of_stream {more : List (Option UInt8)} (hframe : p.frame = q.frame)
    (hstream : p.stream = q.stream ++ more) : p.units = q.units ++ more := by
  rw [units, units, pending_of_frame hframe, hstream, List.append_assoc]

theorem bytes_of_stream {more : List (Option UInt8)} (hframe : p.frame = q.frame)
    (hstream : p.stream = q.stream ++ more) : p.bytes = q.bytes ++ more.reduceOption := by
  rw [← reduceOption_units_eq, units_of_stream hframe hstream, List.reduceOption_append,
    reduceOption_units_eq]

/-- No byte is lost when packets are taken out. -/
theorem bytes_ready (q : Queue) : q.ready.bytes = q.bytes := by
  rcases q.ready_cases with ⟨-, hready⟩ | ⟨hpending, -, hcases⟩
  · rw [hready]
  · unfold bytes
    rw [hpending]
    rcases hcases with ⟨b, bytes, rest, hstream, hready⟩ | ⟨rest, hstream, hready⟩
      | ⟨hstream, hready⟩
    · rw [hstream, hready, List.reduceOption_append, reduceOption_map_some]
      rfl
    · rw [hstream, hready, List.reduceOption_cons_of_none, hpending]
      rfl
    · rw [hstream, hready, hpending]
      rfl

/-- Unless an end is met, none is lost either. -/
theorem units_ready (h : q.ready.ended = false) : q.ready.units = q.units := by
  rcases q.ready_cases with ⟨-, hready⟩ | ⟨hpending, -, hcases⟩
  · rw [hready]
  · unfold units
    rw [hpending]
    rcases hcases with ⟨b, bytes, rest, hstream, hready⟩ | ⟨rest, hstream, hready⟩
      | ⟨hstream, hready⟩
    · rw [hstream, hready]
      rfl
    · rw [hready] at h
      cases h
    · rw [hstream, hready, hpending]
      rfl

/-- **When a read meets an end**: no byte is in front of it, or no writer is left. -/
theorem ended_ready_iff (h : q.ended = false) :
    q.ready.ended = true
      ↔ beforeEnd q.units = [] ∧ (none ∈ q.units ∨ q.writers.all (!·) = true) := by
  unfold units
  rcases q.ready_cases with ⟨hreason, hready⟩ | ⟨hpending, -, hcases⟩
  · have hpending := hreason.resolve_right (by rw [h]; exact Bool.false_ne_true)
    rw [hready, h, beforeEnd_map_append]
    simp [hpending]
  · rw [hpending]
    rcases hcases with ⟨b, bytes, rest, hstream, hready⟩ | ⟨rest, hstream, hready⟩
      | ⟨hstream, hready⟩
    · rw [hready, hstream, List.map_nil, List.nil_append, beforeEnd_map_append]
      simp [h]
    · rw [hready, hstream]
      simp [beforeEnd]
    · rw [hready, hstream]
      simp [beforeEnd]

/-- Nothing is pending when an end is met. -/
theorem pending_ready (h : q.ended = false) (hready : q.ready.ended = true) :
    q.ready.pending = [] := by
  rcases q.ready_cases with ⟨-, heq⟩ | ⟨hpending, -, hcases⟩
  · rw [heq, h] at hready
    cases hready
  · rcases hcases with ⟨b, bytes, rest, -, heq⟩ | ⟨rest, -, heq⟩ | ⟨-, heq⟩
    · rw [heq] at hready
      exact absurd (h.symm.trans hready) Bool.false_ne_true
    · rw [heq]
      exact hpending
    · rw [heq]
      exact hpending

/-- **What is found first** in a queue made ready, when no end is met. -/
theorem head?_pending_ready (h : q.ready.ended = false) :
    q.ready.pending.head? = (beforeEnd q.ready.units).head? := by
  rcases q.ready_cases with ⟨hreason, hready⟩ | ⟨hpending, -, hcases⟩
  · rw [hready] at h ⊢
    obtain ⟨b, bytes, hpending⟩ := List.exists_cons_of_ne_nil
      (hreason.resolve_right (by rw [h]; exact Bool.false_ne_true))
    rw [units, beforeEnd_map_append, hpending]
    rfl
  · rcases hcases with ⟨b, bytes, rest, -, hready⟩ | ⟨rest, -, hready⟩ | ⟨-, hready⟩
    · rw [units, hready, beforeEnd_map_append]
      rfl
    · rw [hready] at h
      cases h
    · rw [units, hready, hpending]
      rfl

/-- An end that has been met stays met. -/
theorem ended_of_ready (h : q.ready.ended = false) : q.ended = false := by
  refine Bool.of_not_eq_true fun hended => ?_
  rw [ready_of_ended hended, hended] at h
  cases h

namespace Alike

/-- **An end behind an end does not show**, and neither do packets. -/
theorem of_stream {ends : List (Option UInt8)} (hframe : p.frame = q.frame)
    (hstream : p.stream = q.stream ++ ends) (hends : ends.reduceOption = [])
    (hclosed : ends = [] ∨ none ∈ q.stream) : Alike p q := by
  obtain ⟨channel, pending, ended, writers, attended⟩ := p
  obtain ⟨-, rfl, rfl, rfl, rfl⟩ : ([] : List Packet) = [] ∧ pending = q.pending ∧ ended = q.ended
      ∧ writers = q.writers ∧ attended = q.attended := by simpa [frame] using hframe
  refine ⟨rfl, rfl, rfl, ?_, fun _ => rfl, fun _ => ?_, fun _ => ?_⟩
  · unfold Queue.bytes
    rw [hstream, List.reduceOption_append, hends, List.append_nil]
  · unfold units
    rw [hstream, beforeEnd_map_append, beforeEnd_map_append]
    rcases hclosed with rfl | hclosed
    · rw [List.append_nil]
    · rw [beforeEnd_append hclosed]
  · unfold units
    rw [hstream]
    rcases hclosed with rfl | hclosed
    · rw [List.append_nil]
    · simp [hclosed]

/-- **Both made ready.** -/
theorem ready (h : Alike p q) : Alike p.ready q.ready := by
  have hended : p.ready.ended = q.ready.ended := by
    cases hp : p.ended with
    | true =>
      rw [ready_of_ended hp, ready_of_ended (h.ended ▸ hp)]
      exact h.ended
    | false =>
      rw [Bool.eq_iff_iff, ended_ready_iff hp, ended_ready_iff (h.ended ▸ hp), h.front hp,
        h.closed hp, h.writers]
  refine ⟨?_, ?_, hended, ?_, fun hmet => ?_, fun hmet => ?_, fun hmet => ?_⟩
  · rw [ready_writers, ready_writers, h.writers]
  · rw [ready_attended, ready_attended, h.attended]
  · rw [bytes_ready, bytes_ready, h.bytes]
  · cases hp : p.ended with
    | true =>
      rw [ready_of_ended hp, ready_of_ended (h.ended ▸ hp)]
      exact h.pending hp
    | false =>
      rw [pending_ready hp hmet, pending_ready (h.ended ▸ hp) (hended ▸ hmet)]
  · have hp := ended_of_ready hmet
    rw [units_ready hmet, units_ready (hended ▸ hmet), h.front hp]
  · have hp := ended_of_ready hmet
    rw [units_ready hmet, units_ready (hended ▸ hmet), h.closed hp]

/-- **The same is in front** of both, made ready. -/
theorem head?_ready (h : Alike p q) : p.ready.pending.head? = q.ready.pending.head? := by
  cases hp : p.ready.ended with
  | true => rw [h.ready.pending hp]
  | false =>
    rw [head?_pending_ready hp, head?_pending_ready (h.ready.ended ▸ hp), h.ready.front hp]

theorem front_ready (h : Alike p q) : p.ready.front = q.ready.front := by
  have hhead := h.head?_ready
  have hended := h.ready.ended
  unfold Queue.front
  cases hp : p.ready.pending <;> cases hq : q.ready.pending <;> simp_all

/-- **A byte read from both.** -/
theorem tail (h : Alike p q) (hhead : p.pending.head? = q.pending.head?) :
    Alike { p with pending := p.pending.tail } { q with pending := q.pending.tail } := by
  cases hp : p.pending with
  | nil =>
    have hq : q.pending = [] := by
      rw [hp] at hhead
      exact List.head?_eq_none_iff.1 hhead.symm
    have hsame : ∀ {r : Queue}, r.pending = [] → { r with pending := [] } = r := by
      intro r hr
      rw [← hr]
    rw [hq, List.tail_nil, hsame hp, hsame hq]
    exact h
  | cons b rest =>
    obtain ⟨rest', hq⟩ := List.head?_eq_some_iff.1 ((hp ▸ hhead).symm : q.pending.head? = some b)
    have hbytes := h.bytes
    unfold Queue.bytes at hbytes
    rw [hp, hq] at hbytes
    rw [hq]
    refine ⟨h.writers, h.attended, h.ended, (List.cons.inj hbytes).2, fun hmet => ?_,
      fun hgoing => ?_, fun hgoing => ?_⟩
    · have hpending := h.pending hmet
      rw [hp, hq] at hpending
      exact (List.cons.inj hpending).2
    · have hfront := h.front hgoing
      unfold units at hfront
      rw [hp, hq] at hfront
      exact (List.cons.inj hfront).2
    · have hclosed := h.closed hgoing
      unfold units at hclosed
      show none ∈ rest.map some ++ p.stream ↔ none ∈ rest'.map some ++ q.stream
      simpa using hclosed

/-- **The same added to both streams.** -/
theorem append (h : Alike p q) {p' q' : Queue} {more : List (Option UInt8)}
    (hp : p'.frame = p.frame) (hq : q'.frame = q.frame)
    (hp' : p'.stream = p.stream ++ more) (hq' : q'.stream = q.stream ++ more) : Alike p' q' := by
  have hpe := ended_of_frame hp
  have hpunits := units_of_stream hp hp'
  have hqunits := units_of_stream hq hq'
  refine ⟨?_, ?_, ?_, ?_, fun hmet => ?_, fun hgoing => ?_, fun hgoing => ?_⟩
  · rw [writers_of_frame hp, writers_of_frame hq, h.writers]
  · rw [attended_of_frame hp, attended_of_frame hq, h.attended]
  · rw [hpe, ended_of_frame hq, h.ended]
  · rw [bytes_of_stream hp hp', bytes_of_stream hq hq', h.bytes]
  · rw [pending_of_frame hp, pending_of_frame hq]
    exact h.pending (hpe ▸ hmet)
  · have hclosed := h.closed (hpe ▸ hgoing)
    rw [hpunits, hqunits]
    by_cases hmem : none ∈ p.units
    · rw [beforeEnd_append hmem, beforeEnd_append (hclosed.1 hmem), h.front (hpe ▸ hgoing)]
    · rw [eq_map_reduceOption hmem, eq_map_reduceOption (hclosed.not.1 hmem),
        reduceOption_units_eq, reduceOption_units_eq, h.bytes]
  · rw [hpunits, hqunits, List.mem_append, List.mem_append, h.closed (hpe ▸ hgoing)]

/-- **The same sent to both.** -/
theorem send (h : Alike p q) (packet : Packet) : Alike (p.send packet) (q.send packet) :=
  h.append (p.frame_send packet) (q.frame_send packet) (p.stream_send packet)
    (h.attended ▸ q.stream_send packet)

/-- **Both counted.** -/
theorem available (h : Alike p q) :
    p.available.1 = q.available.1 ∧ Alike p.available.2 q.available.2 := by
  have hbytes : ∀ r : Queue, r.pending ++ r.channel.flatMap Packet.content = r.bytes := by
    intro r
    rw [flatMap_content]
    rfl
  have hcontains : ∀ r : Queue, r.channel.contains .eof = r.units.contains none := by
    intro r
    rw [contains_eof, units, Bool.eq_iff_iff, List.contains_iff_mem, List.contains_iff_mem]
    simp [stream]
  unfold Queue.available
  rw [hbytes, hbytes, hcontains, hcontains, h.bytes]
  refine ⟨rfl, h.writers, h.attended, ?_, rfl, fun _ => rfl, fun _ => rfl, fun _ => Iff.rfl⟩
  show (p.ended || _) = (q.ended || _)
  cases hp : p.ended with
  | true => rw [← h.ended, hp, Bool.true_or, Bool.true_or]
  | false =>
    rw [← h.ended, hp, Bool.false_or, Bool.false_or, Bool.eq_iff_iff, List.contains_iff_mem,
      List.contains_iff_mem, h.closed hp]

/-- **The same answer.** -/
theorem answer (h : Alike p q) (a : Act) : p.answer a = q.answer a := by
  cases a with
  | write w content => simp only [Queue.answer, takes, h.attended]
  | close w => rfl
  | clone w => rfl
  | drop w => rfl
  | read => simp only [Queue.answer, Queue.read, h.front_ready]
  | peek => simp only [Queue.answer, peek, h.front_ready]
  | available => simp only [Queue.answer, h.available.1]

/-- **And alike still.** -/
theorem after (h : Alike p q) (a : Act) : Alike (p.after a) (q.after a) := by
  cases a with
  | write w content =>
    show Alike (p.write content) (q.write content)
    unfold write
    split
    · exact h
    · exact h.send _
  | close w => exact h.send .eof
  | clone w =>
    exact ⟨congrArg (· ++ [true]) h.writers, h.attended, h.ended, h.bytes, h.pending, h.front,
      h.closed⟩
  | drop w =>
    exact ⟨congrArg (·.set w false) h.writers, h.attended, h.ended, h.bytes, h.pending, h.front,
      h.closed⟩
  | read => exact h.ready.tail h.head?_ready
  | peek => exact h.ready
  | available => exact h.available.2

/-- **Queues that are alike give the same answers**, whatever is done to both. -/
theorem answers (h : Alike p q) (acts : List Act) : p.answers acts = q.answers acts := by
  induction acts generalizing p q with
  | nil => rfl
  | cons a later ih => rw [Queue.answers, Queue.answers, h.answer, ih (h.after a)]

end Alike

end

end Queue

end Teletype
