import Teletype.Discipline.Session
import Teletype.Proofs.Discipline.Chunks

/-!
# Input whose mode changes

Bytes that have no meaning of their own wait in two places. While input comes in lines
they join the line that is being collected, and otherwise they go to the queue at once.
Nothing moves the line when the mode changes. So what arrives next outside lines goes
past a line that has been begun, which the reader gets when the input ends and no
sooner.

That is all that happens to the order. The reader gets the bytes that arrived outside
lines, then the line that had been begun before, then the bytes that arrived in lines
(`stream_endOfInput_play`). Nothing is lost or made up, and the order is kept exactly
when these spell what arrived (`play_keeps_order_iff`). It does not matter whether the
echo fails, since no byte of this kind is a signal.
-/

namespace Teletype

/-- **A byte without a meaning of its own**: it neither ends a line nor stands in a slot
for control characters. -/
structure Attributes.Plain (a : Attributes) (b : UInt8) : Prop where
  ne_return : b ≠ carriageReturn
  ne_feed : b ≠ lineFeed
  isChar : ∀ c, a.isChar c b = false

namespace Discipline

/-! ## Plain bytes -/

section

variable {a : Attributes} {b : UInt8}

theorem signalOf?_of_plain (hb : a.Plain b) : signalOf? a b = none := by
  simp [signalOf?, signalChars, hb.isChar]

theorem lineEnd_of_plain (hb : a.Plain b) (skipsLf : Bool) :
    lineEnd a skipsLf b = (some b, false) := by
  simp [lineEnd, hb.ne_return, hb.ne_feed]

/-- Editing has nothing to do with a plain byte. -/
theorem edit_of_plain (hb : a.Plain b) (hlines : a.flag .icanon = true) (s : State) :
    edit a s b = accept a s b := by
  simp [edit, accept, endsLine, lineEcho, hb.isChar, hb.ne_feed, hlines]

/-- **A plain byte is taken as it is**, whether it is quoted or not. -/
theorem step_of_plain (hb : a.Plain b) (hstrip : a.flag .istrip = false) (s : State) :
    ∃ t : State, t.line = s.line ∧ step a s b = accept a t b := by
  have hstripped : strip a b = b := by simp [strip, hstrip]
  by_cases hquotes : s.quotes = true
  · exact ⟨{ s with quotes := false }, rfl, by simp [step, hstripped, hquotes]⟩
  · refine ⟨{ s with skipsLf := false }, rfl, ?_⟩
    simp only [step, hstripped, if_neg hquotes, signalOf?_of_plain hb, ordinary,
      lineEnd_of_plain hb]
    split
    · next hlines => exact edit_of_plain hb hlines _
    · rfl

theorem accept_frame (a : Attributes) (s : State) (b : UInt8) :
    (accept a s b).1.line = s.line ++ (if a.flag .icanon then [b] else [])
      ∧ (accept a s b).2.input = (if a.flag .icanon then [] else [b])
      ∧ (accept a s b).2.signal = none := by
  unfold accept
  split <;> simp

/-- **Plain bytes** join the line in lines, and go to the reader otherwise. -/
theorem run_of_plain (bytes : List UInt8) (hbytes : ∀ b ∈ bytes, a.Plain b)
    (hstrip : a.flag .istrip = false) (s : State) :
    (run a s bytes).1.line = s.line ++ (if a.flag .icanon then bytes else [])
      ∧ (run a s bytes).2.input = (if a.flag .icanon then [] else bytes)
      ∧ (run a s bytes).2.signals = [] := by
  induction bytes generalizing s with
  | nil => simp [run]
  | cons b rest ih =>
    obtain ⟨t, ht, hstep⟩ := step_of_plain (hbytes b List.mem_cons_self) hstrip s
    obtain ⟨hline, hinput, hsignal⟩ := accept_frame a t b
    rw [← hstep] at hline hinput hsignal
    obtain ⟨hline', hinput', hsignals'⟩ :=
      ih (fun c hc => hbytes c (List.mem_cons_of_mem b hc)) (step a s b).1
    rw [run_cons]
    refine ⟨hline'.trans ?_, ?_, ?_⟩
    · rw [hline, ht]
      split <;> simp
    · rw [Outcome.input_append, hinput']
      show (step a s b).2.input ++ _ = _
      rw [hinput]
      split <;> simp
    · rw [Outcome.signals_append, hsignals']
      show (step a s b).2.signal.toList ++ _ = _
      rw [hsignal]
      rfl

end

end Discipline

/-! ## Chunks and modes -/

namespace Session

/-- **What happens while input is awaited**: a chunk arrives, or input comes in lines
from now on, or no longer. -/
inductive Event where
  /-- Bytes that arrive together. -/
  | chunk (bytes : List UInt8)
  /-- Canonical mode switched. -/
  | lines (on : Bool)

namespace Event

/-- The bytes that arrive. -/
def bytes : Event → List UInt8
  | chunk bytes => bytes
  | lines _ => []

/-- All bytes that arrive. -/
def arrived (events : List Event) : List UInt8 := events.flatMap bytes

/-- **The bytes that arrive in one mode**, when input comes in lines at first or does
not. -/
def arrivedIn (mode : Bool) : Bool → List Event → List UInt8
  | _, [] => []
  | on, chunk bytes :: rest => (if on = mode then bytes else []) ++ arrivedIn mode on rest
  | _, lines on :: rest => arrivedIn mode on rest

/-- Each byte arrives in one mode or the other. -/
theorem perm_arrivedIn (on : Bool) (events : List Event) :
    (arrivedIn false on events ++ arrivedIn true on events).Perm (arrived events) := by
  induction events generalizing on with
  | nil => exact List.Perm.nil
  | cons e rest ih =>
    cases e with
    | lines mode => exact ih mode
    | chunk bytes =>
      show List.Perm _ (bytes ++ arrived rest)
      cases on with
      | false => simpa [arrivedIn, List.append_assoc] using (ih false).append_left bytes
      | true =>
        simp only [arrivedIn, Bool.true_eq_false, if_false, if_true, List.nil_append]
        refine List.Perm.trans ?_ ((ih true).append_left bytes)
        rw [← List.append_assoc, ← List.append_assoc]
        exact List.perm_append_comm.append_right _

end Event

/-- The session after an event. What becomes of the echo makes no difference. -/
def after (s : Session) : Event → Session
  | .chunk bytes => (s.process bytes).1
  | .lines on => { s with attributes := s.attributes.setFlag .icanon on }

/-- **The session after some events**, one after another. -/
def play (s : Session) (events : List Event) : Session := events.foldl after s

/-- Whether input comes in lines. -/
def inLines (s : Session) : Bool := s.attributes.flag .icanon

/-- The line that is being collected. -/
def line (s : Session) : List UInt8 := s.discipline.state.line

/-- The queue its reader reads. -/
def queue (s : Session) : Queue := s.discipline.queue

/-- Whether some bytes have no meaning of their own, and count with all their bits. -/
structure Plain (s : Session) (bytes : List UInt8) : Prop where
  plain : ∀ b ∈ bytes, s.attributes.Plain b
  unstripped : s.attributes.flag .istrip = false

theorem Plain.lines {s : Session} {bytes : List UInt8} (h : s.Plain bytes) (on : Bool) :
    (s.after (.lines on)).Plain bytes :=
  ⟨fun b hb => ⟨(h.plain b hb).ne_return, (h.plain b hb).ne_feed, (h.plain b hb).isChar⟩,
    by simpa [after] using h.unstripped⟩

theorem Plain.chunk {s : Session} {bytes : List UInt8} (h : s.Plain bytes) (content : List UInt8) :
    (s.after (.chunk content)).Plain bytes :=
  ⟨h.plain, h.unstripped⟩

/-- **A plain chunk** joins the line in lines, and goes to the queue otherwise. -/
theorem chunk_of_plain {s : Session} {bytes : List UInt8} (h : s.Plain bytes) :
    (s.after (.chunk bytes)).line = s.line ++ (if s.inLines then bytes else [])
      ∧ (s.after (.chunk bytes)).queue.stream
          = s.queue.stream ++ s.queue.admitted (if s.inLines then [] else bytes)
      ∧ (s.after (.chunk bytes)).queue.frame = s.queue.frame := by
  obtain ⟨hline, hinput, hsignals⟩ :=
    Discipline.run_of_plain bytes h.plain h.unstripped s.discipline.state
  have hview := Discipline.view_process_of_signals_eq_nil hsignals
  refine ⟨?_, ?_, congrArg Discipline.View.frame hview⟩
  · exact (congrArg (fun v => v.state.line) hview).trans hline
  · refine (congrArg Discipline.View.stream hview).trans ?_
    show _ ++ s.queue.frame.admitted _ = _
    rw [hinput]
    rfl

/-- **What the reader gets by the end of input**: the bytes that arrived outside lines,
the line begun before, and the bytes that arrived in lines. -/
theorem stream_endOfInput_play (events : List Event) (s : Session)
    (h : s.Plain (Event.arrived events)) :
    (s.play events).endOfInput.queue.stream
      = s.queue.stream ++ s.queue.admitted (Event.arrivedIn false s.inLines events ++ s.line
          ++ Event.arrivedIn true s.inLines events) ++ s.queue.ending := by
  induction events generalizing s with
  | nil =>
    show (s.queue.write s.line).close.stream = _ ++ s.queue.admitted ([] ++ s.line ++ []) ++ _
    rw [Queue.stream_close, Queue.stream_write, Queue.ending_of_frame (Queue.frame_write ..),
      List.nil_append, List.append_nil]
  | cons e rest ih =>
    have hrest : s.Plain (Event.arrived rest) :=
      ⟨fun b hb => h.plain b (List.mem_append_right _ hb), h.unstripped⟩
    cases e with
    | lines on =>
      have hlines : (s.after (.lines on)).inLines = on := by simp [after, inLines]
      have hih := ih (s.after (.lines on)) (hrest.lines on)
      rw [hlines] at hih
      exact hih
    | chunk bytes =>
      have hbytes : s.Plain bytes :=
        ⟨fun b hb => h.plain b (List.mem_append_left _ hb), h.unstripped⟩
      obtain ⟨hline, hstream, hframe⟩ := chunk_of_plain hbytes
      have hlines : (s.after (.chunk bytes)).inLines = s.inLines := rfl
      have hih := ih (s.after (.chunk bytes)) (hrest.chunk bytes)
      rw [hlines, hline, hstream, Queue.admitted_of_frame hframe, Queue.ending_of_frame hframe,
        List.append_assoc s.queue.stream, ← Queue.admitted_append] at hih
      refine hih.trans ?_
      -- in lines the chunk stands behind the line begun before, otherwise in front of it
      cases s.inLines <;> simp [Event.arrivedIn]

/-- **When switching modes keeps the order.** For input that has no meaning of its own, a
queue with a reader gets each byte that arrives once, by the end of input. It gets them in
the order in which they arrived exactly when those that arrived outside lines, the line
begun before, and those that arrived in lines, one after the other, spell that order. -/
theorem play_keeps_order_iff (s : Session) (events : List Event)
    (h : s.Plain (Event.arrived events)) (hreader : s.queue.attended = true) :
    ((s.play events).endOfInput.queue.stream
        = s.queue.stream ++ (s.line ++ Event.arrived events).map some ++ [none]
      ↔ Event.arrivedIn false s.inLines events ++ s.line ++ Event.arrivedIn true s.inLines events
        = s.line ++ Event.arrived events)
    ∧ ∃ delivered : List UInt8, delivered.Perm (s.line ++ Event.arrived events)
        ∧ (s.play events).endOfInput.queue.stream
          = s.queue.stream ++ delivered.map some ++ [none] := by
  have hadmitted : ∀ bytes, s.queue.admitted bytes = bytes.map some := by
    intro bytes
    rw [Queue.admitted, if_pos hreader]
  have hstream := stream_endOfInput_play events s h
  rw [hadmitted, Queue.ending, if_pos hreader] at hstream
  rw [hstream]
  refine ⟨?_, _, ?_, rfl⟩
  · rw [List.append_cancel_right_eq, List.append_cancel_left_eq]
    exact List.map_inj_right fun _ _ => Option.some.inj
  · rw [List.append_assoc]
    refine (List.perm_append_comm_assoc ..).trans ?_
    exact (Event.perm_arrivedIn s.inLines events).append_left s.line

/-- Letters are plain on a fresh terminal. -/
theorem plain_usual : ({ attributes := .usual } : Session).Plain [0x61, 0x62] := by
  refine ⟨?_, rfl⟩
  simp only [List.forall_mem_cons, List.not_mem_nil, false_imp_iff, forall_const, and_true]
  exact ⟨⟨by decide, by decide, fun c => by cases c <;> decide⟩,
    ⟨by decide, by decide, fun c => by cases c <;> decide⟩⟩

/-- A line begun after a byte outside lines stays behind it, also when the mode is left
again: the order is kept. -/
theorem play_keeps_order_rawFirst :
    let s : Session := { attributes := .usual }
    let events : List Event :=
      [.lines false, .chunk [0x61], .lines true, .chunk [0x62], .lines false]
    s.Plain (Event.arrived events) ∧ s.queue.attended = true
      ∧ (s.play events).endOfInput.queue.stream = [some 0x61, some 0x62, none] := by
  intro s events
  exact ⟨plain_usual, rfl, (play_keeps_order_iff s events plain_usual rfl).1.2 rfl⟩

/-- A byte outside lines goes past a line that has been begun. -/
theorem play_overtakes_line :
    ¬ ∀ (s : Session) (events : List Event), s.Plain (Event.arrived events) →
      s.queue.attended = true → (s.play events).endOfInput.queue.stream
        = s.queue.stream ++ (s.line ++ Event.arrived events).map some ++ [none] := by
  intro hall
  have hstream := hall { attributes := .usual } [.chunk [0x61], .lines false, .chunk [0x62]]
    plain_usual rfl
  exact absurd hstream (by decide)

end Session

end Teletype
