import Teletype.PolledReader
import Teletype.Proofs.Queue.Alike

/-!
# A queue and a polled pipe

Two readers can stand behind one writer. One takes packets out of a queue and remembers
that it has come upon the end. The other asks a pipe whether there is anything to read,
takes as much as it may, and comes upon the end anew each time.

What both make of their input is the same: there are bytes in order that have not been
read yet, and there either may be more or not (`Inflow`). A read finds the first of the
bytes, or the end, or nothing yet. That a polled pipe is an inflow is seen at once, since
nothing stands between its bytes (`PolledReader.inflow_exchange`). A queue is one as long
as no byte is behind an end in it (`Queue.Tidy`), and that stays so when nothing is
written after the end of writing (`Queue.Tidy.exchange`).

So the two readers find the same, byte by byte (`findings_queue_eq_findings_pipe`).
-/

namespace Teletype

/-! ## One writer and one reader -/

/-- **What passes between a writer and a reader.** -/
inductive Exchange where
  /-- Bytes are written. -/
  | write (content : List UInt8)
  /-- Writing ends. -/
  | finish
  /-- The next byte is read, if there is one by now. -/
  | read
  /-- The next byte is looked at, if there is one by now. -/
  | peek
  deriving DecidableEq

namespace Exchange

/-- Whether something is written. -/
def writes : Exchange → Bool
  | write _ => true
  | _ => false

/-- **Nothing is written after the end of writing.** -/
def Orderly (steps : List Exchange) : Prop :=
  steps.Pairwise fun e later => e = .finish → later.writes = false

instance (steps : List Exchange) : Decidable (Orderly steps) :=
  inferInstanceAs (Decidable (List.Pairwise _ _))

/-- **What a reader finds** in some steps, one reading for each of its reads and looks. -/
def findings {σ : Type} (step : σ → Exchange → Option Reading × σ) (s : σ) :
    List Exchange → List Reading
  | [] => []
  | e :: rest => (step s e).1.toList ++ findings step (step s e).2 rest

end Exchange

/-- **What is on its way to a reader.** -/
@[ext] structure Inflow where
  /-- The bytes written and not read yet, in order. -/
  bytes : List UInt8 := []
  /-- Whether writing has ended. -/
  finished : Bool := false

namespace Inflow

/-- What a read finds. -/
def front (i : Inflow) : Reading :=
  match i.bytes with
  | b :: _ => .byte b
  | [] => if i.finished then .eof else .expired

/-- What a step answers, and the inflow after it. -/
def exchange (i : Inflow) : Exchange → Option Reading × Inflow
  | .write content => (none, { i with bytes := i.bytes ++ content })
  | .finish => (none, { i with finished := true })
  | .read => (some i.front, { i with bytes := i.bytes.tail })
  | .peek => (some i.front, i)

/-- Writing has ended when it had before, or ends now. -/
theorem finished_exchange (i : Inflow) (e : Exchange) :
    (i.exchange e).2.finished = true ↔ i.finished = true ∨ e = .finish := by
  cases e <;> simp [exchange]

end Inflow

open Exchange

/-! ## The polled pipe -/

namespace PolledReader

/-- A step between a writer and a reader that polls a pipe. -/
def exchange (s : PolledReader × Pipe) : Exchange → Option Reading × (PolledReader × Pipe)
  | .write content => (none, s.1, s.2.write content)
  | .finish => (none, s.1, s.2.hangUp)
  | .read => (some (s.1.next s.2 false).1, (s.1.next s.2 false).2)
  | .peek => (some (s.1.next s.2 true).1, (s.1.next s.2 true).2)

/-- What is on its way: what the reader holds and what is in the pipe. -/
def inflow (s : PolledReader × Pipe) : Inflow := ⟨s.1.pending ++ s.2.content, s.2.hungUp⟩

/-- **A read of a pipe finds what is in front**, however much it takes in one go. -/
theorem next_pipe {r : PolledReader} (h : r.closed = false) (p : Pipe) (peek : Bool) :
    (r.next p peek).1 = (inflow (r, p)).front
      ∧ (r.next p peek).2.1.closed = false
      ∧ inflow (r.next p peek).2 = { inflow (r, p) with
          bytes := if peek then (inflow (r, p)).bytes else (inflow (r, p)).bytes.tail } := by
  obtain ⟨pending, closed⟩ := r
  obtain ⟨content, hungUp⟩ := p
  cases h
  -- only when nothing is pending the pipe is asked, and only when it has something, read
  cases pending with
  | cons b rest => cases peek <;> exact ⟨rfl, rfl, rfl⟩
  | nil =>
    cases content with
    | nil => cases hungUp <;> cases peek <;> exact ⟨rfl, rfl, rfl⟩
    | cons b rest =>
      have htaken : rest.take (chunk - 1) ++ rest.drop (chunk - 1) = rest :=
        List.take_append_drop ..
      cases peek with
      | false => exact ⟨rfl, rfl, Inflow.ext htaken rfl⟩
      | true => exact ⟨rfl, rfl, Inflow.ext (congrArg (b :: ·) htaken) rfl⟩

/-- **A polled pipe is an inflow**, until its reader is told to stop. -/
theorem inflow_exchange {s : PolledReader × Pipe} (h : s.1.closed = false) (e : Exchange) :
    (exchange s e).1 = ((inflow s).exchange e).1
      ∧ (exchange s e).2.1.closed = false
      ∧ inflow (exchange s e).2 = ((inflow s).exchange e).2 := by
  cases e with
  | write content => exact ⟨rfl, h, Inflow.ext (List.append_assoc ..).symm rfl⟩
  | finish => exact ⟨rfl, h, rfl⟩
  | read =>
    obtain ⟨hfront, hclosed, hinflow⟩ := next_pipe h s.2 false
    exact ⟨congrArg some hfront, hclosed, hinflow⟩
  | peek =>
    obtain ⟨hfront, hclosed, hinflow⟩ := next_pipe h s.2 true
    exact ⟨congrArg some hfront, hclosed, hinflow⟩

theorem findings_eq (steps : List Exchange) {s : PolledReader × Pipe} (h : s.1.closed = false) :
    findings exchange s steps = findings Inflow.exchange (inflow s) steps := by
  induction steps generalizing s with
  | nil => rfl
  | cons e rest ih =>
    obtain ⟨hanswer, hclosed, hinflow⟩ := inflow_exchange h e
    rw [findings, findings, hanswer, ih hclosed, hinflow]

end PolledReader

/-! ## The queue -/

namespace Queue

/-- A step between a writer and the reader of a queue. -/
def exchange (q : Queue) : Exchange → Option Reading × Queue
  | .write content => (none, q.write content)
  | .finish => (none, q.close)
  | .read => (some q.read.1, q.read.2)
  | .peek => (some q.peek.1, q.peek.2)

/-- What is on its way: the bytes, and whether there is an end, met or not. -/
def inflow (q : Queue) : Inflow := ⟨q.bytes, q.ended || q.units.contains none⟩

/-- **A queue between one writer and its reader**: both are there, and no byte is behind
an end. -/
structure Tidy (q : Queue) : Prop where
  /-- The reader is there. -/
  attended : q.attended = true
  /-- Not every writer is gone. -/
  written : q.writers.all (!·) = false
  /-- All bytes are in front of the first end, -/
  front : beforeEnd q.units = q.bytes
  /-- and there are none any more when an end has been met. -/
  met : q.ended = true → q.bytes = []

/-- At first nothing is on its way. -/
theorem tidy_new : Tidy {} := ⟨rfl, rfl, rfl, fun _ => rfl⟩

section

variable {q p : Queue}

theorem finished_inflow_iff : q.inflow.finished = true ↔ q.ended = true ∨ none ∈ q.units := by
  simp [inflow]

/-- In a queue without bytes there are none in front of an end. -/
theorem beforeEnd_of_bytes_eq_nil (h : q.bytes = []) : beforeEnd q.units = [] := by
  have hprefix := beforeEnd_isPrefix q.units
  rwa [reduceOption_units_eq, h, List.prefix_nil] at hprefix

namespace Tidy

/-- **Making a queue ready for a read changes nothing about what is on its way.** -/
theorem ready (h : q.Tidy) : q.ready.Tidy ∧ q.ready.inflow = q.inflow := by
  have hwritten : q.ready.writers.all (!·) = false := by rw [ready_writers, h.written]
  have hattended : q.ready.attended = true := by rw [ready_attended, h.attended]
  have hbytes : q.ready.bytes = q.bytes := q.bytes_ready
  cases hready : q.ready.ended with
  | false =>
    have hended : q.ended = false := ended_of_ready hready
    have hunits : q.ready.units = q.units := units_ready hready
    refine ⟨⟨hattended, hwritten, ?_, fun hmet => ?_⟩, ?_⟩
    · rw [hunits, hbytes, h.front]
    · exact absurd (hready.symm.trans hmet) Bool.false_ne_true
    · rw [inflow, inflow, hbytes, hunits, hready, hended]
  | true =>
    -- an end was met before, or it is met now because no byte is in front of it
    have hnone : q.bytes = [] ∧ q.inflow.finished = true := by
      cases hended : q.ended with
      | true => exact ⟨h.met hended, finished_inflow_iff.2 (.inl hended)⟩
      | false =>
        obtain ⟨hfront, hend⟩ := (ended_ready_iff hended).1 hready
        rw [h.written] at hend
        exact ⟨h.front.symm.trans hfront,
          finished_inflow_iff.2 (.inr (hend.resolve_right Bool.false_ne_true))⟩
    have hnil : q.ready.bytes = [] := hbytes.trans hnone.1
    refine ⟨⟨hattended, hwritten, ?_, fun _ => hnil⟩, Inflow.ext hbytes ?_⟩
    · rw [beforeEnd_of_bytes_eq_nil hnil, hnil]
    · rw [hnone.2]
      exact finished_inflow_iff.2 (.inl hready)

/-- **What is pending in a queue made ready begins like what is on its way.** -/
theorem head?_pending_ready (h : q.Tidy) : q.ready.pending.head? = q.bytes.head? := by
  cases hready : q.ready.ended with
  | false => rw [Queue.head?_pending_ready hready, h.ready.1.front, bytes_ready]
  | true =>
    have hnil := h.ready.1.met hready
    rw [← bytes_ready, hnil, (List.append_eq_nil_iff.1 hnil).1]

/-- When nothing is pending in a queue made ready, nothing is on its way. -/
theorem bytes_eq_nil (h : q.Tidy) (hpending : q.ready.pending = []) : q.bytes = [] := by
  have hhead := h.head?_pending_ready
  rw [hpending] at hhead
  exact List.head?_eq_none_iff.1 hhead.symm

/-- **A read finds what is in front.** -/
theorem front_ready (h : q.Tidy) : q.ready.front = q.inflow.front := by
  cases hpending : q.ready.pending with
  | cons b rest =>
    have hhead := h.head?_pending_ready
    rw [hpending] at hhead
    obtain ⟨more, hbytes⟩ := List.head?_eq_some_iff.1 hhead.symm
    rw [front_eq_byte_iff.2 (by rw [hpending]; rfl), Inflow.front, inflow, hbytes]
  | nil =>
    have hbytes := h.bytes_eq_nil hpending
    rw [Queue.front, hpending, Inflow.front, inflow, hbytes]
    -- an end in a queue made ready that has no bytes has been met
    cases hready : q.ready.ended with
    | true =>
      have hfinished := finished_inflow_iff.2 (.inl hready)
      rw [h.ready.2] at hfinished
      exact (if_pos hfinished).symm
    | false =>
      have hfinished : q.inflow.finished = false := Bool.eq_false_iff.2 fun hfinished => by
        have hmem := (finished_inflow_iff.1 hfinished).resolve_left
          (Bool.eq_false_iff.1 (ended_of_ready hready))
        have hmet := (ended_ready_iff (ended_of_ready hready)).2
          ⟨beforeEnd_of_bytes_eq_nil hbytes, .inl hmem⟩
        exact absurd (hready.symm.trans hmet) Bool.false_ne_true
      exact (if_neg (Bool.eq_false_iff.1 hfinished)).symm

/-- **A byte read** is no longer on its way. -/
theorem read (h : q.Tidy) :
    q.read.2.Tidy ∧ q.read.2.inflow = { q.inflow with bytes := q.inflow.bytes.tail } := by
  obtain ⟨htidy, hinflow⟩ := h.ready
  rw [← hinflow, Queue.read]
  cases hpending : q.ready.pending with
  | nil =>
    have hsame : ({ q.ready with pending := [] } : Queue) = q.ready := by rw [← hpending]
    have hbytes : q.ready.bytes = [] := (bytes_ready q).trans (h.bytes_eq_nil hpending)
    rw [List.tail_nil, hsame, inflow, hbytes]
    exact ⟨htidy, rfl⟩
  | cons b rest =>
    have hunits : q.ready.units = some b :: ((rest.map some) ++ q.ready.stream) := by
      rw [units, hpending]
      rfl
    have hbytes : q.ready.bytes = b :: (rest ++ q.ready.stream.reduceOption) := by
      rw [Queue.bytes, hpending]
      rfl
    have hended : q.ready.ended = false := Bool.eq_false_iff.2 fun hmet =>
      List.cons_ne_nil _ _ (hbytes.symm.trans (htidy.met hmet))
    refine ⟨⟨htidy.attended, htidy.written, ?_, fun hmet => ?_⟩, Inflow.ext ?_ ?_⟩
    · have hfront := htidy.front
      rw [hunits, hbytes] at hfront
      exact (List.cons.inj hfront).2
    · exact absurd (hended.symm.trans hmet) Bool.false_ne_true
    · show rest ++ q.ready.stream.reduceOption = q.ready.bytes.tail
      rw [hbytes]
      rfl
    · show (q.ready.ended || (rest.map some ++ q.ready.stream).contains none)
        = (q.ready.ended || q.ready.units.contains none)
      rw [hunits, List.contains_cons]
      rfl

/-- **What is sent** is on its way behind the rest: bytes while writing goes on, or an
end. -/
theorem send (h : q.Tidy) {more : List (Option UInt8)} (hframe : p.frame = q.frame)
    (hstream : p.stream = q.stream ++ more)
    (hmore : q.inflow.finished = true → more.reduceOption = [])
    (hsealed : beforeEnd more = more.reduceOption) :
    p.Tidy ∧ p.inflow
      = ⟨q.inflow.bytes ++ more.reduceOption, q.inflow.finished || more.contains none⟩ := by
  have hended := ended_of_frame hframe
  have hunits := units_of_stream hframe hstream
  have hbytes := bytes_of_stream hframe hstream
  refine ⟨⟨?_, ?_, ?_, fun hmet => ?_⟩, Inflow.ext hbytes ?_⟩
  · rw [attended_of_frame hframe, h.attended]
  · rw [writers_of_frame hframe, h.written]
  · rw [hunits, hbytes]
    by_cases hmem : none ∈ q.units
    · rw [beforeEnd_append hmem, hmore (finished_inflow_iff.2 (.inr hmem)), List.append_nil,
        h.front]
    · rw [beforeEnd_append_of_not_mem hmem, h.front, hsealed]
  · rw [hended] at hmet
    rw [hbytes, h.met hmet, hmore (finished_inflow_iff.2 (.inl hmet)), List.append_nil]
  · show (p.ended || p.units.contains none) = (q.ended || q.units.contains none || _)
    rw [hended, hunits, List.contains_append, Bool.or_assoc]

/-- **A queue is an inflow** as long as nothing is written after the end of writing. -/
theorem exchange (h : q.Tidy) {e : Exchange} (he : q.inflow.finished = true → e.writes = false) :
    (q.exchange e).1 = (q.inflow.exchange e).1
      ∧ (q.exchange e).2.Tidy
      ∧ (q.exchange e).2.inflow = (q.inflow.exchange e).2 := by
  cases e with
  | write content =>
    have hstream := q.stream_write content
    rw [admitted, if_pos h.attended] at hstream
    have hmap : (content.map some).reduceOption = content := reduceOption_map_some content
    have hnone : none ∉ content.map some := by simp
    obtain ⟨htidy, hinflow⟩ := h.send (q.frame_write content) hstream
      (fun hfinished => absurd (he hfinished).symm Bool.false_ne_true) (beforeEnd_of_not_mem hnone)
    refine ⟨rfl, htidy, hinflow.trans (Inflow.ext (congrArg (_ ++ ·) hmap) ?_)⟩
    show (q.inflow.finished || (content.map some).contains none) = q.inflow.finished
    rw [Bool.eq_false_iff.2 (List.contains_iff_mem.not.2 hnone), Bool.or_false]
  | finish =>
    have hstream := q.stream_close
    rw [ending, if_pos h.attended] at hstream
    obtain ⟨htidy, hinflow⟩ := h.send q.frame_close hstream (fun _ => rfl) rfl
    exact ⟨rfl, htidy, hinflow.trans (Inflow.ext (List.append_nil _) (Bool.or_true _))⟩
  | read =>
    obtain ⟨htidy, hinflow⟩ := h.read
    exact ⟨congrArg some h.front_ready, htidy, hinflow⟩
  | peek =>
    obtain ⟨htidy, hinflow⟩ := h.ready
    exact ⟨congrArg some h.front_ready, htidy, hinflow⟩

/-- **So is its whole run.** -/
theorem findings_eq {steps : List Exchange} (horder : Orderly steps) (h : q.Tidy)
    (hfinished : q.inflow.finished = true → ∀ e ∈ steps, e.writes = false) :
    findings Queue.exchange q steps = findings Inflow.exchange q.inflow steps := by
  induction steps generalizing q with
  | nil => rfl
  | cons e rest ih =>
    obtain ⟨hlater, hrest⟩ := List.pairwise_cons.1 horder
    obtain ⟨hanswer, htidy, hinflow⟩ :=
      h.exchange fun h => hfinished h e List.mem_cons_self
    rw [findings, findings, hanswer, ← hinflow]
    refine congrArg (_ ++ ·) (ih hrest htidy fun hfinished' => ?_)
    rw [hinflow, Inflow.finished_exchange] at hfinished'
    rcases hfinished' with hbefore | hfinish
    · exact fun later hmem => hfinished hbefore later (List.mem_cons_of_mem e hmem)
    · exact fun later hmem => hlater later hmem hfinish

end Tidy

end

end Queue

/-! ## Both -/

/-- **A queue and a polled pipe are read alike.** Whatever is written, read and looked at,
and whether or not writing ends, a reader of a queue with one writer and a reader that polls
a pipe find the same at each read and at each look, if nothing is written after the end. -/
theorem findings_queue_eq_findings_pipe (steps : List Exchange) (h : Orderly steps) :
    findings Queue.exchange {} steps = findings PolledReader.exchange ({}, {}) steps := by
  have hqueue : findings Queue.exchange {} steps = findings Inflow.exchange {} steps :=
    Queue.tidy_new.findings_eq h fun hfinished => absurd hfinished (by decide)
  have hpipe : findings PolledReader.exchange ({}, {}) steps = findings Inflow.exchange {} steps :=
    PolledReader.findings_eq steps rfl
  rw [hqueue, hpipe]

/-- Nothing yet, a byte looked at and read, the byte behind it, and the end for good. -/
theorem findings_queue_eq_findings_pipe_ended :
    let steps : List Exchange := [.read, .write [0x61], .peek, .write [], .read, .write [0x62],
      .finish, .read, .peek, .read, .finish, .read]
    Orderly steps
      ∧ findings Queue.exchange {} steps = findings PolledReader.exchange ({}, {}) steps
      ∧ findings Queue.exchange {} steps
        = [.expired, .byte 0x61, .byte 0x61, .byte 0x62, .eof, .eof, .eof] := by
  intro steps
  have h : Orderly steps := by decide
  exact ⟨h, findings_queue_eq_findings_pipe steps h, by decide⟩

end Teletype
