import Teletype.Discipline.Basic
import Teletype.Proofs.Queue.Stream

/-!
# What a chunk of input brings about

The discipline takes its input in chunks and hands on what they bring about in
batches: bytes to the queue, packet by packet, and echo to the sink, write by
write. Where the input was cut into chunks, and where signals ended batches, is
visible in the packets and the writes, but nobody looks there. A reader of the
queue sees one stream of bytes and ends of input, whoever watches the sink sees
one sequence of bytes, and the signals that wait are one list.

`Discipline.run` is what remains of the discipline when packets and writes are
left out: a fold of `Discipline.step` over the bytes that collects the bytes for
the reader, the echo and the signals. `Discipline.view` is what remains of its
surroundings, and `Discipline.echoed?` of its sink. One lemma relates the two:
processing a chunk adds to the view what the run brings about, as long as no echo
in front of a signal is refused (`view_processFrom`). A second one does so for the
sink, when it refuses nothing (`NeverRefuses.processFrom`).

A run over some bytes and then others is one run over all of them, since all that
crosses the cut is in the state. So it makes no difference where the input is cut
(`process_append`).
-/

namespace Teletype

namespace Discipline

/-! ## The run over a chunk -/

/-- **What some bytes bring about** altogether. -/
@[ext] structure Outcome where
  /-- The bytes for the reader. -/
  input : List UInt8 := []
  /-- The bytes that are echoed. -/
  echo : List UInt8 := []
  /-- The signals, in the order in which they come. -/
  signals : List Signal := []

namespace Outcome

/-- One thing brought about after another. -/
instance : Append Outcome :=
  ⟨fun o p => ⟨o.input ++ p.input, o.echo ++ p.echo, o.signals ++ p.signals⟩⟩

@[simp] theorem input_append (o p : Outcome) : (o ++ p).input = o.input ++ p.input := rfl

@[simp] theorem echo_append (o p : Outcome) : (o ++ p).echo = o.echo ++ p.echo := rfl

@[simp] theorem signals_append (o p : Outcome) : (o ++ p).signals = o.signals ++ p.signals := rfl

theorem append_assoc (o p r : Outcome) : o ++ p ++ r = o ++ (p ++ r) := by
  ext1 <;> simp

@[simp] theorem nil_append (o : Outcome) : ({} : Outcome) ++ o = o := by
  ext1 <;> simp

@[simp] theorem append_nil (o : Outcome) : o ++ ({} : Outcome) = o := by
  ext1 <;> simp

end Outcome

/-- What a byte brings about, as an outcome. -/
def Effect.outcome (e : Effect) : Outcome := ⟨e.input, e.echo, e.signal.toList⟩

/-- What a batch holds, as an outcome. -/
def Batch.outcome (b : Batch) : Outcome := ⟨b.input, b.echo, []⟩

/-- **The run over some bytes**: the state it leaves, and what it brings about. -/
def run (a : Attributes) (s : State) : List UInt8 → State × Outcome
  | [] => (s, {})
  | b :: rest =>
    let (s, effect) := step a s b
    let (s, outcome) := run a s rest
    (s, effect.outcome ++ outcome)

theorem run_cons (a : Attributes) (s : State) (b : UInt8) (rest : List UInt8) :
    run a s (b :: rest)
      = ((run a (step a s b).1 rest).1,
          (step a s b).2.outcome ++ (run a (step a s b).1 rest).2) := rfl

/-- **A run over some bytes and then others** is one run over all of them. -/
theorem run_append (a : Attributes) (s : State) (xs ys : List UInt8) :
    run a s (xs ++ ys)
      = ((run a (run a s xs).1 ys).1, (run a s xs).2 ++ (run a (run a s xs).1 ys).2) := by
  induction xs generalizing s with
  | nil => simp only [List.nil_append, run, Outcome.nil_append]
  | cons b xs ih => simp only [List.cons_append, run, ih, Outcome.append_assoc]

/-! ## What can be seen of a discipline -/

/-- **What can be seen of a discipline** apart from its echo. -/
@[ext] structure View where
  /-- What it remembers. -/
  state : State
  /-- The signals that wait. -/
  pending : List Signal
  /-- What its queue holds for the reader. -/
  stream : List (Option UInt8)
  /-- The queue otherwise. -/
  frame : Queue
  deriving DecidableEq

/-- The view of a discipline. -/
def view (d : Discipline) : View := ⟨d.state, d.pending, d.queue.stream, d.queue.frame⟩

/-- What has been echoed, if there is anywhere to echo. -/
def echoed? (d : Discipline) : Option (List UInt8) := d.echo.map Sink.taken

/-- **The view after something has been brought about**, the state being `s` then. -/
def View.after (v : View) (s : State) (o : Outcome) : View where
  state := s
  pending := v.pending ++ o.signals
  stream := v.stream ++ v.frame.admitted o.input
  frame := v.frame

theorem View.after_after (v : View) (s t : State) (o p : Outcome) :
    (v.after s o).after t p = v.after t (o ++ p) := by
  ext1
  · rfl
  · exact List.append_assoc ..
  · simp only [after, Outcome.input_append, Queue.admitted_append, List.append_assoc]
  · rfl

/-- When nothing is brought about, the view stays. -/
theorem View.after_nothing (v : View) : v.after v.state {} = v := by
  ext1
  · rfl
  · exact List.append_nil _
  · show v.stream ++ v.frame.admitted [] = v.stream
    rw [Queue.admitted_nil, List.append_nil]
  · rfl

/-- The state before does not show in the view after. -/
theorem View.after_of_state (d : Discipline) (r s : State) (o : Outcome) :
    ({ d with state := r } : Discipline).view.after s o = d.view.after s o := rfl

end Discipline

/-! ## Which echo is refused -/

namespace Sink

/-- **Whether a sink takes some writes**, one after another. Nothing is not
written, and so not refused. -/
def takesAll (s : Sink) : List (List UInt8) → Bool
  | [] => true
  | w :: ws =>
    if w.isEmpty then s.takesAll ws
    else !s.refuses s.attempts (s.taken.length + w.length) && (s.write w).1.takesAll ws

/-- The first of some writes is taken when its answer says so. -/
theorem takesAll_cons {s : Sink} {w : List UInt8} (hw : w ≠ []) (ws : List (List UInt8)) :
    s.takesAll (w :: ws) = ((s.write w).2.isOk && (s.write w).1.takesAll ws) := by
  have hempty : ¬ w.isEmpty = true := by rwa [List.isEmpty_iff]
  rw [takesAll, if_neg hempty]
  unfold write
  by_cases h : s.refuses s.attempts (s.taken.length + w.length) = true
  · rw [h, if_pos rfl]
    rfl
  · rw [if_neg h, Bool.of_not_eq_true h]
    rfl

/-- A sink that refuses nothing takes every write. -/
theorem takesAll_of_forall_refuses (ws : List (List UInt8)) (s : Sink)
    (h : ∀ n total, s.refuses n total = false) : s.takesAll ws = true := by
  induction ws generalizing s with
  | nil => rfl
  | cons w ws ih =>
    unfold takesAll
    split
    · exact ih s h
    · rw [h, Bool.not_false, Bool.true_and]
      exact ih _ (by simpa only [refuses_write] using h)

end Sink

namespace Discipline

/-- Whether the echo is taken, if there is anywhere to echo. -/
def takes (echo : Option Sink) (ws : List (List UInt8)) : Bool := echo.all (·.takesAll ws)

/-- **The echo in front of signals.** The writes that are made because a batch
ends at a signal, behind some echo that has not been written yet. -/
def signalEchoes (a : Attributes) (s : State) (echo : List UInt8) :
    List UInt8 → List (List UInt8)
  | [] => []
  | b :: rest =>
    let (s, effect) := step a s b
    let echo := echo ++ effect.echo
    match effect.signal with
    | none => signalEchoes a s echo rest
    | some _ => echo :: signalEchoes a s [] rest

/-- **Echo that never fails**: there is none, or its sink refuses nothing. -/
def NeverRefuses (d : Discipline) : Prop := ∀ s ∈ d.echo, ∀ n total, s.refuses n total = false

theorem NeverRefuses.takes {d : Discipline} (h : d.NeverRefuses) (ws : List (List UInt8)) :
    takes d.echo ws = true := by
  unfold Discipline.takes
  cases hd : d.echo with
  | none => rfl
  | some s => exact s.takesAll_of_forall_refuses ws (h s hd)

/-! ## One batch -/

/-- With nothing to echo, or nowhere, there is no write. -/
theorem writeEcho_of_idle {d : Discipline} {bytes : List UInt8}
    (h : d.echo = none ∨ bytes = []) : d.writeEcho bytes = (d, .ok ()) := by
  unfold writeEcho
  cases hd : d.echo with
  | none => rfl
  | some s =>
    have hbytes : bytes = [] := h.resolve_left (by rw [hd]; exact Option.some_ne_none s)
    rw [hbytes]
    rfl

/-- Otherwise there is one, and the answer is the sink's. -/
theorem writeEcho_of_some {d : Discipline} {s : Sink} {bytes : List UInt8} (h : d.echo = some s)
    (hbytes : bytes ≠ []) :
    d.writeEcho bytes = ({ d with echo := some (s.write bytes).1 }, (s.write bytes).2) := by
  unfold writeEcho
  rw [h]
  show (if bytes.isEmpty then _ else _) = _
  rw [if_neg (by rwa [List.isEmpty_iff])]

/-- An echo is written or is not. -/
theorem idle_or_some (d : Discipline) (bytes : List UInt8) :
    (d.echo = none ∨ bytes = []) ∨ ∃ s, d.echo = some s ∧ bytes ≠ [] := by
  by_cases hbytes : bytes = []
  · exact .inl (.inr hbytes)
  · cases hd : d.echo with
    | none => exact .inl (.inl rfl)
    | some s => exact .inr ⟨s, rfl, hbytes⟩

/-- A delivery is a write to the sink and one to the queue. -/
theorem deliver_eq (d : Discipline) (b : Batch) :
    d.deliver b = ({ (d.writeEcho b.echo).1 with
      queue := (d.writeEcho b.echo).1.queue.write b.input }, (d.writeEcho b.echo).2) := rfl

/-- Writing an echo touches nothing but the sink. -/
theorem writeEcho_frame (d : Discipline) (bytes : List UInt8) :
    ∃ echo, (d.writeEcho bytes).1 = { d with echo } := by
  rcases d.idle_or_some bytes with hidle | ⟨s, hs, hbytes⟩
  · exact ⟨d.echo, by rw [writeEcho_of_idle hidle]⟩
  · exact ⟨some (s.write bytes).1, by rw [writeEcho_of_some hs hbytes]⟩

/-- **Delivering adds to the view what the batch holds**, whether or not its echo
is refused. -/
theorem view_deliver (d : Discipline) (b : Batch) :
    (d.deliver b).1.view = d.view.after d.state b.outcome := by
  obtain ⟨echo, hecho⟩ := d.writeEcho_frame b.echo
  rw [deliver_eq, hecho]
  ext1
  · rfl
  · exact (List.append_nil _).symm
  · exact Queue.stream_write d.queue b.input
  · exact Queue.frame_write d.queue b.input

@[simp] theorem state_deliver (d : Discipline) (b : Batch) :
    (d.deliver b).1.state = d.state :=
  congrArg View.state (view_deliver d b)

/-- **What a delivery answers** is whether its echo was taken. -/
theorem takes_deliver (d : Discipline) (b : Batch) (ws : List (List UInt8)) :
    takes d.echo (b.echo :: ws) = ((d.deliver b).2.isOk && takes (d.deliver b).1.echo ws) := by
  rw [deliver_eq]
  rcases d.idle_or_some b.echo with hidle | ⟨s, hs, hbytes⟩
  · rw [writeEcho_of_idle hidle]
    show takes d.echo (b.echo :: ws) = takes d.echo ws
    rcases hidle with hnone | hnil
    · rw [hnone]
      rfl
    · rw [hnil]
      rfl
  · rw [writeEcho_of_some hs hbytes, hs]
    exact Sink.takesAll_cons hbytes ws

/-- **Echo that never fails is written**, and goes on not failing. -/
theorem NeverRefuses.deliver {d : Discipline} (h : d.NeverRefuses) (b : Batch) :
    (d.deliver b).2 = .ok () ∧ (d.deliver b).1.NeverRefuses
      ∧ (d.deliver b).1.echoed? = d.echoed?.map (· ++ b.echo) := by
  rw [deliver_eq]
  rcases d.idle_or_some b.echo with hidle | ⟨s, hs, hbytes⟩
  · rw [writeEcho_of_idle hidle]
    refine ⟨rfl, h, ?_⟩
    show d.echoed? = _
    rcases hidle with hnone | hnil
    · rw [echoed?, hnone]
      rfl
    · rw [hnil]
      cases d.echoed? with
      | none => rfl
      | some taken => exact congrArg some (List.append_nil taken).symm
  · rw [writeEcho_of_some hs hbytes, s.write_of_never_refuses (h s hs)]
    refine ⟨rfl, ?_, ?_⟩
    · rintro t ⟨⟩
      exact h s hs
    · rw [echoed?, echoed?, hs]
      rfl

/-! ## One chunk -/

/-- A signal recorded. -/
def record (d : Discipline) (signal : Signal) : Discipline :=
  { d with pending := d.pending ++ [signal] }

/-- **One more byte**: the discipline after it, and the batch with what it brought
about. -/
def advance (a : Attributes) (d : Discipline) (batch : Batch) (b : UInt8) :
    Discipline × Batch :=
  ({ d with state := (step a d.state b).1 }, batch.add (step a d.state b).2)

/-- The batch delivered that ends with one more byte. -/
def deliverThrough (a : Attributes) (d : Discipline) (batch : Batch) (b : UInt8) :
    Discipline × Except DeviceError Unit :=
  (advance a d batch b).1.deliver (advance a d batch b).2

section Chunk

variable {a : Attributes} {d : Discipline} {batch : Batch} {b : UInt8} {signal : Signal}

/-- A byte that is no signal is added to the batch. -/
theorem processFrom_of_none (h : (step a d.state b).2.signal = none) (rest : List UInt8) :
    processFrom a d batch (b :: rest)
      = processFrom a (advance a d batch b).1 (advance a d batch b).2 rest := by
  rw [processFrom]
  simp only [h]
  rfl

/-- A signal ends the batch. When the batch could be echoed, the signal is
recorded and the chunk goes on behind it. -/
theorem processFrom_of_isOk (h : (step a d.state b).2.signal = some signal)
    (hok : (deliverThrough a d batch b).2.isOk = true) (rest : List UInt8) :
    processFrom a d batch (b :: rest)
      = processFrom a ((deliverThrough a d batch b).1.record signal) {} rest := by
  rw [processFrom]
  simp only [h]
  unfold deliverThrough advance at hok ⊢
  split
  · next d' hd =>
    rw [hd]
    rfl
  · next d' e hd =>
    rw [hd] at hok
    exact absurd hok Bool.false_ne_true

/-- When the batch could not be echoed, the chunk ends with it. -/
theorem processFrom_of_not_isOk (h : (step a d.state b).2.signal = some signal)
    (hok : (deliverThrough a d batch b).2.isOk = false) (rest : List UInt8) :
    processFrom a d batch (b :: rest) = deliverThrough a d batch b := by
  rw [processFrom]
  simp only [h]
  unfold deliverThrough advance at hok ⊢
  split
  · next d' hd =>
    rw [hd] at hok
    exact absurd hok.symm Bool.false_ne_true
  · next d' e hd => rw [hd]

theorem signalEchoes_of_none {s : State} (h : (step a s b).2.signal = none)
    (echo rest : List UInt8) :
    signalEchoes a s echo (b :: rest)
      = signalEchoes a (step a s b).1 (echo ++ (step a s b).2.echo) rest := by
  rw [signalEchoes]
  simp only [h]

theorem signalEchoes_of_some {s : State} (h : (step a s b).2.signal = some signal)
    (echo rest : List UInt8) :
    signalEchoes a s echo (b :: rest)
      = (echo ++ (step a s b).2.echo) :: signalEchoes a (step a s b).1 [] rest := by
  rw [signalEchoes]
  simp only [h]

@[simp] theorem state_deliverThrough :
    (deliverThrough a d batch b).1.state = (step a d.state b).1 := state_deliver ..

/-- The echo up to a signal is the first that a sink has to take. -/
theorem takes_deliverThrough (ws : List (List UInt8)) :
    takes d.echo ((batch.echo ++ (step a d.state b).2.echo) :: ws)
      = ((deliverThrough a d batch b).2.isOk && takes (deliverThrough a d batch b).1.echo ws) :=
  takes_deliver (advance a d batch b).1 (advance a d batch b).2 ws

/-- What a byte brings about is added to the batch, but for the signal. -/
theorem outcome_add (batch : Batch) (e : Effect) :
    (batch.add e).outcome ++ { signals := e.signal.toList } = batch.outcome ++ e.outcome := by
  ext1
  · exact List.append_nil _
  · exact List.append_nil _
  · rfl

/-- A byte that is no signal shows in the batch only. -/
theorem view_advance (h : (step a d.state b).2.signal = none) (s : State) (o : Outcome) :
    (advance a d batch b).1.view.after s ((advance a d batch b).2.outcome ++ o)
      = d.view.after s (batch.outcome ++ ((step a d.state b).2.outcome ++ o)) := by
  rw [← Outcome.append_assoc, ← outcome_add batch, h, Option.toList_none, Outcome.append_nil]
  rfl

/-- A signal recorded shows as one brought about. -/
theorem view_record (h : (step a d.state b).2.signal = some signal) (s : State) (o : Outcome) :
    ((deliverThrough a d batch b).1.record signal).view.after s o
      = d.view.after s (batch.outcome ++ ((step a d.state b).2.outcome ++ o)) := by
  rw [← Outcome.append_assoc, ← outcome_add batch, h, Option.toList_some, Outcome.append_assoc,
    ← View.after_after d.view (step a d.state b).1,
    ← View.after_of_state d (step a d.state b).1, ← view_deliver]
  ext1
  · rfl
  · exact List.append_assoc ..
  · rfl
  · rfl

end Chunk

/-- **A chunk adds to the view what the run over it brings about**, as long as no
echo in front of a signal is refused. What becomes of the echo at the end of the
chunk makes no difference. -/
theorem view_processFrom (a : Attributes) (bytes : List UInt8) (d : Discipline) (batch : Batch)
    (h : takes d.echo (signalEchoes a d.state batch.echo bytes) = true) :
    (processFrom a d batch bytes).1.view
      = d.view.after (run a d.state bytes).1 (batch.outcome ++ (run a d.state bytes).2) := by
  induction bytes generalizing d batch with
  | nil => rw [processFrom, run, Outcome.append_nil, view_deliver]
  | cons b rest ih =>
    cases hsignal : (step a d.state b).2.signal with
    | none =>
      rw [signalEchoes_of_none hsignal] at h
      rw [processFrom_of_none hsignal, ih (advance a d batch b).1 (advance a d batch b).2 h]
      exact view_advance hsignal ..
    | some signal =>
      rw [signalEchoes_of_some hsignal, takes_deliverThrough, Bool.and_eq_true] at h
      -- the next batch starts empty, behind the signal
      have hstate : ((deliverThrough a d batch b).1.record signal).state
          = (step a d.state b).1 := state_deliverThrough
      rw [processFrom_of_isOk hsignal h.1, ih _ {} (by rw [hstate]; exact h.2), hstate]
      exact view_record hsignal ..

/-- **With echo that never fails a chunk succeeds**, and the echo that the run over
it brings about is written. -/
theorem NeverRefuses.processFrom (a : Attributes) (bytes : List UInt8) {d : Discipline}
    (h : d.NeverRefuses) (batch : Batch) :
    (processFrom a d batch bytes).2 = .ok () ∧ (processFrom a d batch bytes).1.NeverRefuses
      ∧ (processFrom a d batch bytes).1.echoed?
          = d.echoed?.map (· ++ (batch.echo ++ (run a d.state bytes).2.echo)) := by
  induction bytes generalizing d batch with
  | nil =>
    rw [run, List.append_nil]
    exact h.deliver batch
  | cons b rest ih =>
    have hadvance : (advance a d batch b).1.NeverRefuses := h
    cases hsignal : (step a d.state b).2.signal with
    | none =>
      rw [processFrom_of_none hsignal, run_cons, Outcome.echo_append, ← List.append_assoc]
      exact ih hadvance (advance a d batch b).2
    | some signal =>
      obtain ⟨hok, hnever, hecho⟩ := hadvance.deliver (advance a d batch b).2
      have hisOk : (deliverThrough a d batch b).2.isOk = true := by
        rw [deliverThrough, hok]
        rfl
      have hrecord : ((deliverThrough a d batch b).1.record signal).NeverRefuses := hnever
      obtain ⟨hrest, hnever', hecho'⟩ := ih hrecord {}
      rw [processFrom_of_isOk hsignal hisOk]
      refine ⟨hrest, hnever', hecho'.trans ?_⟩
      show (deliverThrough a d batch b).1.echoed?.map (· ++
        (run a (deliverThrough a d batch b).1.state rest).2.echo) = _
      rw [state_deliverThrough, deliverThrough, hecho, Option.map_map, run_cons]
      congr 1
      funext taken
      show taken ++ (batch.echo ++ (step a d.state b).2.echo) ++ _
        = taken ++ (batch.echo ++ ((step a d.state b).2.echo ++ _))
      rw [List.append_assoc, List.append_assoc]

/-! ## Chunks -/

/-- **It makes no difference where input is cut into chunks**, when echo never
fails or there is none: what is remembered, the signals that wait, what the reader
gets and what has been echoed come out the same. -/
theorem process_append (a : Attributes) (d : Discipline) (xs ys : List UInt8)
    (h : d.NeverRefuses) :
    let first := process a d xs
    let second := process a first.1 ys
    let whole := process a d (xs ++ ys)
    (first.2 = .ok () ∧ second.2 = .ok () ∧ whole.2 = .ok ())
      ∧ second.1.view = whole.1.view ∧ second.1.echoed? = whole.1.echoed? := by
  intro first second whole
  obtain ⟨hfirst, hnever, hxs⟩ := h.processFrom a xs {}
  obtain ⟨hsecond, -, hys⟩ := hnever.processFrom a ys {}
  obtain ⟨hwhole, -, hall⟩ := h.processFrom a (xs ++ ys) {}
  have hview : first.1.view = d.view.after (run a d.state xs).1 (run a d.state xs).2 :=
    view_processFrom a xs d {} (h.takes _)
  have hstate : first.1.state = (run a d.state xs).1 := congrArg View.state hview
  -- the second chunk goes on from the state that the run over the first one leaves
  refine ⟨⟨hfirst, hsecond, hwhole⟩, ?_, ?_⟩
  · calc second.1.view
        = first.1.view.after (run a first.1.state ys).1 (run a first.1.state ys).2 :=
          view_processFrom a ys first.1 {} (hnever.takes _)
      _ = d.view.after (run a d.state (xs ++ ys)).1 (run a d.state (xs ++ ys)).2 := by
          rw [hstate, hview, View.after_after, run_append]
      _ = whole.1.view := (view_processFrom a (xs ++ ys) d {} (h.takes _)).symm
  · calc second.1.echoed?
        = first.1.echoed?.map (· ++ (run a first.1.state ys).2.echo) := hys
      _ = d.echoed?.map (· ++ (run a d.state (xs ++ ys)).2.echo) := by
          rw [hstate, show first.1.echoed? = _ from hxs, Option.map_map, run_append]
          congr 1
          funext taken
          exact List.append_assoc ..
      _ = whole.1.echoed? := hall.symm

/-- A cut between a carriage return and a line feed: the reader gets one line end. -/
theorem process_append_returnLineFeed :
    let d : Discipline := { echo := some Sink.endless }
    let second := process Attributes.usual (process Attributes.usual d [0x78, 0x0d]).1 [0x0a, 0x79]
    let whole := process Attributes.usual d ([0x78, 0x0d] ++ [0x0a, 0x79])
    d.NeverRefuses
      ∧ second.1.view = whole.1.view ∧ second.1.echoed? = whole.1.echoed?
      ∧ whole.1.view.stream = [some 0x78, some lineFeed] ∧ whole.1.view.state.line = [0x79] := by
  intro d second whole
  have hnever : d.NeverRefuses := by
    rintro s ⟨⟩ n total
    rfl
  have happend := process_append Attributes.usual d [0x78, 0x0d] [0x0a, 0x79] hnever
  exact ⟨hnever, happend.2.1, happend.2.2, rfl, rfl⟩

end Discipline

end Teletype
