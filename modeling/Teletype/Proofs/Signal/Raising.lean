import Teletype.Signal.Basic

/-!
# What comes of raising a signal

Raising a signal runs a callback, which feeds bytes back, among which are signals,
which are raised. Whether that comes to an end is a question of its own. What is
shown here is shown of every raise that does, by induction on the run
(`raise?_induction`): what the operations of a host keep, raising keeps
(`Keeps.raise?`), and the record of a run is well nested (`raise?_traced`).

The record is kept by the run itself. A host is *traced* by a second host that does
the same and writes down, with the state they found, each delivery of bytes and each
raise. In such a record a delivery is followed by what came of its signals, one after
the other, and a raise by what came of the bytes that its handler fed back, chunk
after chunk: these are the two relations `Chunks` and `Raises`. A signal that comes
in with a chunk is therefore raised once in the record, and no sooner than what came
before it is over (`Chunks.perm`).
-/

namespace Teletype

/-- The bytes that a step of a callback feeds back, if it is one that does. -/
def HandlerStep.fed? : HandlerStep → Option (List UInt8)
  | feed bytes => some bytes
  | _ => none

/-- **The chunks that a handler feeds back** when it runs, in order. -/
def Handler.feeds (h : Handler) : List (List UInt8) := h.steps.filterMap HandlerStep.fed?

namespace Host

variable {σ α : Type} {host : Host σ} {raising : Signal → σ → Option σ} {s : Signal}
  {signals : List Signal} {bytes : List UInt8} {st st' : σ}

/-! ## One level of the recursion -/

/-- **A step of a callback**, given how signals are raised. -/
def perform? (host : Host σ) (raising : Signal → σ → Option σ) (s : Signal) (st : σ) :
    HandlerStep → Option σ
  | .mark tag => some (host.mark tag s st)
  | .setAttributes a => some (host.setAttributes a st)
  | .feed bytes =>
    (host.deliver bytes st).2.foldlM (fun st s => raising s st) (host.deliver bytes st).1
  | .install h => some (host.install s h st)

/-- **The reaction to a signal**, given how signals are raised. -/
def react? (host : Host σ) (raising : Signal → σ → Option σ) (s : Signal) (st : σ) : Option σ :=
  ((host.table st).reaction s).steps.foldlM (host.perform? raising s)
    (host.note s ((host.table st).handler s) st)

/-- **A signal raised is a reaction** in which signals are raised the same way. -/
theorem raise?_eq (host : Host σ) (s : Signal) (st : σ) :
    host.raise? s st = host.react? host.raise? s st := by
  rw [raise?]
  rfl

/-- **Induction on a raise that comes to an end.** -/
theorem raise?_induction {motive : Signal → σ → σ → Prop}
    (step : ∀ raising : Signal → σ → Option σ,
      (∀ s st st', raising s st = some st' → motive s st st') →
        ∀ s st st', host.react? raising s st = some st' → motive s st st')
    (h : host.raise? s st = some st') : motive s st st' :=
  raise?.partial_correctness host motive step s st st' h

/-! ## What is kept -/

/-- What each round keeps, the rounds together keep. -/
theorem foldlM_keeps {P : σ → Prop} {f : σ → α → Option σ} {xs : List α}
    (hf : ∀ st x st', f st x = some st' → P st → P st')
    (h : xs.foldlM f st = some st') (hst : P st) : P st' := by
  induction xs generalizing st with
  | nil =>
    obtain rfl : st = st' := Option.some.inj h
    exact hst
  | cons x xs ih =>
    rw [List.foldlM_cons] at h
    obtain ⟨mid, hmid, hrest⟩ := Option.bind_eq_some_iff.mp h
    exact ih hrest (hf st x mid hmid hst)

/-- **A property that the operations of a host keep.** -/
structure Keeps (host : Host σ) (P : σ → Prop) : Prop where
  mark (tag : String) (s : Signal) {st : σ} : P st → P (host.mark tag s st)
  setAttributes (a : Attributes) {st : σ} : P st → P (host.setAttributes a st)
  deliver (bytes : List UInt8) {st : σ} : P st → P (host.deliver bytes st).1
  install (s : Signal) (h : Handler) {st : σ} : P st → P (host.install s h st)
  note (s : Signal) (h : Handler) {st : σ} : P st → P (host.note s h st)

namespace Keeps

variable {P : σ → Prop}

/-- **What the operations keep, a raise keeps**, whatever callbacks do. -/
theorem raise? (k : host.Keeps P) (h : host.raise? s st = some st') : P st → P st' := by
  refine raise?_induction (motive := fun _ st st' => P st → P st') ?_ h
  intro raising hraise s st st' h hst
  refine foldlM_keeps (fun st step st' hstep hst => ?_) h (k.note s _ hst)
  cases step with
  | mark tag =>
    obtain rfl := Option.some.inj hstep
    exact k.mark tag s hst
  | setAttributes a =>
    obtain rfl := Option.some.inj hstep
    exact k.setAttributes a hst
  | feed bytes =>
    exact foldlM_keeps (fun st s st' hs hst => hraise s st st' hs hst) hstep (k.deliver bytes hst)
  | install h =>
    obtain rfl := Option.some.inj hstep
    exact k.install s h hst

theorem raiseAll? (k : host.Keeps P) (h : host.raiseAll? signals st = some st') (hst : P st) :
    P st' :=
  foldlM_keeps (fun _ _ _ hs => k.raise? hs) h hst

theorem feed? (k : host.Keeps P) (h : host.feed? bytes st = some st') (hst : P st) : P st' :=
  k.raiseAll? h (k.deliver bytes hst)

theorem raise (k : host.Keeps P) (s : Signal) (hst : P st) : P (host.raise s st) := by
  unfold Host.raise
  cases h : host.raise? s st with
  | none => exact hst
  | some st' => exact k.raise? h hst

theorem raiseAll (k : host.Keeps P) (signals : List Signal) (hst : P st) :
    P (host.raiseAll signals st) := by
  unfold Host.raiseAll
  cases h : host.raiseAll? signals st with
  | none => exact hst
  | some st' => exact k.raiseAll? h hst

end Keeps

/-! ## The record of a run -/

/-- **What happens** while signals are raised. -/
inductive Happening (σ : Type) where
  /-- Bytes are delivered as input, and these signals are among them. -/
  | delivered (bytes : List UInt8) (before : σ) (signals : List Signal) (after : σ)
  /-- A signal is raised on a handler. -/
  | raised (s : Signal) (h : Handler) (before : σ)

namespace Happening

/-- The state in which it happens. -/
def before : Happening σ → σ
  | delivered _ st _ _ => st
  | raised _ _ st => st

/-- **Whether it is what the host does**: a delivery gives what it gives there, and the
handler of a signal is the one installed then. -/
def IsOf (host : Host σ) : Happening σ → Prop
  | delivered bytes st signals st' => host.deliver bytes st = (st', signals)
  | raised s h st => (host.table st).handler s = h

/-- The signals that come in with a delivery. -/
def recorded : Happening σ → List Signal
  | delivered _ _ signals _ => signals
  | raised .. => []

/-- The signal that is raised, if this is a raise. -/
def raised? : Happening σ → Option Signal
  | delivered .. => none
  | raised s _ _ => some s

variable (bytes : List UInt8) (s : Signal) (signals : List Signal) (h : Handler) (st st' : σ)

@[simp] theorem recorded_delivered :
    (delivered bytes st signals st').recorded = signals := rfl

@[simp] theorem recorded_raised : (raised s h st).recorded = [] := rfl

@[simp] theorem raised?_delivered :
    (delivered bytes st signals st').raised? = none := rfl

@[simp] theorem raised?_raised : (raised s h st).raised? = some s := rfl

end Happening

/-- **A host that keeps a record** of what happens. -/
def traced (host : Host σ) : Host (σ × List (Happening σ)) where
  table st := host.table st.1
  mark tag s st := (host.mark tag s st.1, st.2)
  setAttributes a st := (host.setAttributes a st.1, st.2)
  deliver bytes st :=
    let (after, signals) := host.deliver bytes st.1
    ((after, st.2 ++ [.delivered bytes st.1 signals after]), signals)
  install s h st := (host.install s h st.1, st.2)
  note s h st := (host.note s h st.1, st.2 ++ [.raised s h st.1])

mutual

/-- **The record of signals raised one after the other**: each on the handler
installed at that moment, and followed by what came of the chunks that its handler
fed back. -/
inductive Raises (host : Host σ) : List Signal → List (Happening σ) → Prop
  /-- No signal is raised. -/
  | nil : Raises host [] []
  /-- A signal is raised, and then the others. -/
  | cons {s : Signal} {signals : List Signal} {st : σ} {nested rest : List (Happening σ)} :
    Chunks host ((host.table st).reaction s).feeds nested → Raises host signals rest →
      Raises host (s :: signals)
        (.raised s ((host.table st).handler s) st :: (nested ++ rest))

/-- **The record of chunks fed one after the other**: each delivered as a whole, and
followed by what came of the signals in it. -/
inductive Chunks (host : Host σ) : List (List UInt8) → List (Happening σ) → Prop
  /-- No chunk is fed. -/
  | nil : Chunks host [] []
  /-- A chunk is fed, and then the others. -/
  | cons {bytes : List UInt8} {chunks : List (List UInt8)} {st : σ}
      {nested rest : List (Happening σ)} :
    Raises host (host.deliver bytes st).2 nested → Chunks host chunks rest →
      Chunks host (bytes :: chunks)
        (.delivered bytes st (host.deliver bytes st).2 (host.deliver bytes st).1
          :: (nested ++ rest))

end

/-! ## Runs are well nested -/

/-- **The record that a raise leaves**: the raise, and what came of the chunks that
the handler fed back. -/
def LeavesRecord (host : Host σ) (s : Signal) (st st' : σ) : Prop :=
  ∀ es, ∃ nested,
    host.traced.raise? s (st, es)
        = some (st', es ++ .raised s ((host.table st).handler s) st :: nested)
      ∧ host.Chunks ((host.table st).reaction s).feeds nested

section Nesting

variable (hraise : ∀ s st st', raising s st = some st' → host.LeavesRecord s st st')
include hraise

/-- The record of signals raised is that of each of them in turn. -/
theorem raises_of_foldlM (h : signals.foldlM (fun st s => raising s st) st = some st')
    (es : List (Happening σ)) :
    ∃ fs, host.traced.raiseAll? signals (st, es) = some (st', es ++ fs)
      ∧ host.Raises signals fs := by
  induction signals generalizing st es with
  | nil =>
    obtain rfl : st = st' := Option.some.inj h
    exact ⟨[], by rw [List.append_nil]; rfl, .nil⟩
  | cons s signals ih =>
    rw [List.foldlM_cons] at h
    obtain ⟨mid, hmid, hrest⟩ := Option.bind_eq_some_iff.mp h
    obtain ⟨nested, htraced, hnested⟩ := hraise s st mid hmid es
    obtain ⟨fs, hall, hfs⟩ := ih hrest (es ++ .raised s ((host.table st).handler s) st :: nested)
    refine ⟨_, ?_, .cons hnested hfs⟩
    show (host.traced.raise? s (st, es) >>= host.traced.raiseAll? signals) = _
    rw [htraced]
    refine hall.trans ?_
    simp only [List.append_assoc, List.cons_append]

/-- The record of a callback is that of the chunks it feeds back. -/
theorem chunks_of_foldlM {steps : List HandlerStep}
    (h : steps.foldlM (host.perform? raising s) st = some st') (es : List (Happening σ)) :
    ∃ fs, steps.foldlM (host.traced.perform? host.traced.raise? s) (st, es)
        = some (st', es ++ fs) ∧ host.Chunks (steps.filterMap HandlerStep.fed?) fs := by
  induction steps generalizing st es with
  | nil =>
    obtain rfl : st = st' := Option.some.inj h
    exact ⟨[], by rw [List.append_nil]; rfl, .nil⟩
  | cons step steps ih =>
    rw [List.foldlM_cons] at h
    obtain ⟨mid, hmid, hrest⟩ := Option.bind_eq_some_iff.mp h
    cases step with
    | mark tag =>
      obtain rfl := Option.some.inj hmid
      exact ih hrest es
    | setAttributes a =>
      obtain rfl := Option.some.inj hmid
      exact ih hrest es
    | install h =>
      obtain rfl := Option.some.inj hmid
      exact ih hrest es
    | feed bytes =>
      obtain ⟨nested, htraced, hnested⟩ := raises_of_foldlM hraise hmid
        (es ++ [.delivered bytes st (host.deliver bytes st).2 (host.deliver bytes st).1])
      obtain ⟨fs, hall, hfs⟩ := ih hrest _
      refine ⟨_, ?_, .cons hnested hfs⟩
      show (host.traced.raiseAll? (host.deliver bytes st).2 ((host.deliver bytes st).1,
        es ++ [.delivered bytes st (host.deliver bytes st).2 (host.deliver bytes st).1])
          >>= fun st => steps.foldlM (host.traced.perform? host.traced.raise? s) st) = _
      rw [htraced]
      refine hall.trans ?_
      simp only [List.append_assoc, List.cons_append, List.nil_append]

end Nesting

/-- **Keeping a record changes nothing, and the record is well nested.** -/
theorem raise?_traced (h : host.raise? s st = some st') : host.LeavesRecord s st st' := by
  refine raise?_induction (motive := host.LeavesRecord) ?_ h
  intro raising hraise s st st' h es
  rw [raise?_eq]
  obtain ⟨nested, hall, hnested⟩ := chunks_of_foldlM hraise h
    (es ++ [.raised s ((host.table st).handler s) st])
  refine ⟨nested, hall.trans ?_, hnested⟩
  simp only [List.append_assoc, List.cons_append, List.nil_append]

/-- **Feeding bytes leaves the record of one chunk.** -/
theorem feed?_traced (h : host.feed? bytes st = some st') (es : List (Happening σ)) :
    ∃ fs, host.traced.feed? bytes (st, es) = some (st', es ++ fs) ∧ host.Chunks [bytes] fs := by
  obtain ⟨nested, htraced, hnested⟩ := raises_of_foldlM (fun _ _ _ => raise?_traced) h
    (es ++ [.delivered bytes st (host.deliver bytes st).2 (host.deliver bytes st).1])
  refine ⟨_, htraced.trans ?_, .cons hnested .nil⟩
  simp only [List.append_assoc, List.cons_append, List.nil_append, List.append_nil]

/-- What the operations of a host keep holds whenever something happens. -/
theorem Keeps.traced {P : σ → Prop} (k : host.Keeps P) :
    host.traced.Keeps fun x => P x.1 ∧ ∀ e ∈ x.2, P e.before where
  mark tag s _ h := ⟨k.mark tag s h.1, h.2⟩
  setAttributes a _ h := ⟨k.setAttributes a h.1, h.2⟩
  install s handler _ h := ⟨k.install s handler h.1, h.2⟩
  deliver bytes _ h := by
    refine ⟨k.deliver bytes h.1, fun e he => ?_⟩
    rcases List.mem_append.mp he with he | he
    · exact h.2 e he
    · rw [List.mem_singleton.mp he]
      exact h.1
  note s handler _ h := by
    refine ⟨k.note s handler h.1, fun e he => ?_⟩
    rcases List.mem_append.mp he with he | he
    · exact h.2 e he
    · rw [List.mem_singleton.mp he]
      exact h.1

mutual

/-- What happens while signals are raised is what the host does. -/
theorem Raises.isOf {signals : List Signal} {es : List (Happening σ)} :
    host.Raises signals es → ∀ e ∈ es, e.IsOf host
  | .nil => fun _ he => absurd he List.not_mem_nil
  | .cons hnested hrest => fun e he => by
    rcases List.mem_cons.mp he with rfl | he
    · rfl
    · exact (List.mem_append.mp he).elim (hnested.isOf e) (hrest.isOf e)

/-- What happens while chunks are fed is what the host does. -/
theorem Chunks.isOf {chunks : List (List UInt8)} {es : List (Happening σ)} :
    host.Chunks chunks es → ∀ e ∈ es, e.IsOf host
  | .nil => fun _ he => absurd he List.not_mem_nil
  | .cons hnested hrest => fun e he => by
    rcases List.mem_cons.mp he with rfl | he
    · rfl
    · exact (List.mem_append.mp he).elim (hnested.isOf e) (hrest.isOf e)

end

/-! ## Every signal once -/

mutual

/-- **Each signal is raised once**, and so is each that comes in meanwhile. -/
theorem Raises.perm {signals : List Signal} {es : List (Happening σ)} :
    host.Raises signals es →
      (es.filterMap Happening.raised?).Perm (signals ++ es.flatMap Happening.recorded)
  | .nil => .nil
  | .cons (s := s) hnested hrest => by
    simp only [List.filterMap_cons, Happening.raised?_raised, List.filterMap_append,
      List.flatMap_cons, Happening.recorded_raised, List.nil_append, List.flatMap_append,
      List.cons_append]
    exact .cons s ((hnested.perm.append hrest.perm).trans (List.perm_append_comm_assoc ..))

/-- **Each signal that comes in with a chunk is raised once.** -/
theorem Chunks.perm {chunks : List (List UInt8)} {es : List (Happening σ)} :
    host.Chunks chunks es →
      (es.filterMap Happening.raised?).Perm (es.flatMap Happening.recorded)
  | .nil => .nil
  | .cons hnested hrest => by
    simp only [List.filterMap_cons, Happening.raised?_delivered, List.filterMap_append,
      List.flatMap_cons, Happening.recorded_delivered, List.flatMap_append]
    rw [← List.append_assoc]
    exact hnested.perm.append hrest.perm

end

end Host

end Teletype
