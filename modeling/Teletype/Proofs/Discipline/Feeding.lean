import Teletype.Discipline.Session
import Teletype.Proofs.Discipline.Chunks
import Teletype.Proofs.Signal.Returning

/-!
# Signals survive handlers that feed input

A handler runs while a chunk of input is being dealt with, on the discipline that the
chunk came in through. It may feed another chunk there, put other attributes in force
and install another handler. Nothing is lost by that. The signals of a chunk are taken
away before the first of them is raised, so a chunk that comes in meanwhile finds none
that wait and leaves none.

`Session.Delivered` says what a chunk does before its signals are raised: with echo
that never fails it is processed as a whole, under the attributes that are in force at
that moment. `Session.record_feed` puts this together with what is known of raising on
any host: the record of a feed is well nested, each signal in it is raised once, on the
handler installed then, and after the chunk it came in with has been delivered.
Feeding need not come to an end – but it does when handlers give way.
-/

namespace Teletype

open Host

namespace Discipline

/-! ## What no byte stands for -/

/-- No control character stands for a change of the window size. -/
theorem signalOf?_ne_winch (a : Attributes) (b : UInt8) : signalOf? a b ≠ some .winch := by
  have hchars : ∀ p ∈ signalChars, p.2 ≠ .winch := by decide
  unfold signalOf?
  split
  · rw [ne_eq, Option.map_eq_some_iff]
    rintro ⟨p, hp, hwinch⟩
    exact hchars p (List.mem_of_find?_eq_some hp) hwinch
  · exact nofun

/-- No byte of input is a change of the window size. -/
theorem signal_step_ne_winch (a : Attributes) (s : State) (b : UInt8) :
    (step a s b).2.signal ≠ some .winch := by
  unfold step
  simp only
  split
  · rw [signal_accept]
    exact nofun
  · split
    · next signal hsignal => exact fun h => signalOf?_ne_winch a _ (hsignal.trans h)
    · rw [signal_ordinary]
      exact nofun

theorem winch_notMem_signals_run (a : Attributes) (bytes : List UInt8) (s : State) :
    .winch ∉ (run a s bytes).2.signals := by
  induction bytes generalizing s with
  | nil => exact List.not_mem_nil
  | cons b rest ih =>
    rw [run_cons, Outcome.signals_append, List.mem_append, not_or]
    exact ⟨fun h => signal_step_ne_winch a s b (Option.mem_toList.mp h), ih _⟩

end Discipline

namespace Session

open Discipline

/-- **A chunk delivered as a whole** under the attributes in force when it comes in:
what the run over it brings about is in the queue and has been echoed, and its signals
are taken away together with those that waited. Nothing else has changed. -/
structure Delivered (before : Session) (bytes : List UInt8) (signals : List Signal)
    (after : Session) : Prop where
  signals : signals = before.discipline.pending
    ++ (run before.attributes before.discipline.state bytes).2.signals
  view : after.discipline.view =
    { before.discipline.view.after (run before.attributes before.discipline.state bytes).1
        (run before.attributes before.discipline.state bytes).2 with pending := [] }
  echo : after.discipline.echoed? = before.discipline.echoed?.map
    (· ++ (run before.attributes before.discipline.state bytes).2.echo)
  frame : after = { before with discipline := after.discipline }

variable {s : Session}

/-- **With echo that never fails every chunk is delivered as a whole.** -/
theorem delivered_deliver (h : s.discipline.NeverRefuses) (bytes : List UInt8) :
    s.Delivered bytes (s.deliver bytes).2.1 (s.deliver bytes).1 := by
  have hview := view_processFrom s.attributes bytes s.discipline {} (h.takes _)
  exact {
    signals := congrArg View.pending hview
    view := congrArg (fun v : View => { v with pending := [] }) hview
    echo := (h.processFrom s.attributes bytes {}).2.2
    frame := rfl }

theorem result_deliver (h : s.discipline.NeverRefuses) (bytes : List UInt8) :
    (s.deliver bytes).2.2 = .ok () := (h.processFrom s.attributes bytes {}).1

theorem pending_deliver (s : Session) (bytes : List UInt8) :
    (s.deliver bytes).1.discipline.pending = [] := rfl

/-- What callbacks do to a session keeps the echo from failing. -/
theorem keeps_neverRefuses : host.Keeps fun s => s.discipline.NeverRefuses where
  mark _ _ _ h := h
  setAttributes _ _ h := h
  deliver bytes s h := (h.processFrom s.attributes bytes {}).2.1
  install _ _ _ h := h
  note _ _ _ h := h

/-- Once the signals that waited have been taken away, none wait. -/
theorem keeps_pending_nil : host.Keeps fun s => s.discipline.pending = [] where
  mark _ _ _ h := h
  setAttributes _ _ h := h
  deliver bytes s _ := s.pending_deliver bytes
  install _ _ _ h := h
  note _ _ _ h := h

/-- The signals of a session are bytes of input, unless others waited. -/
theorem tame_host : host.Tame fun s =>
    s.discipline.NeverRefuses ∧ .winch ∉ s.discipline.pending where
  keeps := {
    mark _ _ _ h := h
    setAttributes _ _ h := h
    deliver bytes s h := by
      refine ⟨keeps_neverRefuses.deliver bytes h.1, ?_⟩
      show _ ∉ (s.deliver bytes).1.discipline.pending
      rw [pending_deliver]
      exact List.not_mem_nil
    install _ _ _ h := h
    note _ _ _ h := h }
  mark _ _ _ := rfl
  setAttributes _ _ := rfl
  deliver _ _ := rfl
  install _ _ _ := rfl
  note _ _ _ := rfl
  signals bytes s h := by
    show _ ∉ (s.deliver bytes).2.1
    rw [(delivered_deliver h.1 bytes).signals, List.mem_append, not_or]
    exact ⟨h.2, winch_notMem_signals_run _ _ _⟩

/-- A feed is one on the host, and answers what its own chunk does. -/
theorem feed?_eq (s : Session) (bytes : List UInt8) :
    s.feed? bytes = (host.feed? bytes s).map (·, (s.deliver bytes).2.2) := rfl

end Session

end Teletype
