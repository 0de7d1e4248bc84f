import Teletype.Proofs.Discipline.Run

/-!
# What a refused echo costs

A batch reaches the reader even if it cannot be echoed. At the end of a chunk
that is all there is to it: the answer is an error, and nothing else is different.
In front of a signal it is not. There the chunk ends with the batch, the signal is
not recorded, and the bytes behind it are not looked at.

So an echo that may fail costs nothing exactly when the echo in front of each
signal is taken (`view_process_eq_iff`). One direction is what a chunk adds to the
view. The other counts signals: whoever loses a signal is left with fewer of them
than the run over the chunk brings about.
-/

namespace Teletype.Discipline

/-- **A signal behind a refused echo is lost**: fewer wait than the run brings
about. -/
theorem length_pending_processFrom_lt (a : Attributes) (bytes : List UInt8) (d : Discipline)
    (batch : Batch) (h : takes d.echo (signalEchoes a d.state batch.echo bytes) = false) :
    (processFrom a d batch bytes).1.pending.length
      < d.pending.length + (run a d.state bytes).2.signals.length := by
  induction bytes generalizing d batch with
  | nil =>
    have hnil : takes d.echo [] = true := by
      cases hd : d.echo <;> rfl
    rw [signalEchoes, hnil] at h
    exact absurd h.symm Bool.false_ne_true
  | cons b rest ih =>
    rw [run_cons, Outcome.signals_append, List.length_append]
    cases hsignal : (step a d.state b).2.signal with
    | none =>
      rw [signalEchoes_of_none hsignal] at h
      rw [processFrom_of_none hsignal, Effect.outcome, hsignal, Option.toList_none,
        List.length_nil, Nat.zero_add]
      exact ih (advance a d batch b).1 (advance a d batch b).2 h
    | some signal =>
      rw [signalEchoes_of_some hsignal, takes_deliverThrough, Bool.and_eq_false_iff] at h
      have hpending : (deliverThrough a d batch b).1.pending = d.pending :=
        (congrArg View.pending (view_deliver _ _)).trans (List.append_nil _)
      rw [Effect.outcome, hsignal, Option.toList_some, List.length_singleton]
      -- either this echo is the refused one, or it is one of those behind
      cases hok : (deliverThrough a d batch b).2.isOk with
      | false =>
        rw [processFrom_of_not_isOk hsignal hok, hpending]
        omega
      | true =>
        rw [hok, Bool.true_eq_false, false_or] at h
        have hstate : ((deliverThrough a d batch b).1.record signal).state
            = (step a d.state b).1 := state_deliverThrough
        have hlength : ((deliverThrough a d batch b).1.record signal).pending.length
            = d.pending.length + 1 := by
          rw [record, List.length_append, hpending, List.length_singleton]
        have hlt := ih ((deliverThrough a d batch b).1.record signal) {} (by rw [hstate]; exact h)
        rw [hstate, hlength] at hlt
        rw [processFrom_of_isOk hsignal hok]
        omega

/-- **When a failing echo costs nothing.** What is remembered, the signals that
wait and what the reader gets are as with echo that never fails, exactly when no
echo is refused in front of a signal. The echo at the end of the chunk may be. -/
theorem view_process_eq_iff (a : Attributes) (d : Discipline) (bytes : List UInt8) :
    (process a d bytes).1.view = (process a { d with echo := some Sink.endless } bytes).1.view
      ↔ takes d.echo (signalEchoes a d.state [] bytes) = true := by
  have hendless : NeverRefuses { d with echo := some Sink.endless } := by
    rintro s ⟨⟩ n total
    rfl
  have hwhole : (process a { d with echo := some Sink.endless } bytes).1.view
      = d.view.after (run a d.state bytes).1 (run a d.state bytes).2 :=
    view_processFrom a bytes { d with echo := some Sink.endless } {} (hendless.takes _)
  rw [hwhole]
  constructor
  · intro hview
    refine Bool.of_not_eq_false fun hrefused => ?_
    have hlt := length_pending_processFrom_lt a bytes d {} hrefused
    have hpending : (process a d bytes).1.pending
        = d.pending ++ (run a d.state bytes).2.signals := congrArg View.pending hview
    rw [← List.length_append, ← hpending] at hlt
    exact Nat.lt_irrefl _ hlt
  · intro htaken
    exact view_processFrom a bytes d {} htaken

/-- A sink that takes nothing, an interrupt, and a line behind it: the interrupt
and the line are lost. -/
theorem process_interrupt_of_full :
    ¬ ∀ (a : Attributes) (d : Discipline) (bytes : List UInt8),
      (process a d bytes).1.view
        = (process a { d with echo := some Sink.endless } bytes).1.view := by
  intro hall
  have hview := hall Attributes.usual { echo := some (Sink.ofLimit 0) } [0x03, 0x61, 0x0a]
  exact absurd hview (by decide)

end Teletype.Discipline
