import Teletype.Proofs.Discipline.Scene

/-!
# Input in chunks

Input arrives chunk by chunk, and each chunk may find the echo failing. When none of its
bytes is a signal, that costs nothing: there is no write in front of a signal, so the whole
chunk is processed whatever becomes of its echo (`view_process_of_signals_eq_nil`). With
signals switched off no byte is one, and any number of chunks come to what one run over all
of their bytes brings about (`view_processAll`).
-/

namespace Teletype.Discipline

variable {a : Attributes}

/-! ## Which bytes are signals -/

@[simp] theorem signal_edit (a : Attributes) (s : State) (b : UInt8) :
    (edit a s b).2.signal = none := by
  unfold edit
  repeat' split
  all_goals rfl

@[simp] theorem signal_accept (a : Attributes) (s : State) (b : UInt8) :
    (accept a s b).2.signal = none := by
  unfold accept
  split <;> rfl

@[simp] theorem signal_ordinary (a : Attributes) (s : State) (b : UInt8) :
    (ordinary a s b).2.signal = none := by
  unfold ordinary
  split
  · rfl
  · split <;> simp only [signal_edit, signal_accept]

theorem signalOf?_of_not_isig (h : a.flag .isig = false) (b : UInt8) : signalOf? a b = none := by
  rw [signalOf?, h, if_neg Bool.false_ne_true]

theorem signal_step_of_not_isig (h : a.flag .isig = false) (s : State) (b : UInt8) :
    (step a s b).2.signal = none := by
  unfold step
  simp only [signalOf?_of_not_isig h]
  split <;> simp only [signal_accept, signal_ordinary]

/-- **With signals switched off, no byte is one.** -/
theorem signals_run_of_not_isig (h : a.flag .isig = false) (bytes : List UInt8) (s : State) :
    (run a s bytes).2.signals = [] := by
  induction bytes generalizing s with
  | nil => rfl
  | cons b rest ih =>
    rw [run_cons, Outcome.signals_append, ih, Effect.outcome, signal_step_of_not_isig h]
    rfl

/-! ## Chunks without signals -/

/-- There is a write in front of each signal. -/
theorem length_signalEchoes (a : Attributes) (bytes : List UInt8) (s : State)
    (echo : List UInt8) :
    (signalEchoes a s echo bytes).length = (run a s bytes).2.signals.length := by
  induction bytes generalizing s echo with
  | nil => rfl
  | cons b rest ih =>
    rw [run_cons, Outcome.signals_append, List.length_append]
    cases hsignal : (step a s b).2.signal with
    | none =>
      rw [signalEchoes_of_none hsignal, ih, Effect.outcome, hsignal, Option.toList_none,
        List.length_nil, Nat.zero_add]
    | some signal =>
      rw [signalEchoes_of_some hsignal, List.length_cons, ih, Effect.outcome, hsignal,
        Option.toList_some, List.length_singleton, Nat.add_comm]

/-- **A chunk without signals** adds to the view what the run over it brings about,
whatever becomes of its echo. -/
theorem view_process_of_signals_eq_nil {d : Discipline} {bytes : List UInt8}
    (h : (run a d.state bytes).2.signals = []) :
    (process a d bytes).1.view = d.view.after (run a d.state bytes).1 (run a d.state bytes).2 := by
  have hechoes : signalEchoes a d.state [] bytes = [] := by
    rw [← List.length_eq_zero_iff, length_signalEchoes, h, List.length_nil]
  refine view_processFrom a bytes d {} ?_
  show takes d.echo (signalEchoes a d.state [] bytes) = true
  rw [hechoes]
  cases d.echo <;> rfl

/-- **Chunks processed** one after another, whether or not their echo fails. -/
def processAll (a : Attributes) (d : Discipline) (chunks : List (List UInt8)) : Discipline :=
  chunks.foldl (fun d bytes => (process a d bytes).1) d

/-- **With signals switched off, chunks come to what one run over all of their bytes brings
about**, whatever becomes of the echo. -/
theorem view_processAll (h : a.flag .isig = false) (chunks : List (List UInt8)) (d : Discipline) :
    (processAll a d chunks).view
      = d.view.after (run a d.state chunks.flatten).1 (run a d.state chunks.flatten).2 := by
  induction chunks generalizing d with
  | nil => exact (View.after_nothing d.view).symm
  | cons bytes chunks ih =>
    have hview : (process a d bytes).1.view = _ :=
      view_process_of_signals_eq_nil (signals_run_of_not_isig h bytes d.state)
    have hstate : (process a d bytes).1.state = (run a d.state bytes).1 :=
      congrArg View.state hview
    rw [List.flatten_cons, run_append]
    refine (ih (process a d bytes).1).trans ?_
    rw [hstate, hview, View.after_after]

/-- **Where echo never fails, chunks are dealt with like the bytes in them**, signals or not. -/
theorem NeverRefuses.scene_processAll {d : Discipline} (h : d.NeverRefuses)
    (chunks : List (List UInt8)) :
    (processAll a d chunks).scene = d.scene.run a chunks.flatten := by
  induction chunks generalizing d with
  | nil => exact Scene.run_nil.symm
  | cons bytes chunks ih =>
    have hnever : (process a d bytes).1.NeverRefuses := (h.processFrom a bytes {}).2.1
    refine (ih hnever).trans ?_
    rw [h.scene_process, Scene.run_append, List.flatten_cons]

end Teletype.Discipline
