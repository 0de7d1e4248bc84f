import Teletype.Proofs.Console.Opening
import Teletype.Proofs.Signal.Agenda
import Teletype.Proofs.Terminal.Keeping
import Teletype.Terminal.SharedConsole

/-!
# Who closes a console

A terminal on a console is closed by whoever comes first, and that caller goes through
the sections of closing one by one. How far it is says what has run and what can still
happen (`SharedConsole.Fits`): until it has told the pump to stop, everything can; then
the thread of the pump finishes what it has in hand; and once the pump is stopped nothing
touches the console any more but the caller itself. All other callers have returned
without having done anything. This is so throughout (`SharedConsole.Sound.play`): there is
one lemma for each act, and the acts of callers come down to one about the first of them
moving on (`SharedConsole.Sound.step`).

What the device remembers of the modes stays what it is, since nothing that is done to a
terminal touches it (`ConsoleDevice.keeps_frame`).
-/

namespace Teletype

open Teletype.Action

namespace SequentialPump

variable {q : SequentialPump}

theorem joining_resume (q : SequentialPump) : q.resume.pump.joining = q.pump.joining := by
  unfold resume Pump.resume
  split <;> rfl

theorem isSome_thread_resume (q : SequentialPump) : q.resume.pump.thread.isSome = true := by
  cases h : q.pump.thread with
  | none => rw [resume, Pump.resume_of_none h]; rfl
  | some g => rw [resume, Pump.resume_of_some h]; exact Option.isSome_of_eq_some h

theorem joining_finish (q : SequentialPump) : q.finish.pump.joining = q.pump.joining := by
  unfold finish Pump.finish
  split
  · rfl
  · dsimp only
    split <;> rfl

theorem finish_of_none (h : q.pump.thread = none) : q.finish = q := by
  unfold finish
  rw [h]

/-- Once a pause has been waited for, nobody waits. -/
theorem joining_pauseAndWait (h : q.pump.joining = false) :
    q.pauseAndWait.pump.joining = false := by
  unfold pauseAndWait
  split
  · next pump htake =>
    cases hthread : q.pump.thread with
    | none =>
      rw [Pump.take_of_none (p := q.pump.pause) hthread] at htake
      rw [← (Prod.mk.inj htake).2]
      exact h
    | some g =>
      rw [Pump.take_of_some (p := q.pump.pause) hthread] at htake
      cases htake
  · rfl

end SequentialPump

namespace ConsoleDevice

variable {d d' : ConsoleDevice} {signals : List Signal}

/-- **What a terminal asks of a console touches neither what is remembered of the modes nor
the pump.** -/
theorem keeps_frame (R : ConsoleModes → SequentialPump → Prop) :
    Device.Keeps ConsoleDevice fun d => R d.initial d.pump where
  attributes := keeps_look _
  setAttributes a := Keeps.bind (keeps_modify fun _ h => h) fun _ =>
    keeps_get.bind fun _ => fun _ h => h
  size := fun _ h => h
  setSize _ := keeps_throw _
  deliver _ _ h := h
  read _ _ h := h
  write _ _ h := h
  cursor := Keeps.bind (fun _ h => h) fun _ => keeps_pure _
  trackMouse _ := Keeps.bind (keeps_modify fun _ h => h) fun _ =>
    Keeps.bind (keeps_get.bind fun _ => fun _ h => h) fun _ => keeps_pure _
  trackFocus on d d' h hd := by
    cases hd
    exact h

/-- **What a step of the pump is**: it is at work, and goes on, unless it ends and brings
nothing to light. -/
theorem advance_cases (h : Device.advance d = some (signals, d')) :
    d.pump.running = true ∧ d'.initial = d.initial
      ∧ (d'.pump = d.pump ∨ signals = [] ∧ d'.pump = d.pump.finish) := by
  simp only [Device.advance, advance, Bool.not_eq_true'] at h
  split at h
  · cases h
  · next hrunning =>
    have hrunning : d.pump.running = true := by simpa using hrunning
    split at h
    · cases h
    · next record incoming hincoming =>
      refine ⟨hrunning, ?_⟩
      have htake := Option.some.inj h
      clear h
      cases record with
      | key r =>
        simp only [take] at htake
        split at htake
        · cases htake
          exact ⟨rfl, .inr ⟨rfl, rfl⟩⟩
        · split at htake <;> cases htake <;> exact ⟨rfl, .inl rfl⟩
      | mouse r =>
        cases htake
        exact ⟨rfl, .inl rfl⟩
      | focus gained =>
        simp only [take] at htake
        split at htake <;> cases htake <;> exact ⟨rfl, .inl rfl⟩
      | resize =>
        cases htake
        exact ⟨rfl, .inl rfl⟩
      | failed =>
        cases htake
        exact ⟨rfl, .inr ⟨rfl, rfl⟩⟩

end ConsoleDevice

/-- **Restoring puts everything back** that the device remembers. -/
theorem Terminal.runOn_restore (t : Terminal ConsoleDevice) :
    (onDevice (α := Unit) Device.restore).runOn t
      = ((t.device.console.putBack t.device.initial).1.result,
          t.changeDevice fun d =>
            { d with console := (t.device.console.putBack t.device.initial).2 }) := by
  have hconsole := Console.runOn_restore t.device.console t.device.initial
  have hdevice : (Device.restore : Action ConsoleDevice Unit).runOn t.device
      = (((Console.restore t.device.initial).runOn t.device.console).1,
          { t.device with
            console := ((Console.restore t.device.initial).runOn t.device.console).2 }) := rfl
  rw [onDevice, Action.runOn_onPart, hdevice, hconsole]
  rfl

namespace SharedConsole

variable {i : ConsoleModes} {s s' : SharedConsole} {c : Nat} {rest : List Nat} {a : Act}

/-! ## What the first caller has reached -/

/-- How far the caller is that came first. -/
def leading (s : SharedConsole) : Stage :=
  match s.called with
  | [] => .idle
  | c :: _ => s.stage c

/-- **The pump at liberty**: nobody waits for its thread, and there is one if there is
something in hand. -/
structure Free (s : SharedConsole) : Prop where
  joining : s.device.pump.pump.joining = false
  thread : s.agenda ≠ [] → s.device.pump.pump.thread.isSome = true

/-- **The pump at rest**: there is no thread, and nothing in hand. -/
structure Quiet (s : SharedConsole) : Prop where
  agenda : s.agenda = []
  running : s.device.pump.running = false

/-- **Everything put back** on a console, and nothing changed since. -/
def BackFrom (i : ConsoleModes) (found : Console) (s : SharedConsole) : Prop :=
  s.device.console.modes = (found.putBack i).2.modes

/-- **What a stage of the first caller means**: whether the terminal is closed, what has run,
what the pump may still do, and what has been put back. -/
def Fits (i : ConsoleModes) (s : SharedConsole) : Stage → Prop
  | .idle => s.terminal.closed = false ∧ s.ran = [] ∧ s.Free
  | .begun | .disowned => s.terminal.closed = true ∧ s.ran = [] ∧ s.Free
  | .halted _ => s.terminal.closed = true ∧ (∃ x, s.ran = [(.stop, x)])
      ∧ s.device.pump.pump.thread = none
  | .stopped => s.terminal.closed = true ∧ (∃ x, s.ran = [(.stop, x)]) ∧ s.Quiet
  | .restored result => s.terminal.closed = true ∧ s.Quiet
      ∧ ∃ x found, s.ran = [(.stop, x), (.restore, found)] ∧ s.BackFrom i found
        ∧ result = (found.putBack i).1.result
  | .returned result => s.terminal.closed = true ∧ s.Quiet
      ∧ ∃ x found y, s.ran = [(.stop, x), (.restore, found), (.release, y)]
        ∧ s.BackFrom i found ∧ ∃ flushed, result = do (found.putBack i).1.result; flushed

/-- **What holds throughout.** The device remembers what the modes were at first, and all
callers but the first have returned. -/
structure Sound (i : ConsoleModes) (s : SharedConsole) : Prop where
  initial : s.device.initial = i
  idle : ∀ c, s.stage c = .idle ↔ c ∉ s.called
  once : s.called.Nodup
  late : ∀ c ∈ s.called.tail, s.stage c = .returned (.ok ())
  fits : s.Fits i s.leading

theorem leading_of_cons (h : s.called = c :: rest) : s.leading = s.stage c := by
  unfold leading
  rw [h]

theorem leading_of_nil (h : s.called = []) : s.leading = .idle := by
  unfold leading
  rw [h]

/-- What keeps a stage: what has run is the same, the pump may do no more than it might, and
once it is at rest the modes stay what they are. -/
theorem Fits.imp {stage : Stage} (h : s.Fits i stage)
    (hclosed : s'.terminal.closed = s.terminal.closed) (hran : s'.ran = s.ran)
    (hfree : s.Free → s'.Free)
    (hthread : s.device.pump.pump.thread = none → s'.device.pump.pump.thread = none)
    (hquiet : s.Quiet → s'.Quiet ∧ s'.device.console.modes = s.device.console.modes) :
    s'.Fits i stage := by
  cases stage with
  | idle | begun | disowned => exact ⟨hclosed.trans h.1, hran.trans h.2.1, hfree h.2.2⟩
  | halted g => exact ⟨hclosed.trans h.1, hran ▸ h.2.1, hthread h.2.2⟩
  | stopped => exact ⟨hclosed.trans h.1, hran ▸ h.2.1, (hquiet h.2.2).1⟩
  | restored result =>
    obtain ⟨hc, hq, x, found, hr, hb, hresult⟩ := h
    obtain ⟨hq', hmodes⟩ := hquiet hq
    exact ⟨hclosed.trans hc, hq', x, found, hran.trans hr, hmodes.trans hb, hresult⟩
  | returned result =>
    obtain ⟨hc, hq, x, found, y, hr, hb, hresult⟩ := h
    obtain ⟨hq', hmodes⟩ := hquiet hq
    exact ⟨hclosed.trans hc, hq', x, found, y, hran.trans hr, hmodes.trans hb, hresult⟩

/-- A stage is a matter of what has run, of what the pump may do, and of the modes. -/
theorem Fits.congr {stage : Stage} (h : s.Fits i stage)
    (hclosed : s'.terminal.closed = s.terminal.closed) (hran : s'.ran = s.ran)
    (hagenda : s'.agenda = s.agenda) (hpump : s'.device.pump = s.device.pump)
    (hmodes : s'.device.console.modes = s.device.console.modes) : s'.Fits i stage :=
  h.imp hclosed hran
    (fun ⟨hjoining, hthread⟩ => ⟨hpump ▸ hjoining, hpump ▸ hagenda ▸ hthread⟩)
    (fun hnone => hpump ▸ hnone)
    (fun ⟨hnil, hrunning⟩ => ⟨⟨hagenda.trans hnil, hpump ▸ hrunning⟩, hmodes⟩)

/-- A section run now is the last of those that ran. -/
theorem ran_note {ran : List (Section × Console)} (h : s.ran = ran) (x : Section) :
    (s.note x).ran = ran ++ [(x, s.device.console)] := by
  rw [← h]
  rfl

/-- Only what has not been called yet is open. -/
theorem Fits.closed {stage : Stage} (h : s.Fits i stage) (hstage : stage ≠ .idle) :
    s.terminal.closed = true := by
  cases stage with
  | idle => exact absurd rfl hstage
  | begun | disowned | halted _ | stopped | restored _ | returned _ => exact h.1

namespace Sound

/-- A caller that is on its way is the first one. -/
theorem first (h : s.Sound i) (hidle : s.stage c ≠ .idle)
    (hreturned : s.stage c ≠ .returned (.ok ())) : ∃ rest, s.called = c :: rest := by
  have hmem : c ∈ s.called :=
    Decidable.byContradiction fun hc => hidle ((h.idle c).mpr hc)
  cases hcalled : s.called with
  | nil => rw [hcalled] at hmem; exact absurd hmem List.not_mem_nil
  | cons d rest =>
    rw [hcalled] at hmem
    rcases List.mem_cons.mp hmem with rfl | hrest
    · exact ⟨rest, rfl⟩
    · exact absurd (h.late c (by rw [hcalled]; exact hrest)) hreturned

/-- What it has reached. -/
theorem fits_first (h : s.Sound i) (hcalled : s.called = c :: rest) : s.Fits i (s.stage c) :=
  leading_of_cons hcalled ▸ h.fits

/-- Before anybody has called the terminal is open. -/
theorem called_eq_nil_iff (h : s.Sound i) : s.called = [] ↔ s.terminal.closed = false := by
  constructor
  · intro hcalled
    have := h.fits
    rw [leading_of_nil hcalled] at this
    exact this.1
  · intro hopen
    cases hcalled : s.called with
    | nil => rfl
    | cons c rest =>
      have hcalledFirst : s.stage c ≠ .idle := fun hidle =>
        (h.idle c).mp hidle (by rw [hcalled]; exact List.mem_cons_self)
      have hclosed := (h.fits_first hcalled).closed hcalledFirst
      rw [hopen] at hclosed
      cases hclosed

/-- Where no caller has moved, it is enough that the stage still fits. -/
theorem of_stage_eq (h : s.Sound i) (hstage : s'.stage = s.stage) (hcalled : s'.called = s.called)
    (hinitial : s'.device.initial = s.device.initial) (hfits : s'.Fits i s.leading) :
    s'.Sound i where
  initial := hinitial.trans h.initial
  idle c := by rw [hstage, hcalled]; exact h.idle c
  once := hcalled ▸ h.once
  late := by rw [hstage, hcalled]; exact h.late
  fits := by
    have : s'.leading = s.leading := by unfold leading; rw [hstage, hcalled]
    rwa [this]

/-- Where the first caller has moved, it is enough that its new stage fits. -/
theorem moved (h : s.Sound i) (hfirst : s.called = c :: rest) (hcalled : s'.called = s.called)
    (hothers : ∀ d, d ≠ c → s'.stage d = s.stage d) (hmoved : s'.stage c ≠ .idle)
    (hinitial : s'.device.initial = s.device.initial) (hfits : s'.Fits i (s'.stage c)) :
    s'.Sound i where
  initial := hinitial.trans h.initial
  idle d := by
    rw [hcalled]
    by_cases hd : d = c
    · subst hd
      exact ⟨fun hidle => absurd hidle hmoved,
        fun hd => absurd (by rw [hfirst]; exact List.mem_cons_self) hd⟩
    · rw [hothers d hd]
      exact h.idle d
  once := hcalled ▸ h.once
  late d hd := by
    rw [hcalled] at hd
    have hne : d ≠ c := by
      rintro rfl
      have honce := h.once
      rw [hfirst] at honce hd
      exact (List.nodup_cons.mp honce).1 hd
    rw [hothers d hne]
    exact h.late d hd
  fits := by
    rw [leading_of_cons (hcalled.trans hfirst)]
    exact hfits

end Sound

/-! ## What each act keeps -/

namespace Sound

theorem operate {o : Operation} (h : s.Sound i) (he : s.Enabled (.operate o)) :
    (s.after (.operate o)).Sound i := by
  have hcalled := h.called_eq_nil_iff.mpr he.1
  have hfits : s.Fits i .idle := leading_of_nil hcalled ▸ h.fits
  have hframe := ConsoleDevice.keeps_frame fun initial q => initial = i ∧ q.pump.joining = false
    ∧ (s.agenda ≠ [] → q.pump.thread.isSome = true)
  have hkeeps : Action.Keeps (Terminal.On false fun d : ConsoleDevice => d.initial = i
      ∧ d.pump.pump.joining = false ∧ (s.agenda ≠ [] → d.pump.pump.thread.isSome = true)) o.run :=
    hframe.run o
      (fun hwaits d hd => ⟨hd.1, SequentialPump.joining_pauseAndWait hd.2.1,
        fun hne => absurd (he.2 hwaits) hne⟩)
      (fun d hd => ⟨hd.1, (SequentialPump.joining_resume _).trans hd.2.1,
        fun _ => SequentialPump.isSome_thread_resume _⟩)
  obtain ⟨hclosed, hinitial, hjoining, hthread⟩ :=
    hkeeps ⟨he.1, h.initial, hfits.2.2.joining, hfits.2.2.thread⟩
  refine h.of_stage_eq rfl rfl (hinitial.trans h.initial.symm) ?_
  rw [leading_of_nil hcalled]
  exact ⟨hclosed, hfits.2.1, hjoining, hthread⟩

theorem hush (h : s.Sound i) (he : s.Enabled .hush) : (s.after .hush).Sound i := by
  have hcalled := h.called_eq_nil_iff.mpr he
  have hfits : s.Fits i .idle := leading_of_nil hcalled ▸ h.fits
  refine h.of_stage_eq rfl rfl rfl ?_
  rw [leading_of_nil hcalled]
  exact ⟨hfits.1, hfits.2.1, hfits.2.2.joining, hfits.2.2.thread⟩

/-- What comes from outside touches neither the pump nor the modes. -/
theorem outside {f : ConsoleDevice → ConsoleDevice} (h : s.Sound i)
    (hinitial : (f s.device).initial = s.device.initial)
    (hpump : (f s.device).pump = s.device.pump)
    (hmodes : (f s.device).console.modes = s.device.console.modes) :
    ({ s with terminal := s.terminal.changeDevice f } : SharedConsole).Sound i :=
  h.of_stage_eq rfl rfl hinitial (h.fits.congr rfl rfl rfl hpump hmodes)

/-- What the thread of the pump does it does before the pump is stopped. -/
theorem thread (h : s.Sound i) (hquiet : ¬ s.Quiet) (hstage : s'.stage = s.stage)
    (hcalled : s'.called = s.called) (hran : s'.ran = s.ran)
    (hclosed : s'.terminal.closed = s.terminal.closed)
    (hinitial : s'.device.initial = s.device.initial) (hfree : s.Free → s'.Free)
    (hthread : s.device.pump.pump.thread = none → s'.device.pump.pump.thread = none) :
    s'.Sound i :=
  h.of_stage_eq hstage hcalled hinitial
    (h.fits.imp hclosed hran hfree hthread fun h => absurd h hquiet)

theorem take (h : s.Sound i) (he : s.Enabled .take) : (s.after .take).Sound i := by
  obtain ⟨hagenda, hsome⟩ := he
  obtain ⟨⟨signals, d⟩, hadvance⟩ := Option.isSome_iff_exists.mp hsome
  obtain ⟨hrunning, hinitial, hpump⟩ := ConsoleDevice.advance_cases hadvance
  have htaken : s.after .take
      = { s with terminal := { s.terminal with device := d }, agenda := signals.map .raise } := by
    show s.taken = _
    unfold taken
    rw [hadvance]
  rw [htaken]
  refine h.thread (fun hquiet => ?_) rfl rfl rfl rfl hinitial (fun hfree => ?_) (fun hnone => ?_)
  · rw [hquiet.running] at hrunning
    cases hrunning
  · rcases hpump with hpump | ⟨rfl, hpump⟩
    · have hthread : s.device.pump.pump.thread.isSome = true := by
        have hjoining := hfree.joining
        rw [SequentialPump.running, Pump.running, hjoining, Bool.or_false] at hrunning
        exact hrunning
      exact ⟨(congrArg (·.pump.joining) hpump).trans hfree.joining,
        fun _ => (congrArg (·.pump.thread.isSome) hpump).trans hthread⟩
    · exact ⟨(congrArg (·.pump.joining) hpump).trans
        ((SequentialPump.joining_finish _).trans hfree.joining), fun hne => absurd rfl hne⟩
  · rcases hpump with hpump | ⟨-, hpump⟩
    · exact (congrArg (·.pump.thread) hpump).trans hnone
    · exact (congrArg (·.pump.thread) (hpump.trans (SequentialPump.finish_of_none hnone))).trans
        hnone

theorem leave (h : s.Sound i) (he : s.Enabled .leave) : (s.after .leave).Sound i := by
  obtain ⟨hagenda, hsome⟩ := he
  refine h.thread (fun hquiet => ?_) rfl rfl rfl rfl rfl (fun hfree => ?_) (fun hnone => ?_)
  · have hrunning : (s.device.pump.pump.thread.isSome || s.device.pump.pump.joining) = false :=
      hquiet.running
    rw [hsome] at hrunning
    cases hrunning
  · exact ⟨(SequentialPump.joining_finish _).trans hfree.joining, fun hne => absurd hagenda hne⟩
  · rw [hnone] at hsome
    cases hsome

theorem work (h : s.Sound i) (he : s.Enabled .work) : (s.after .work).Sound i := by
  -- callbacks change neither what is remembered nor the pump
  have hkeeps := ConsoleDevice.keeps_frame fun initial q =>
    initial = s.device.initial ∧ q = s.device.pump
  have hbefore : s.terminal.On s.terminal.closed fun d =>
      d.initial = s.device.initial ∧ d.pump = s.device.pump := ⟨rfl, rfl, rfl⟩
  obtain ⟨hclosed, hinitial, hpump⟩ := hkeeps.host.work s.agenda hbefore
  refine h.thread (fun hquiet => he hquiet.agenda) rfl rfl rfl hclosed hinitial
    (fun hfree => ?_) (fun hnone => ?_)
  · exact ⟨(congrArg (·.pump.joining) hpump).trans hfree.joining,
      fun _ => (congrArg (·.pump.thread.isSome) hpump).trans (hfree.thread he)⟩
  · exact (congrArg (·.pump.thread) hpump).trans hnone

/-- Calls that come when the terminal has been closed return at once. -/
theorem begin_late (h : s.Sound i) (hnew : c ∉ s.called) {d : Nat} {rest : List Nat}
    (hcalled : s.called = d :: rest) : (s.entered c).Sound i := by
  have hnotIdle : s.stage d ≠ .idle := fun hidle =>
    (h.idle d).mp hidle (by rw [hcalled]; exact List.mem_cons_self)
  have hclosed : s.terminal.closed = true := (h.fits_first hcalled).closed hnotIdle
  have hne : ∀ e ∈ s.called, e ≠ c := fun e he hec => hnew (hec ▸ he)
  rw [entered_of_closed hclosed]
  refine ⟨h.initial, fun e => ?_, ?_, fun e he => ?_, ?_⟩
  · by_cases hec : e = c
    · subst hec
      simp
    · rw [setStage_stage_of_ne hec]
      simp [h.idle e, hec]
  · exact List.nodup_append.mpr ⟨h.once, by simp, fun e he f hf => by
      rw [List.mem_singleton.mp hf]
      exact hne e he⟩
  · rw [setStage_called, hcalled, List.cons_append, List.tail_cons, List.mem_append,
      List.mem_singleton] at he
    rcases he with he | rfl
    · rw [setStage_stage_of_ne (hne e (by rw [hcalled]; exact List.mem_cons_of_mem d he))]
      exact h.late e (by rw [hcalled]; exact he)
    · exact setStage_stage_self
  · have hfirst : ({ s with called := s.called ++ [c] }.setStage c (.returned (.ok ()))).called
        = d :: (rest ++ [c]) := by
      rw [setStage_called, hcalled]
      rfl
    rw [leading_of_cons hfirst,
      setStage_stage_of_ne (hne d (by rw [hcalled]; exact List.mem_cons_self))]
    exact (h.fits_first hcalled).congr rfl rfl rfl rfl rfl

theorem begin (h : s.Sound i) (he : s.Enabled (.begin c)) : (s.after (.begin c)).Sound i := by
  have hnew : c ∉ s.called := (h.idle c).mp he
  show (s.entered c).Sound i
  cases hcalled : s.called with
  | cons d rest => exact h.begin_late hnew hcalled
  | nil =>
    -- nobody has called before: this is the caller that closes
    have hfits : s.Fits i .idle := leading_of_nil hcalled ▸ h.fits
    rw [entered_of_open hfits.1, hcalled]
    refine ⟨h.initial, fun e => ?_, List.pairwise_singleton _ c, fun e he => ?_, ?_⟩
    · by_cases hec : e = c
      · subst hec
        simp
      · rw [setStage_stage_of_ne hec]
        simp [h.idle e, hcalled, hec]
    · exact absurd he List.not_mem_nil
    · rw [@leading_of_cons _ c [] rfl, setStage_stage_self]
      exact ⟨rfl, hfits.2.1, hfits.2.2.joining, hfits.2.2.thread⟩

/-- **The first caller moves on**: what is left of it then, if its new stage fits. -/
theorem step {stage : Stage} (h : s.Sound i) (stage' : Stage) (hstage : s.stage c = stage)
    (hidle : stage ≠ .idle) (hreturned : stage ≠ .returned (.ok ())) (hidle' : stage' ≠ .idle)
    (hcalled : s'.called = s.called) (hmoves : s'.stage = (s.setStage c stage').stage)
    (hinitial : s'.device.initial = s.device.initial)
    (hfits : s.Fits i stage → s'.Fits i stage') : s'.Sound i := by
  obtain ⟨rest, hfirst⟩ := h.first (c := c) (hstage ▸ hidle) (hstage ▸ hreturned)
  have hself : s'.stage c = stage' := by rw [hmoves, setStage_stage_self]
  refine h.moved hfirst hcalled (fun d hd => ?_) (hself ▸ hidle') hinitial ?_
  · rw [hmoves, setStage_stage_of_ne hd]
  · rw [hself]
    exact hfits (hstage ▸ h.fits_first hfirst)

theorem disown (h : s.Sound i) (he : s.Enabled (.disown c)) :
    (s.after (.disown c)).Sound i :=
  h.step .disowned he nofun nofun nofun rfl rfl rfl
    fun ⟨hclosed, hran, hjoining, hthread⟩ => ⟨hclosed, hran, hjoining, hthread⟩

theorem halt (h : s.Sound i) (he : s.Enabled (.halt c)) : (s.after (.halt c)).Sound i := by
  show (s.halted c).Sound i
  cases hthread : s.device.pump.pump.thread with
  | none =>
    rw [halted_of_none hthread]
    refine h.step .stopped he nofun nofun nofun rfl rfl rfl
      fun ⟨hclosed, hran, hfree⟩ => ?_
    have hagenda : s.agenda = [] := Decidable.byContradiction fun hne => by
      have hsome := hfree.thread hne
      rw [hthread] at hsome
      cases hsome
    refine ⟨hclosed, ⟨s.device.console, ran_note hran .stop⟩, hagenda, ?_⟩
    show (s.device.pump.pump.thread.isSome || s.device.pump.pump.joining) = false
    rw [hthread, hfree.joining]
    rfl
  | some g =>
    rw [halted_of_some hthread]
    refine h.step (.halted g) he nofun nofun nofun rfl rfl rfl
      fun ⟨hclosed, hran, _⟩ => ⟨hclosed, ⟨s.device.console, ran_note hran .stop⟩, rfl⟩

theorem join (h : s.Sound i) (he : s.Enabled (.join c)) : (s.after (.join c)).Sound i := by
  obtain ⟨hagenda, g, hstage⟩ := he
  show (s.joined c).Sound i
  rw [joined_of_halted hstage]
  refine h.step .stopped hstage nofun nofun nofun rfl rfl rfl
    fun ⟨hclosed, hran, hthread⟩ => ⟨hclosed, hran, hagenda, ?_⟩
  show Pump.running (s.device.pump.pump.finish g).joined = false
  rw [Pump.finish_of_none hthread, Pump.running, Pump.joined, hthread]
  rfl

theorem restore (h : s.Sound i) (he : s.Enabled (.restore c)) :
    (s.after (.restore c)).Sound i := by
  have hrestore := s.terminal.runOn_restore
  rw [show s.terminal.device.initial = i from h.initial] at hrestore
  show (s.restored c).Sound i
  rw [restored_of_runOn hrestore]
  refine h.step (.restored (s.device.console.putBack i).1.result) he nofun nofun nofun
    rfl rfl rfl
    fun ⟨hclosed, ⟨x, hran⟩, hquiet⟩ => ?_
  exact ⟨hclosed, ⟨hquiet.agenda, hquiet.running⟩, x, s.device.console,
    ran_note hran .restore, rfl, rfl⟩

theorem release {flushed : Except TerminalError Unit} (h : s.Sound i)
    (he : s.Enabled (.release c flushed)) : (s.after (.release c flushed)).Sound i := by
  obtain ⟨result, hstage⟩ := he
  show (s.released c flushed).Sound i
  rw [released_of_restored hstage]
  refine h.step (.returned (do result; flushed)) hstage nofun nofun nofun rfl rfl rfl
    fun ⟨hclosed, hquiet, x, found, hran, hback, hresult⟩ => ?_
  exact ⟨hclosed, ⟨hquiet.agenda, hquiet.running⟩, x, found, s.device.console,
    ran_note hran .release, hback, flushed, by rw [hresult]⟩

/-- **Every act keeps it.** -/
theorem after (h : s.Sound i) (he : s.Enabled a) : (s.after a).Sound i := by
  cases a with
  | operate o => exact h.operate he
  | hush => exact h.hush he
  | report record => exact h.outside rfl rfl rfl
  | window size cursor => exact h.outside rfl rfl rfl
  | take => exact h.take he
  | work => exact h.work he
  | leave => exact h.leave he
  | begin c => exact h.begin he
  | disown c => exact h.disown he
  | halt c => exact h.halt he
  | join c => exact h.join he
  | restore c => exact h.restore he
  | release c flushed => exact h.release he

/-- **Every history keeps it.** -/
theorem play (h : s.Sound i) {history : List Act} (hallowed : Allowed s history) :
    (s.play history).Sound i := by
  induction history with
  | nil => exact h
  | cons a earlier ih => exact (ih hallowed.1).after hallowed.2

end Sound

end SharedConsole

end Teletype
