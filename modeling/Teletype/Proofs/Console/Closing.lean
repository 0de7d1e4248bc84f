import Teletype.Proofs.Console.Closers
import Teletype.Terminal.Open

/-!
# Closing puts a console back

Whatever is done to a terminal on a console and whatever comes in, and whoever closes it
in the end: the pump is stopped, what was changed is put back, and the readers are woken,
once each and in this order. Each of the three modes that the console grants when it is
put back is what it was before the terminal was opened. Only the caller that closed the
terminal can be told of a failure (`SharedConsole.closing_restores`).

Nobody waits for ever, as long as the thread of the pump comes to an end with what it has
in hand (`SharedConsole.Sound.finishes`).

Left alone, the acts are the operations of a terminal: a caller that goes through all the
sections has closed it (`SharedConsole.play_alone`), and a thread that takes a record and
works off what comes of it has taken a step of the pump (`SharedConsole.play_pump`).
-/

namespace Teletype

namespace Terminal

variable {t : Terminal ConsoleDevice}

/-- **Closing a terminal that is open**, section by section. -/
theorem runOn_close (h : t.closed = false) :
    close.runOn t
      = let restored := (onDevice (α := Unit) Device.restore).runOn
          (({ t with closed := true } : Terminal ConsoleDevice).disown.changeDevice Device.stop)
        (restored.1, restored.2.changeDevice Device.release) := by
  have hbegin : t.beginClose = (true, { t with closed := true }) := by
    unfold beginClose
    rw [h]
    rfl
  simp only [close, Action.runOn_bind, Action.runOn_get, Action.runOn_set, hbegin, if_true,
    Action.runOn_modify, Action.runOn_attempt]
  generalize (onDevice (δ := ConsoleDevice) (α := Unit) Device.restore).runOn _ = restored
  obtain ⟨_ | _, _⟩ := restored <;> rfl

end Terminal

namespace SharedConsole

variable {i : ConsoleModes} {s s' : SharedConsole} {c : Nat} {a : Act} {t : Terminal ConsoleDevice}
  {tasks : List Task} {signals : List Signal} {d : ConsoleDevice}

/-! ## The thread of the pump left alone -/

/-- What the thread has in hand can be worked off, if that comes to an end. -/
theorem exists_work (h : Terminal.host.Works s.agenda s.terminal tasks t) :
    ∃ later, (∀ a ∈ later, a = .work) ∧ Allowed s later
      ∧ play s later = { s with agenda := tasks, terminal := t } := by
  generalize hagenda : s.agenda = agenda at h
  generalize hterminal : s.terminal = terminal at h
  induction h generalizing s with
  | refl =>
    subst hagenda hterminal
    exact ⟨[], nofun, trivial, rfl⟩
  | step hne _ ih =>
    subst hagenda hterminal
    obtain ⟨later, hwork, hallowed, hplay⟩ := ih (s := s.worked) rfl rfl
    refine ⟨later ++ [.work], ?_, ?_, ?_⟩
    · intro a ha
      rcases List.mem_append.mp ha with ha | ha
      · exact hwork a ha
      · exact List.mem_singleton.mp ha
    · have hfirst : Allowed s [.work] := ⟨trivial, hne⟩
      exact hfirst.append hallowed
    · exact (play_append ..).trans hplay

/-- **A record taken and worked off is a step of the pump.** -/
theorem play_pump (hagenda : s.agenda = []) (hadvance : Device.advance s.device = some (signals, d))
    (hraise : Terminal.host.raiseAll? signals { s.terminal with device := d } = some t) :
    t = s.terminal.advanceFor 1
      ∧ ∃ later, Allowed s later ∧ play s later = { s with terminal := t } := by
  have htaken : s.taken
      = { s with terminal := { s.terminal with device := d }, agenda := signals.map .raise } := by
    unfold taken
    rw [hadvance]
  have hworks := Host.raiseAll?_works hraise []
  rw [List.append_nil] at hworks
  obtain ⟨later, -, hallowed, hplay⟩ := exists_work (s := s.taken) (by rw [htaken]; exact hworks)
  refine ⟨?_, later ++ [.take], ?_, ?_⟩
  · rw [Terminal.advanceFor, show Device.advance s.terminal.device = _ from hadvance]
    show t = Terminal.host.raiseAll signals _
    rw [Host.raiseAll, hraise]
    rfl
  · have hfirst : Allowed s [.take] :=
      ⟨trivial, hagenda, Option.isSome_of_eq_some hadvance⟩
    exact hfirst.append hallowed
  · rw [play_append]
    refine hplay.trans ?_
    rw [htaken, ← hagenda]

/-! ## A caller left alone -/

/-- A caller that stops the pump, with nothing in hand, does it in one go. -/
theorem play_stop (hstage : s.stage c = .disowned) (hagenda : s.agenda = []) :
    ∃ later, Allowed s later ∧ (play s later).stage c = .stopped
      ∧ (play s later).terminal = s.terminal.changeDevice Device.stop := by
  have hstop : s.terminal.changeDevice Device.stop
      = s.terminal.changeDevice fun d => { d with pump := s.device.pump.pauseAndWait } := rfl
  rw [hstop]
  cases hthread : s.device.pump.pump.thread with
  | none =>
    refine ⟨[.halt c], ⟨trivial, hstage⟩, ?_⟩
    show (s.halted c).stage c = _ ∧ (s.halted c).terminal = _
    have hwait : s.device.pump.pauseAndWait
        = { s.device.pump with pump := s.device.pump.pump.pause } := by
      rw [SequentialPump.pauseAndWait,
        Pump.take_of_none (p := s.device.pump.pump.pause) hthread]
      rfl
    rw [halted_of_none hthread, hwait]
    exact ⟨setStage_stage_self, rfl⟩
  | some g =>
    have hhalted := halted_of_some (c := c) hthread
    have hjoin : (s.halted c).stage c = .halted g := by
      rw [hhalted]
      exact setStage_stage_self
    refine ⟨[.join c, .halt c], ⟨⟨trivial, hstage⟩, ?_, g, hjoin⟩, ?_⟩
    · show (s.halted c).agenda = []
      rw [hhalted]
      exact hagenda
    · show ((s.halted c).joined c).stage c = _ ∧ ((s.halted c).joined c).terminal = _
      have hwait : s.device.pump.pauseAndWait = { s.device.pump with
          pump := Pump.joined (Pump.finish { s.device.pump.pump with
            paused := true, thread := none, joining := true } g)
          ended := s.device.pump.ended + 1 } := by
        rw [SequentialPump.pauseAndWait,
          Pump.take_of_some (p := s.device.pump.pump.pause) hthread]
        rfl
      rw [joined_of_halted hjoin, hhalted, hwait]
      exact ⟨setStage_stage_self, rfl⟩

/-- A caller that has stopped the pump puts everything back, and returns. -/
theorem play_restore (hstage : s.stage c = .stopped) :
    Allowed s [.release c (.ok ()), .restore c]
      ∧ (play s [.release c (.ok ()), .restore c]).stage c
          = .returned ((Terminal.onDevice (α := Unit) Device.restore).runOn s.terminal).1
      ∧ (play s [.release c (.ok ()), .restore c]).terminal
          = ((Terminal.onDevice (α := Unit) Device.restore).runOn s.terminal).2.changeDevice
              Device.release := by
  have hrestored := restored_of_runOn (c := c)
    (Eq.refl ((Terminal.onDevice (α := Unit) Device.restore).runOn s.terminal))
  have hstage' : (s.restored c).stage c
      = .restored ((Terminal.onDevice (α := Unit) Device.restore).runOn s.terminal).1 := by
    rw [hrestored]
    exact setStage_stage_self
  refine ⟨⟨⟨trivial, hstage⟩, _, hstage'⟩, ?_⟩
  show ((s.restored c).released c (.ok ())).stage c = _
    ∧ ((s.restored c).released c (.ok ())).terminal = _
  rw [released_of_restored hstage', hrestored]
  refine ⟨setStage_stage_self.trans (congrArg Stage.returned ?_), rfl⟩
  generalize ((Terminal.onDevice (α := Unit) Device.restore).runOn s.terminal).1 = result
  cases result <;> rfl

/-- **A caller that goes through all the sections has closed the terminal**, with the result
that closing has when the output can be flushed. -/
theorem play_alone (hstage : s.stage c = .idle) (hopen : s.terminal.closed = false)
    (hagenda : s.agenda = []) :
    ∃ later, Allowed s later
      ∧ (play s later).stage c = .returned (Terminal.close.runOn s.terminal).1
      ∧ (play s later).terminal = (Terminal.close.runOn s.terminal).2 := by
  have hbegun : (s.entered c).stage c = .begun := by
    rw [entered_of_open hopen]
    exact setStage_stage_self
  have hallowed : Allowed s [.disown c, .begin c] := ⟨⟨trivial, hstage⟩, hbegun⟩
  have hterminal : (play s [.disown c, .begin c]).terminal
      = ({ s.terminal with closed := true } : Terminal ConsoleDevice).disown := by
    show (s.entered c).terminal.disown = _
    rw [entered_of_open hopen]
    rfl
  have hagenda' : (play s [.disown c, .begin c]).agenda = [] := by
    show (s.entered c).agenda = []
    rw [entered_of_open hopen]
    exact hagenda
  have hdisowned : (play s [.disown c, .begin c]).stage c = .disowned := setStage_stage_self
  obtain ⟨stop, hstop, hstopped, hterminal'⟩ := play_stop hdisowned hagenda'
  obtain ⟨hback, hreturned, hclosed⟩ := play_restore hstopped
  refine ⟨[.release c (.ok ()), .restore c] ++ (stop ++ [.disown c, .begin c]), ?_, ?_⟩
  · exact (hallowed.append hstop).append (by rwa [play_append])
  · rw [play_append, play_append, Terminal.runOn_close hopen, ← hterminal, ← hterminal']
    exact ⟨hreturned, hclosed⟩

/-- **Whether an act only goes on with what is under way**: nobody calls, and nothing comes
in. -/
def Act.Proceeds : Act → Prop
  | .work | .disown _ | .halt _ | .join _ | .restore _ | .release .. => True
  | .operate _ | .hush | .report _ | .window .. | .take | .leave | .begin _ => False

/-- **All that have called have returned.** -/
def Settled (s : SharedConsole) : Prop :=
  ∀ c, s.stage c = .idle ∨ ∃ result, s.stage c = .returned result

/-- **What is under way can come to an end**: all that have called can return. -/
def Finishes (s : SharedConsole) : Prop :=
  ∃ later, (∀ a ∈ later, a.Proceeds) ∧ Allowed s later ∧ (play s later).Settled

/-- What comes to an end after an act comes to an end with it. -/
theorem Finishes.of_play {later : List Act} (hproceeds : ∀ a ∈ later, a.Proceeds)
    (hallowed : Allowed s later) (h : (play s later).Finishes) : s.Finishes := by
  obtain ⟨rest, hrest, hallowed', hsettled⟩ := h
  refine ⟨rest ++ later, fun a ha => ?_, hallowed.append hallowed', ?_⟩
  · exact (List.mem_append.mp ha).elim (hrest a) (hproceeds a)
  · rwa [play_append]

theorem Finishes.of_after (ha : a.Proceeds) (he : s.Enabled a) (h : (s.after a).Finishes) :
    s.Finishes := by
  have hproceeds : ∀ b ∈ [a], b.Proceeds := fun b hb => List.mem_singleton.mp hb ▸ ha
  exact .of_play hproceeds ⟨trivial, he⟩ h

namespace Sound

/-- With the first caller, all have returned. -/
theorem settled (h : s.Sound i)
    (hleading : s.leading = .idle ∨ ∃ result, s.leading = .returned result) : s.Settled := by
  intro e
  by_cases he : e ∈ s.called
  · cases hcalled : s.called with
    | nil => exact absurd (hcalled ▸ he) List.not_mem_nil
    | cons c rest =>
      rw [hcalled] at he
      rcases List.mem_cons.mp he with rfl | he
      · rwa [leading_of_cons hcalled] at hleading
      · exact .inr ⟨_, h.late e (by rw [hcalled]; exact he)⟩
  · exact .inl ((h.idle e).mpr he)

theorem finishes_of_restored {result : Except TerminalError Unit} (h : s.Sound i)
    (hstage : s.stage c = .restored result) : s.Finishes := by
  have he : s.Enabled (.release c (.ok ())) := ⟨result, hstage⟩
  obtain ⟨rest, hfirst⟩ := h.first (c := c) (by rw [hstage]; nofun) (by rw [hstage]; nofun)
  refine .of_after (a := .release c (.ok ())) trivial he
    ⟨[], nofun, trivial, (h.release he).settled (.inr ⟨do result; .ok (), ?_⟩)⟩
  have hcalled : (s.released c (.ok ())).called = c :: rest := by
    rw [released_of_restored hstage]
    exact hfirst
  refine (leading_of_cons hcalled).trans ?_
  rw [released_of_restored hstage]
  exact setStage_stage_self

theorem finishes_of_stopped (h : s.Sound i) (hstage : s.stage c = .stopped) : s.Finishes :=
  .of_after (a := .restore c) trivial hstage
    ((h.restore hstage).finishes_of_restored setStage_stage_self)

theorem finishes_of_halted {g : Nat} (h : s.Sound i) (hagenda : s.agenda = [])
    (hstage : s.stage c = .halted g) : s.Finishes := by
  have he : s.Enabled (.join c) := ⟨hagenda, g, hstage⟩
  have hjoined := h.join he
  refine .of_after (a := .join c) trivial he (hjoined.finishes_of_stopped (c := c) ?_)
  show (s.joined c).stage c = _
  rw [joined_of_halted hstage]
  exact setStage_stage_self

theorem finishes_of_disowned (h : s.Sound i) (hagenda : s.agenda = [])
    (hstage : s.stage c = .disowned) : s.Finishes := by
  have hhalted := h.halt (c := c) hstage
  refine .of_after (a := .halt c) trivial hstage ?_
  rw [show s.after (.halt c) = s.halted c from rfl] at hhalted ⊢
  cases hthread : s.device.pump.pump.thread with
  | none =>
    rw [halted_of_none hthread] at hhalted ⊢
    exact hhalted.finishes_of_stopped setStage_stage_self
  | some g =>
    rw [halted_of_some hthread] at hhalted ⊢
    exact hhalted.finishes_of_halted hagenda setStage_stage_self

theorem finishes_of_begun (h : s.Sound i) (hagenda : s.agenda = [])
    (hstage : s.stage c = .begun) : s.Finishes :=
  .of_after (a := .disown c) trivial hstage
    ((h.disown (c := c) hstage).finishes_of_disowned hagenda setStage_stage_self)

/-- What has run is the beginning of all that is to run. -/
theorem ran_prefix (h : s.Sound i) :
    s.ran.map Prod.fst <+: [.stop, .restore, .release] := by
  have hfits := h.fits
  cases hleading : s.leading with
  | idle | begun | disowned =>
    rw [hleading] at hfits
    rw [hfits.2.1]
    exact List.nil_prefix
  | halted _ | stopped =>
    rw [hleading] at hfits
    obtain ⟨x, hran⟩ := hfits.2.1
    rw [hran]
    exact ⟨[.restore, .release], rfl⟩
  | restored _ =>
    rw [hleading] at hfits
    obtain ⟨x, found, hran, -⟩ := hfits.2.2
    rw [hran]
    exact ⟨[.release], rfl⟩
  | returned _ =>
    rw [hleading] at hfits
    obtain ⟨x, found, y, hran, -⟩ := hfits.2.2
    rw [hran]
    exact ⟨[], rfl⟩

/-- With nothing in hand, all that have called can return. -/
theorem finishes_of_agenda (h : s.Sound i) (hagenda : s.agenda = []) : s.Finishes := by
  cases hcalled : s.called with
  | nil => exact ⟨[], nofun, trivial, h.settled (.inl (leading_of_nil hcalled))⟩
  | cons c rest =>
    cases hstage : s.stage c with
    | idle => exact absurd (hcalled ▸ List.mem_cons_self) ((h.idle c).mp hstage)
    | begun => exact h.finishes_of_begun hagenda hstage
    | disowned => exact h.finishes_of_disowned hagenda hstage
    | halted g => exact h.finishes_of_halted hagenda hstage
    | stopped => exact h.finishes_of_stopped hstage
    | restored result => exact h.finishes_of_restored hstage
    | returned result =>
      have hleading := (leading_of_cons hcalled).trans hstage
      exact ⟨[], nofun, trivial, h.settled (.inr ⟨result, hleading⟩)⟩

/-- **All that have called can return**, if what the thread of the pump has in hand comes to
an end. -/
theorem finishes (h : s.Sound i) (hworks : Terminal.host.Works s.agenda s.terminal [] t) :
    s.Finishes := by
  obtain ⟨later, hwork, hallowed, hplay⟩ := exists_work hworks
  refine .of_play (fun a ha => hwork a ha ▸ trivial) hallowed ?_
  exact (h.play hallowed).finishes_of_agenda (by rw [hplay])

end Sound

/-! ## From opening to closing -/

section Opened

variable {programs : Programs} {config : Config} {registry : Registry Unit} {name : String}
  {sink : Sink} {console left : Console} {history : List Act}

/-- **A terminal that has just been opened** remembers what the modes were before. -/
theorem sound_new
    (h : (Terminal.openConsole programs config registry name sink).runOn console = (.ok t, left)) :
    (new t).Sound console.modes := by
  obtain ⟨⟨type, d⟩, _, hprepare, h⟩ := Action.runOn_bind_eq_ok h
  obtain ⟨hinitial, hpump⟩ := ConsoleDevice.initial_of_prepare hprepare
  have hjoining : d.pump.pump.joining = false := by rw [hpump]
  cases h
  unfold Terminal.started
  split
  · exact ⟨hinitial, fun c => by simp [new], List.nodup_nil, nofun, rfl, rfl, hjoining,
      fun hne => absurd rfl hne⟩
  · exact ⟨hinitial, fun c => by simp [new], List.nodup_nil, nofun, rfl, rfl,
      (SequentialPump.joining_resume _).trans hjoining, fun hne => absurd rfl hne⟩

/-- **Closing restores the console.** After any operations, records and calls to close, in
any interleaving and whatever fails: what has run of the sections is the beginning of
stopping, restoring and releasing, in this order, and only the first caller can have got a
failure. What is under way can come to an end, if what the thread of the pump has in hand
does.

When all that have called have returned, each section has run once. The first caller has got
the first failure to put something back, or else what came of flushing the output, and each
mode that was put back without a failure is what it was before the terminal was opened,
whatever became of the other two. -/
theorem closing_restores
    (h : (Terminal.openConsole programs config registry name sink).runOn console = (.ok t, left))
    (hallowed : Allowed (new t) history) :
    let s := play (new t) history
    s.ran.map Prod.fst <+: [.stop, .restore, .release]
    ∧ (∀ c result, s.stage c = .returned result → result = .ok () ∨ s.called.head? = some c)
    ∧ (∀ t', Terminal.host.Works s.agenda s.terminal [] t' → s.Finishes)
    ∧ (s.called ≠ [] → s.Settled →
        ∃ x found y, s.ran = [(.stop, x), (.restore, found), (.release, y)]
          ∧ (∀ c, s.called.head? = some c → ∃ flushed,
              s.stage c = .returned (do (found.putBack console.modes).1.result; flushed))
          ∧ ((found.putBack console.modes).1.input = .ok () →
              s.device.console.modes.input = console.modes.input)
          ∧ ((found.putBack console.modes).1.output = .ok () →
              s.device.console.modes.output = console.modes.output)
          ∧ ((found.putBack console.modes).1.codePage = .ok () →
              s.device.console.modes.codePage = console.modes.codePage)) := by
  intro s
  have hsound : s.Sound console.modes := (sound_new h).play hallowed
  refine ⟨hsound.ran_prefix, fun c result hresult => ?_, fun t' => hsound.finishes, ?_⟩
  · by_cases hok : result = .ok ()
    · exact .inl hok
    · obtain ⟨rest, hfirst⟩ := hsound.first (c := c) (by rw [hresult]; nofun)
        (by rw [hresult]; simpa using hok)
      exact .inr (by rw [hfirst]; rfl)
  · intro hcalled hsettled
    obtain ⟨c, rest, hfirst⟩ := List.exists_cons_of_ne_nil hcalled
    obtain ⟨result, hresult⟩ := (hsettled c).resolve_left fun hidle =>
      (hsound.idle c).mp hidle (hfirst ▸ List.mem_cons_self)
    have hfits := hsound.fits_first hfirst
    rw [hresult] at hfits
    obtain ⟨-, -, x, found, y, hran, hback, flushed, hflushed⟩ := hfits
    obtain ⟨hinput, houtput, hpage⟩ := found.putBack_spec console.modes
    rw [← (hback : _ = _)] at hinput houtput hpage
    refine ⟨x, found, y, hran, fun d hd => ?_, hinput, houtput, hpage⟩
    rw [hfirst, List.head?_cons, Option.some.injEq] at hd
    exact ⟨flushed, by rw [← hd, hresult, hflushed]⟩

/-- A console whose output mode cannot be put back, in its eighth call. -/
def stuck : Console :=
  { modes := ⟨0xe7, 3, 437⟩
    size := ⟨120, 30⟩
    cursor := ⟨7, 3⟩
    fails := fun n _ => n == 7 }

/-- Raw mode is entered, and then two callers close the terminal. -/
def race : List Act :=
  [.release 2 (.ok ()), .restore 2, .join 2, .halt 2, .disown 2, .begin 1, .begin 2,
    .operate .enterRawMode]

/-- The first of the two is told that something could not be put back; input mode and code
page are what they were. -/
theorem closing_restores_stuck : ∃ t left,
    (Terminal.openConsole .none { type := "ansi" } {} "console" .endless).runOn stuck = (.ok t, left)
      ∧ Allowed (new t) race ∧ (play (new t) race).called = [2, 1] ∧ (play (new t) race).Settled
      ∧ (play (new t) race).ran.map Prod.fst = [.stop, .restore, .release]
      ∧ (∃ e, (play (new t) race).stage 2 = .returned (.error e))
      ∧ (play (new t) race).stage 1 = .returned (.ok ())
      ∧ (play (new t) race).device.console.modes
          = { stuck.modes with output := stuck.modes.output ||| Console.escapeSequences } := by
  have hopen : ∃ t left,
      (Terminal.openConsole .none { type := "ansi" } {} "console" .endless).runOn stuck
          = (.ok t, left)
        ∧ Allowed (new t) race ∧ (play (new t) race).called = [2, 1]
        ∧ (∃ e, (play (new t) race).stage 2 = .returned (.error e))
        ∧ (play (new t) race).stage 1 = .returned (.ok ())
        ∧ (play (new t) race).device.console.modes
            = { stuck.modes with output := stuck.modes.output ||| Console.escapeSequences } :=
    ⟨_, _, rfl,
      ⟨⟨⟨⟨⟨⟨⟨⟨trivial, rfl, nofun⟩, rfl⟩, rfl⟩, rfl⟩, rfl⟩, rfl, _, rfl⟩, rfl⟩, _, rfl⟩,
      rfl, ⟨_, rfl⟩, rfl, rfl⟩
  obtain ⟨t, left, hopen, hallowed, hcalled, ⟨e, hfirst⟩, hsecond, hmodes⟩ := hopen
  have hsettled := ((sound_new hopen).play hallowed).settled
    (.inr ⟨_, (leading_of_cons hcalled).trans hfirst⟩)
  obtain ⟨-, -, -, hrestores⟩ := closing_restores hopen hallowed
  obtain ⟨x, found, y, hran, -⟩ := hrestores (by rw [hcalled]; nofun) hsettled
  exact ⟨t, left, hopen, hallowed, hcalled, hsettled, by rw [hran]; rfl, ⟨e, hfirst⟩, hsecond,
    hmodes⟩

end Opened

end SharedConsole

end Teletype
