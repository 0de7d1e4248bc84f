import Teletype.Device.Console
import Teletype.Signal.Agenda
import Teletype.Terminal.Operation

/-!
# A console with its pump and its closers at work

A terminal on a console is used, record after record comes in, and in the end it is
closed, perhaps by several callers at once. Here all of them are at work at the same
time. The thread of the pump takes a record and then raises the signals that it brings
to light, bit by bit, and whatever else happens may happen between two bits. Operations
are done in one go, and only until somebody closes the terminal; one that waits for the
thread is done when the thread has nothing in hand. The pump can also be paused without
waiting, and then its thread is through some time later.

A call that closes goes through the sections of `Terminal.close` one by one, and stopping
the pump is two of them: the thread is told to stop, and once it has nothing in hand it
is gone. Until then it may still take what comes in. A caller that is not the first
returns at once. A terminal that is dropped has one more caller. None of them is the
thread of the pump, which would wait for itself. What is known of the callers is in which
order they came and how far each of them is; and of the sections that do the work, which
of them ran, in order, and what each found the console to be.

A history is a list of acts, the latest first.
-/

namespace Teletype

namespace SharedConsole

/-- **How far a call that closes is.** -/
inductive Stage where
  /-- It has not been made. -/
  | idle
  /-- It is the one that closes the terminal. -/
  | begun
  /-- It has given up the registrations. -/
  | disowned
  /-- It has told a thread to stop, and waits until that is gone. -/
  | halted (thread : Nat)
  /-- The pump is stopped. -/
  | stopped
  /-- What was changed has been put back, with this result. -/
  | restored (result : Except TerminalError Unit)
  /-- It has returned. -/
  | returned (result : Except TerminalError Unit)

/-- **The sections of closing** that do the work. -/
inductive Section where
  /-- The pump is stopped. -/
  | stop
  /-- What was changed is put back. -/
  | restore
  /-- Readers are woken. -/
  | release
  deriving DecidableEq

/-- **What may happen next.** -/
inductive Act where
  /-- An operation is done. -/
  | operate (o : Operation)
  /-- The pump is paused by somebody who does not wait for its thread. -/
  | hush
  /-- The console reports something. -/
  | report (record : ConsoleRecord)
  /-- The window changes its size, and the cursor its place. -/
  | window (size : Size) (cursor : Cursor)
  /-- The thread of the pump takes a record. -/
  | take
  /-- The thread of the pump does the next thing that it has in hand. -/
  | work
  /-- The thread of the pump is through. -/
  | leave
  /-- Somebody calls to close the terminal. -/
  | begin (c : Nat)
  /-- A caller gives up the registrations. -/
  | disown (c : Nat)
  /-- A caller tells the thread of the pump to stop. -/
  | halt (c : Nat)
  /-- A caller has waited until the thread was gone. -/
  | join (c : Nat)
  /-- A caller puts back what was changed. -/
  | restore (c : Nat)
  /-- A caller wakes the readers and flushes the output, with this result, and
  returns. -/
  | release (c : Nat) (flushed : Except TerminalError Unit)

end SharedConsole

/-- **A terminal on a console whose pump and whose closers are at work.** -/
structure SharedConsole where
  /-- The terminal. -/
  terminal : Terminal ConsoleDevice
  /-- What the thread of the pump has in hand. -/
  agenda : List Task := []
  /-- How far each caller is. -/
  stage : Nat → SharedConsole.Stage := fun _ => .idle
  /-- Who has called, in order. -/
  called : List Nat := []
  /-- The sections that ran, in order, each with the console that it found. -/
  ran : List (SharedConsole.Section × Console) := []

namespace SharedConsole

/-- The device. -/
def device (s : SharedConsole) : ConsoleDevice := s.terminal.device

/-- The device with another pump. -/
def setPump (s : SharedConsole) (pump : SequentialPump) : SharedConsole :=
  { s with terminal := s.terminal.changeDevice fun d => { d with pump } }

/-- A caller further on. -/
def setStage (s : SharedConsole) (c : Nat) (stage : Stage) : SharedConsole :=
  { s with stage := fun d => if d = c then stage else s.stage d }

/-- A section run now. -/
def note (s : SharedConsole) (x : Section) : SharedConsole :=
  { s with ran := s.ran ++ [(x, s.device.console)] }

/-- A record taken by the pump. -/
def taken (s : SharedConsole) : SharedConsole :=
  match Device.advance s.device with
  | none => s
  | some (signals, device) =>
    { s with terminal := { s.terminal with device }, agenda := signals.map .raise }

/-- The next thing done that the pump has in hand. -/
def worked (s : SharedConsole) : SharedConsole :=
  let (agenda, terminal) := Terminal.host.work s.agenda s.terminal
  { s with agenda, terminal }

/-- A call to close: only the first closes. -/
def entered (s : SharedConsole) (c : Nat) : SharedConsole :=
  let (first, terminal) := s.terminal.beginClose
  { s with terminal, called := s.called ++ [c] }.setStage c
    (if first then .begun else .returned (.ok ()))

/-- The thread told to stop. -/
def halted (s : SharedConsole) (c : Nat) : SharedConsole :=
  let s := s.note .stop
  match s.device.pump.pump.pause.take with
  | (none, pump) => (s.setPump { s.device.pump with pump }).setStage c .stopped
  | (some g, pump) => (s.setPump { s.device.pump with pump }).setStage c (.halted g)

/-- The thread gone. -/
def joined (s : SharedConsole) (c : Nat) : SharedConsole :=
  match s.stage c with
  | .halted g =>
    (s.setPump { s.device.pump with
      pump := (s.device.pump.pump.finish g).joined
      ended := s.device.pump.ended + 1 }).setStage c .stopped
  | _ => s

/-- What was changed put back. -/
def restored (s : SharedConsole) (c : Nat) : SharedConsole :=
  let (result, terminal) := (Terminal.onDevice (α := Unit) Device.restore).runOn s.terminal
  { s.note .restore with terminal }.setStage c (.restored result)

/-- Readers woken. That the output cannot be flushed is only of interest if everything has
been put back. -/
def released (s : SharedConsole) (c : Nat) (flushed : Except TerminalError Unit) :
    SharedConsole :=
  match s.stage c with
  | .restored result =>
    { s.note .release with terminal := s.terminal.changeDevice Device.release }.setStage c
      (.returned (do result; flushed))
  | _ => s

/-- **When an act can be done.** -/
def Enabled (s : SharedConsole) : Act → Prop
  | .operate o => s.terminal.closed = false ∧ (o.waits = true → s.agenda = [])
  | .hush => s.terminal.closed = false
  | .report _ | .window .. => True
  | .take => s.agenda = [] ∧ (Device.advance s.device).isSome = true
  | .work => s.agenda ≠ []
  | .leave => s.agenda = [] ∧ s.device.pump.pump.thread.isSome = true
  | .begin c => s.stage c = .idle
  | .disown c => s.stage c = .begun
  | .halt c => s.stage c = .disowned
  | .join c => s.agenda = [] ∧ ∃ g, s.stage c = .halted g
  | .restore c => s.stage c = .stopped
  | .release c _ => ∃ result, s.stage c = .restored result

/-- **What an act does.** -/
def after (s : SharedConsole) : Act → SharedConsole
  | .operate o => { s with terminal := (o.run.runOn s.terminal).2 }
  | .hush => s.setPump { s.device.pump with pump := s.device.pump.pump.pause }
  | .report record =>
    { s with
      terminal := s.terminal.changeDevice fun d => { d with incoming := d.incoming ++ [record] } }
  | .window size cursor =>
    { s with
      terminal := s.terminal.changeDevice fun d =>
        { d with console := { d.console with size, cursor } } }
  | .take => s.taken
  | .work => s.worked
  | .leave => s.setPump s.device.pump.finish
  | .begin c => s.entered c
  | .disown c => { s with terminal := s.terminal.disown }.setStage c .disowned
  | .halt c => s.halted c
  | .join c => s.joined c
  | .restore c => s.restored c
  | .release c flushed => s.released c flushed

/-- A terminal that has just been opened. -/
def new (terminal : Terminal ConsoleDevice) : SharedConsole := { terminal }

/-! ## Histories -/

/-- **What a history leaves.** -/
def play (start : SharedConsole) : List Act → SharedConsole
  | [] => start
  | a :: earlier => (play start earlier).after a

/-- **Whether a history can be**: each act could be done when it was. -/
def Allowed (start : SharedConsole) : List Act → Prop
  | [] => True
  | a :: earlier => Allowed start earlier ∧ (play start earlier).Enabled a

/-- What comes later goes on from what was left. -/
theorem play_append (start : SharedConsole) (later earlier : List Act) :
    play start (later ++ earlier) = play (play start earlier) later := by
  induction later with
  | nil => rfl
  | cons a later ih => exact congrArg (·.after a) ih

theorem Allowed.append {start : SharedConsole} {later earlier : List Act}
    (h : Allowed start earlier) (hlater : Allowed (play start earlier) later) :
    Allowed start (later ++ earlier) := by
  induction later with
  | nil => exact h
  | cons a later ih => exact ⟨ih hlater.1, (play_append ..).symm ▸ hlater.2⟩

/-! ## What an act comes to -/

section

variable {s : SharedConsole} {c d : Nat} {stage : Stage}

@[simp] theorem setStage_stage_self : (s.setStage c stage).stage c = stage := if_pos rfl

theorem setStage_stage_of_ne (h : d ≠ c) : (s.setStage c stage).stage d = s.stage d := if_neg h

@[simp] theorem setStage_called : (s.setStage c stage).called = s.called := rfl

theorem entered_of_open (h : s.terminal.closed = false) :
    s.entered c = { s with
      terminal := { s.terminal with closed := true }
      called := s.called ++ [c] }.setStage c .begun := by
  unfold entered Terminal.beginClose
  rw [h]
  rfl

theorem entered_of_closed (h : s.terminal.closed = true) :
    s.entered c = { s with called := s.called ++ [c] }.setStage c (.returned (.ok ())) := by
  have hsame : { s.terminal with closed := true } = s.terminal := by rw [← h]
  unfold entered Terminal.beginClose
  rw [hsame, h]
  rfl

theorem halted_of_none (h : s.device.pump.pump.thread = none) :
    s.halted c = ((s.note .stop).setPump
      { s.device.pump with pump := s.device.pump.pump.pause }).setStage c .stopped := by
  unfold halted
  dsimp only
  rw [show (s.note .stop).device = s.device from rfl,
    Pump.take_of_none (p := s.device.pump.pump.pause) h]
  rfl

theorem halted_of_some {g : Nat} (h : s.device.pump.pump.thread = some g) :
    s.halted c = ((s.note .stop).setPump { s.device.pump with
      pump := { s.device.pump.pump with
        paused := true, thread := none, joining := true } }).setStage c (.halted g) := by
  unfold halted
  dsimp only
  rw [show (s.note .stop).device = s.device from rfl,
    Pump.take_of_some (p := s.device.pump.pump.pause) h]
  rfl

theorem joined_of_halted {g : Nat} (h : s.stage c = .halted g) :
    s.joined c = (s.setPump { s.device.pump with
      pump := (s.device.pump.pump.finish g).joined
      ended := s.device.pump.ended + 1 }).setStage c .stopped := by
  unfold joined
  rw [h]

theorem restored_of_runOn {result : Except TerminalError Unit} {t : Terminal ConsoleDevice}
    (h : (Terminal.onDevice (α := Unit) Device.restore).runOn s.terminal = (result, t)) :
    s.restored c = { s.note .restore with terminal := t }.setStage c (.restored result) := by
  unfold restored
  rw [h]

theorem released_of_restored {result : Except TerminalError Unit}
    (h : s.stage c = .restored result) (flushed : Except TerminalError Unit) :
    s.released c flushed = { s.note .release with
      terminal := s.terminal.changeDevice Device.release }.setStage c
        (.returned (do result; flushed)) := by
  unfold released
  rw [h]

end

end SharedConsole

end Teletype
