import Teletype.Device.Stream
import Teletype.Proofs.Signal.Agenda
import Teletype.Proofs.Terminal.Keeping
import Teletype.Proofs.Terminal.Refusing
import Teletype.Terminal.Open
import Teletype.Terminal.Reentrant

/-!
# Closed terminals are frozen

Of a device whose line discipline is in software there is to be seen what attributes and
what size it has, what the modes of its console are, if it has one, and its discipline
with all that this is connected to: the queue of its reader, and the sink with whatever
was put out. When a terminal on such a device has been closed, is strict, and its pump is
not at work any more, nothing of this changes again, whoever does what to it
(`Reentrant.run_closed`).

Most operations are refused. Of those that are not, the ones that would change something
ask before they do, and so do callbacks: a callback that runs on a closed terminal can
leave marks and install handlers, and no more. The pump cannot come back, for to resume it
is refused, too.
-/

namespace Teletype

open Teletype.Action

/-- **What is to be seen of a device** with a line discipline in software. -/
structure DeviceView where
  /-- The attributes. -/
  attributes : Attributes
  /-- The size. -/
  size : Size
  /-- The modes of the console, if there is one. -/
  modes : Option ConsoleModes
  /-- The discipline, with its queue and with the sink of its output. -/
  discipline : Discipline

/-- **A device with a line discipline in software**, which a pump feeds. -/
class SoftDevice (δ : Type) [Device δ] where
  /-- What is to be seen of it. -/
  view : δ → DeviceView
  /-- Whether the pump is at work. -/
  running : δ → Bool
  /-- Asking for the cursor changes nothing that is to be seen. -/
  view_cursor (d : δ) : view ((Device.cursor : Action δ (Option Cursor)).runOn d).2 = view d
  /-- Asking for the cursor leaves the pump alone. -/
  running_cursor (d : δ) :
    running ((Device.cursor : Action δ (Option Cursor)).runOn d).2 = running d
  /-- Pausing changes nothing that is to be seen. -/
  view_pause (d : δ) : view (Device.pause d) = view d
  /-- Pausing starts no pump. -/
  running_pause (d : δ) : running d = false → running (Device.pause d) = false
  /-- Without the pump nothing is passed on. -/
  advance_of_idle (d : δ) : running d = false → Device.advance d = none

/-- Pausing starts no pump. -/
theorem SequentialPump.running_pauseAndWait {p : SequentialPump} (h : p.running = false) :
    p.pauseAndWait.running = false := by
  obtain ⟨hthread, hjoining⟩ := Bool.or_eq_false_iff.mp h
  have hnone : p.pump.thread = none := Option.not_isSome_iff_eq_none.mp (by simp [hthread])
  unfold pauseAndWait
  rw [Pump.take_of_none (p := p.pump.pause) hnone]
  exact h

instance : SoftDevice StreamDevice where
  view d := ⟨d.attributes, d.size, none, d.discipline⟩
  running d := d.pump.running
  view_cursor _ := rfl
  running_cursor _ := rfl
  view_pause _ := rfl
  running_pause _ h := SequentialPump.running_pauseAndWait h
  advance_of_idle d h := by
    show StreamDevice.advance d = none
    rw [StreamDevice.advance, h]
    rfl

/-- Asking a console for the place of its cursor is a call, and nothing else. -/
theorem Console.left_getCursor (c : Console) :
    (Console.getCursor.runOn c).2 = { c with count := c.count + 1 } := by
  unfold getCursor call
  simp only [runOn_bind, runOn_get, runOn_set]
  cases c.fails c.count .cursor <;> rfl

theorem ConsoleDevice.left_cursor (d : ConsoleDevice) :
    ((Device.cursor : Action ConsoleDevice (Option Cursor)).runOn d).2
      = { d with console := { d.console with count := d.console.count + 1 } } := by
  have hcursor : ((Device.cursor : Action ConsoleDevice (Option Cursor)).runOn d).2
      = { d with console := (Console.getCursor.runOn d.console).2 } := by
    show ((do pure (some (← onConsole Console.getCursor)) : Action ConsoleDevice _).runOn d).2 = _
    rw [runOn_bind, onConsole, runOn_onPart]
    generalize Console.getCursor.runOn d.console = r
    obtain ⟨_ | c, console⟩ := r <;> rfl
  rw [hcursor, Console.left_getCursor]

instance : SoftDevice ConsoleDevice where
  view d := ⟨d.attributes, d.console.size, some d.console.modes, d.discipline⟩
  running d := d.pump.running
  view_cursor d := by rw [ConsoleDevice.left_cursor]
  running_cursor d := by rw [ConsoleDevice.left_cursor]
  view_pause _ := rfl
  running_pause _ h := SequentialPump.running_pauseAndWait h
  advance_of_idle d h := by
    show ConsoleDevice.advance d = none
    rw [ConsoleDevice.advance, h]
    rfl

namespace Terminal

variable {δ α : Type} [Device δ] {t : Terminal δ}

/-- However closing goes, a strict terminal refuses from then on. -/
theorem refuses_close (hstrict : t.strict = true) : (close.runOn t).2.refuses = true := by
  cases hclosed : t.closed with
  | true =>
    rw [runOn_close_of_closed hclosed, refuses, hclosed, hstrict]
    rfl
  | false =>
    rw [left_close_of_open hclosed]
    exact hstrict

variable [SoftDevice δ] {v : DeviceView}

/-- **A terminal that is frozen**: it refuses, what is to be seen of its device is settled,
and the pump is not at work. -/
structure Frozen (v : DeviceView) (t : Terminal δ) : Prop where
  /-- It refuses. -/
  refuses : t.refuses = true
  /-- This is what is to be seen. -/
  view : SoftDevice.view t.device = v
  /-- The pump is not at work. -/
  idle : SoftDevice.running t.device = false

/-! ## Operations -/

theorem Refused.keeps_frozen {m : Action (Terminal δ) α} (hm : Refused m) :
    Action.Keeps (Frozen v) m := fun t ht => by
  rw [hm ht.refuses]
  exact ht

/-- **Callbacks keep it**, for all that they do to a terminal is refused. -/
theorem frozen_host : (host (δ := δ)).Keeps (Frozen v) where
  mark _ _ _ h := ⟨h.refuses, h.view, h.idle⟩
  setAttributes a _ h := (refused_setAttributes a).keeps_frozen h
  deliver bytes t h := by
    unfold host
    dsimp only
    rw [refused_deliver bytes h.refuses]
    exact h
  install s handler t h := by
    unfold host installHandler
    dsimp only
    split
    · exact ⟨h.refuses, h.view, h.idle⟩
    · exact ⟨h.refuses, h.view, h.idle⟩
  note _ _ _ h := h

theorem frozen_puts (c : Capability) (params : List Param) :
    Action.Keeps (Frozen v) (puts (δ := δ) c params) := by
  refine (keeps_expansion? c params).bind fun bytes => ?_
  cases bytes with
  | none => exact keeps_pure _
  | some bytes => exact ((refused_send bytes).bind _).keeps_frozen

theorem frozen_cursor : Action.Keeps (Frozen v) (cursor (δ := δ)) := by
  have hdevice : Action.Keeps (Frozen v) (onDevice (δ := δ) Device.cursor) := fun t ht =>
    ⟨ht.refuses, (SoftDevice.view_cursor t.device).trans ht.view,
      (SoftDevice.running_cursor t.device).trans ht.idle⟩
  refine hdevice.bind fun c => ?_
  cases c with
  | some c => exact keeps_pure _
  | none =>
    refine keeps_get.bind fun t => ?_
    dsimp only
    split
    · split
      · exact keeps_pure _
      · refine (keeps_expansion? _ _).bind fun question => ?_
        exact ((refused_send _).bind _).keeps_frozen
    · exact keeps_pure _

theorem frozen_trackMouse (tracking : Tracking) :
    Action.Keeps (Frozen v) (trackMouse (δ := δ) tracking) := by
  refine keeps_get.bind fun t => ?_
  split
  · exact (refused_checkOpen.bind _).keeps_frozen
  · exact keeps_pure _

theorem frozen_receive (s : Signal) (h : t.Frozen v) : (t.receive s).Frozen v := by
  unfold receive
  split
  · exact frozen_host.raise s h
  · exact h

/-- **Every operation keeps it**: what is refused does nothing, and the others do nothing to
what is to be seen. -/
theorem frozen_run (o : Operation) (h : t.Frozen v) : (o.run.runOn t).2.Frozen v := by
  cases hrefusal : o.refusal? with
  | some e =>
    rw [Operation.runOn_of_refusal? hrefusal h.refuses]
    exact h
  | none =>
    cases o with
    | puts c params => exact ((frozen_puts c params).bind fun _ => keeps_pure _) h
    | cursor => exact (frozen_cursor.bind fun _ => keeps_pure _) h
    | trackMouse tracking => exact ((frozen_trackMouse tracking).bind fun _ => keeps_pure _) h
    | handle s handler => exact frozen_host.install s handler h
    | raise s => exact frozen_host.raise s h
    | setWinchHook hook => exact ⟨h.refuses, h.view, h.idle⟩
    | receive s => exact frozen_receive s h
    | pause =>
      exact ⟨h.refuses, (SoftDevice.view_pause _).trans h.view, SoftDevice.running_pause _ h.idle⟩
    | readUpTo n =>
      obtain rfl : n = 0 := by simpa [Operation.refusal?] using hrefusal
      exact h
    | write bytes =>
      obtain rfl : bytes = [] := by simpa [Operation.refusal?] using hrefusal
      exact h
    | _ => cases hrefusal

end Terminal

namespace Reentrant

variable {δ : Type} [Device δ] [SoftDevice δ] {v : DeviceView} {s : Reentrant δ}

/-- **Every act keeps it**, whatever is on the agenda. -/
theorem frozen_after (h : s.terminal.Frozen v) (a : Act) : (s.after a).terminal.Frozen v := by
  cases a with
  | operate o => exact Terminal.frozen_run o h
  | write bytes =>
    show (s.terminal.writeOnce bytes).2.Frozen v
    rw [Terminal.writeOnce_of_refuses h.refuses]
    exact h
  | raise signal => exact h
  | work => exact Terminal.frozen_host.work s.agenda h
  | pump =>
    unfold after
    rw [SoftDevice.advance_of_idle _ h.idle]
    exact h
  | close =>
    show (Terminal.close.runOn s.terminal).2.Frozen v
    rw [Terminal.runOn_close_of_closed (Bool.and_eq_true_iff.mp h.refuses).1]
    exact h

theorem frozen_run (h : s.terminal.Frozen v) (acts : List Act) :
    (s.run acts).terminal.Frozen v := by
  induction acts generalizing s with
  | nil => exact h
  | cons a acts ih => exact ih (frozen_after h a)

/-- **A closed terminal that is strict is frozen.** Once it has been closed, however that
went, and unless its pump is still at work, nothing that can be done to it changes what is
to be seen of its device, and nothing that callbacks do; and it refuses every call of a
writer and every operation in the table. -/
theorem run_closed {t : Terminal δ} (hstrict : t.strict = true)
    (hidle : SoftDevice.running (Terminal.close.runOn t).2.device = false) (agenda : List Task)
    (acts : List Act) :
    let u := (Terminal.close.runOn t).2
    let s : Reentrant δ := Reentrant.run ⟨u, agenda⟩ acts
    SoftDevice.view s.terminal.device = SoftDevice.view u.device ∧
      (∀ bytes, s.terminal.writeOnce bytes = (.error .closed, s.terminal)) ∧
      ∀ (o : Operation) (e : TerminalError),
        o.refusal? = some e → o.run.runOn s.terminal = (.error e, s.terminal) := by
  intro u s
  have hstart : u.Frozen (SoftDevice.view u.device) :=
    ⟨Terminal.refuses_close hstrict, rfl, hidle⟩
  have hfrozen : s.terminal.Frozen (SoftDevice.view u.device) :=
    frozen_run (s := ⟨u, agenda⟩) hstart acts
  exact ⟨hfrozen.view, Terminal.writeOnce_of_refuses hfrozen.refuses,
    fun _ _ hrefusal => Operation.runOn_of_refusal? hrefusal hfrozen.refuses⟩

/-- A stream is closed while a callback is about to change the attributes and to type
something; a console whose mouse is tracked is closed, and then asked for its cursor. -/
theorem run_closed_midway :
    let t := Terminal.openStream .none { strict := true, type := "ansi" } {} "line" none .endless
    let u := (Terminal.close.runOn (t.write [104, 105]).2).2
    let agenda : List Task := [.step .int (.setAttributes Attributes.usual.makeRaw),
      .step .int (.feed [120, 13])]
    let acts : List Act := [.work, .operate .resume, .raise .winch, .work, .pump, .work, .close]
    let s : Reentrant StreamDevice := Reentrant.run ⟨u, agenda⟩ acts
    (t.strict = true ∧ SoftDevice.running u.device = false ∧ u.device.output = [104, 105] ∧
      SoftDevice.view s.terminal.device = SoftDevice.view u.device ∧
      (∀ bytes, s.terminal.writeOnce bytes = (.error .closed, s.terminal)) ∧
      ∀ (o : Operation) (e : TerminalError),
        o.refusal? = some e → o.run.runOn s.terminal = (.error e, s.terminal)) ∧
    ∃ (t : Terminal ConsoleDevice) (left : Console),
      (Terminal.openConsole .none { strict := true, type := "ansi" } {} "console" .endless).runOn
        { modes := ⟨0xe7, 3, 437⟩, size := ⟨120, 30⟩, cursor := ⟨7, 3⟩ } = (.ok t, left) ∧
      let u := (Terminal.close.runOn ((Terminal.trackMouse .normal).runOn t).2).2
      let s : Reentrant ConsoleDevice := Reentrant.run ⟨u, []⟩ [.operate .cursor, .write []]
      SoftDevice.running u.device = false ∧
        SoftDevice.view s.terminal.device = SoftDevice.view u.device := by
  refine ⟨⟨rfl, rfl, rfl, ?_⟩, _, _, rfl, rfl, ?_⟩
  · exact run_closed (by rfl) (by rfl) _ _
  · exact (run_closed (by rfl) (by rfl) _ _).1

end Reentrant

end Teletype
