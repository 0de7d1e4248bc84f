import Teletype.Terminal.Open
import Teletype.Terminal.Report

/-!
# The input mode of a console

Four calls on a terminal bear on the input mode of its console. Each of them comes to the
same thing: something is asked for, what is asked for is stored, and the mode that follows
from all that is stored is tried on the console, which may refuse it (`Terminal.runOn_run`).
Only switching echo to what it is already goes nowhere.

A terminal is opened on a console that has been asked for what its own mode stands for, and
has granted it (`Terminal.opened_of_openConsole`).
-/

namespace Teletype

/-- **What is asked of a console**: attributes, and which mouse events it reports. -/
@[ext] structure ConsoleWish where
  /-- The attributes. -/
  attributes : Attributes
  /-- Which mouse events. -/
  tracking : Tracking

namespace ConsoleWish

/-- The input mode that a wish comes to. -/
def mode (w : ConsoleWish) (initial : UInt32) : UInt32 :=
  Console.modeFor w.attributes w.tracking initial

/-- What a console stands for by itself. -/
def ofMode (initial : UInt32) : ConsoleWish := ⟨Console.attributesFor initial, .off⟩

end ConsoleWish

/-- **A call that bears on the input mode** of a console. -/
inductive ModeCall where
  /-- Attributes are set. -/
  | setAttributes (a : Attributes)
  /-- Raw mode is entered. -/
  | enterRawMode
  /-- Echo is switched. -/
  | setEcho (on : Bool)
  /-- Mouse tracking is changed. -/
  | trackMouse (tracking : Tracking)

namespace ModeCall

/-- The call made. -/
def run : ModeCall → Action (Terminal ConsoleDevice) Unit
  | setAttributes a => Terminal.setAttributes a
  | enterRawMode => do let _ ← Terminal.enterRawMode
  | setEcho on => do let _ ← Terminal.setEcho on
  | trackMouse tracking => do let _ ← Terminal.trackMouse tracking

/-- **What it asks for**, after what was asked for before. -/
def ask : ModeCall → ConsoleWish → ConsoleWish
  | setAttributes a, w => { w with attributes := a }
  | enterRawMode, w => { w with attributes := w.attributes.makeRaw }
  | setEcho on, w => { w with attributes := w.attributes.setFlag .echo on }
  | trackMouse tracking, w => { w with tracking }

/-- Whether it goes to the console. Echo that is as it should be is left alone. -/
def tries : ModeCall → ConsoleWish → Bool
  | setEcho on, w => w.attributes.flag .echo != on
  | _, _ => true

/-- The tracking that the terminal knows of once the call is granted. -/
def tracked : ModeCall → Tracking → Tracking
  | trackMouse tracking, _ => tracking
  | _, before => before

/-- A call that goes nowhere asks for nothing new. -/
theorem ask_of_tries_eq_false (c : ModeCall) {w : ConsoleWish} (h : c.tries w = false) :
    c.ask w = w := by
  cases c with
  | setEcho on =>
    have hon : w.attributes.flag .echo = on := by simpa [tries] using h
    refine ConsoleWish.ext (Attributes.ext (funext fun f => ?_) rfl) rfl
    show (if f = .echo then on else w.attributes.flag f) = w.attributes.flag f
    split
    · next hf => rw [hf, hon]
    · rfl
  | setAttributes _ | enterRawMode | trackMouse _ => cases h

end ModeCall

/-! ## Consoles -/

namespace Console

variable {β : Type} {f : UInt32 → Console → β} {b : β} {c left : Console}

/-- Whether the console refuses another input mode. -/
def refuses (c : Console) : Bool := c.fails c.count .setInputMode

/-- What the console answers to an attempt to change its input mode. -/
def answer (c : Console) : Except TerminalError Unit :=
  if c.refuses then .error (.device (.consoleFailed ConsoleOperation.setInputMode.name)) else .ok ()

/-- **The console after an attempt** to change its input mode. -/
def tried (c : Console) (mode : UInt32) : Console :=
  { c with
    changes := c.changes ++ [⟨.setInputMode, mode⟩]
    count := c.count + 1
    modes := if c.refuses then c.modes else { c.modes with input := mode } }

theorem runOn_call (operation : ConsoleOperation) (c : Console) :
    (call operation).runOn c
      = (if c.fails c.count operation then .error (.device (.consoleFailed operation.name))
          else .ok (), { c with count := c.count + 1 }) := by
  simp only [call, Action.runOn_bind, Action.runOn_get, Action.runOn_set]
  split <;> rfl

theorem runOn_setInputMode (c : Console) (mode : UInt32) :
    (setInputMode mode).runOn c = (c.answer, c.tried mode) := by
  simp only [setInputMode, change, Action.runOn_bind, Action.runOn_modify, runOn_call, answer,
    tried, refuses]
  by_cases h : c.fails c.count .setInputMode <;> simp [h]

theorem runOn_outputMode (c : Console) :
    outputMode.runOn c
      = (if c.fails c.count .outputMode then
          .error (.device (.consoleFailed ConsoleOperation.outputMode.name))
        else .ok c.modes.output, { c with count := c.count + 1 }) := by
  simp only [outputMode, Action.runOn_bind, runOn_call]
  cases c.fails c.count .outputMode <;> rfl

theorem runOn_inputMode (c : Console) :
    inputMode.runOn c
      = (if c.fails c.count .inputMode then
          .error (.device (.consoleFailed ConsoleOperation.inputMode.name))
        else .ok c.modes.input, { c with count := c.count + 1 }) := by
  simp only [inputMode, Action.runOn_bind, runOn_call]
  cases c.fails c.count .inputMode <;> rfl

/-- Changing the output mode leaves the input mode alone, whether it fails or not. -/
theorem input_setOutputMode (mode : UInt32) (c : Console) :
    ((setOutputMode mode).runOn c).2.modes.input = c.modes.input := by
  simp only [setOutputMode, change, Action.runOn_bind, Action.runOn_modify, runOn_call]
  cases c.fails c.count .setOutputMode with
  | true => rfl
  | false =>
    simp only [Bool.false_eq_true, if_false, Action.runOn_get]
    split <;> rfl

/-- And so does changing the code page. -/
theorem input_setCodePage (page : UInt32) (c : Console) :
    ((setCodePage page).runOn c).2.modes.input = c.modes.input := by
  simp only [setCodePage, change, Action.runOn_bind, Action.runOn_modify, runOn_call]
  cases c.fails c.count .setCodePage <;> rfl

/-- The input mode brought in line with the attributes that it stands for. -/
theorem runOn_align
    (h : (do
        let input ← inputMode
        setInputMode (modeFor (attributesFor input) .off input)
        pure (f input (← get)) : Action Console β).runOn c = (.ok b, left)) :
    b = f c.modes.input left ∧ left.modes.input = (ConsoleWish.ofMode c.modes.input).mode
      c.modes.input := by
  obtain ⟨input, c₁, hread, h⟩ := Action.runOn_bind_eq_ok h
  obtain ⟨_, c₂, hset, h⟩ := Action.runOn_bind_eq_ok h
  rw [runOn_inputMode] at hread
  rw [runOn_setInputMode, answer] at hset
  split at hread
  · cases hread
  · split at hset
    · cases hset
    · next hgranted =>
      cases hread
      cases hset
      cases h
      exact ⟨rfl, congrArg ConsoleModes.input (if_neg hgranted)⟩

end Console

/-! ## Devices -/

namespace ConsoleDevice

variable {describe : String → Description} {sink : Sink} {console left : Console}
  {type : String} {d : ConsoleDevice} {original : UInt32}

/-- The device after an attempt to put its input mode in force. -/
def tried (d : ConsoleDevice) : ConsoleDevice := { d with console := d.console.tried d.mode }

theorem runOn_applyMode (d : ConsoleDevice) :
    applyMode.runOn d = (d.console.answer, d.tried) := by
  simp only [applyMode, onConsole, Action.runOn_bind, Action.runOn_get, Action.runOn_onPart,
    Console.runOn_setInputMode]
  rfl

/-- **A device that has just been prepared**: the console has granted what it was asked for,
which is what it had stood for. -/
structure Prepared (original : UInt32) (d : ConsoleDevice) : Prop where
  /-- The mode that there was is remembered. -/
  initial : d.initial.input = original
  /-- The attributes are those it stood for. -/
  attributes : d.attributes = Console.attributesFor original
  /-- The mouse is not tracked. -/
  tracking : d.tracking = .off
  /-- The mode in force is the one for both. -/
  mode : d.console.modes.input = (ConsoleWish.ofMode original).mode original

theorem prepared_of_prepare (h : (prepare describe sink).runOn console = (.ok (type, d), left)) :
    d.Prepared console.modes.input := by
  unfold prepare at h
  obtain ⟨output, c₁, houtput, h⟩ := Action.runOn_bind_eq_ok h
  obtain ⟨interprets, c₂, hinterprets, h⟩ := Action.runOn_bind_eq_ok h
  obtain ⟨_, _, hget, h⟩ := Action.runOn_bind_eq_ok h
  cases hget
  rw [Console.runOn_outputMode] at houtput
  rw [Action.runOn_attempt] at hinterprets
  have hinput : c₂.modes.input = console.modes.input := by
    rw [← (Prod.mk.inj hinterprets).2, Console.input_setOutputMode, ← (Prod.mk.inj houtput).2]
  dsimp only at h
  -- the code page may be changed on the way
  split at h
  · obtain ⟨_, c₃, hpage, h⟩ := Action.runOn_bind_eq_ok h
    rw [Action.runOn_attempt] at hpage
    have hpage : c₃.modes.input = c₂.modes.input := by
      rw [← (Prod.mk.inj hpage).2, Console.input_setCodePage]
    obtain ⟨hd, hmode⟩ := Console.runOn_align h
    cases hd
    rw [hpage, hinput] at hmode
    exact ⟨hpage.trans hinput, by rw [hpage, hinput], rfl, hmode⟩
  · obtain ⟨hd, hmode⟩ := Console.runOn_align h
    cases hd
    rw [hinput] at hmode
    exact ⟨hinput, by rw [hinput], rfl, hmode⟩

end ConsoleDevice

/-! ## Terminals -/

namespace Terminal

variable {programs : Programs} {config : Config} {registry : Registry Unit} {name : String}
  {sink : Sink} {console left : Console} {t : Terminal ConsoleDevice}

theorem runOn_checkOpen (h : t.closed = false) : checkOpen.runOn t = (.ok (), t) := by
  simp [checkOpen, Action.runOn_bind, refuses, h]

theorem runOn_attributes (h : t.closed = false) :
    Terminal.attributes.runOn t = (.ok t.device.attributes, t) := by
  simp only [Terminal.attributes, Action.runOn_bind, runOn_checkOpen h]
  rfl

theorem runOn_setAttributes (h : t.closed = false) (a : Attributes) :
    (Terminal.setAttributes a).runOn t
      = (t.device.console.answer,
          { t with device := ConsoleDevice.tried { t.device with attributes := a } }) := by
  simp only [Terminal.setAttributes, Action.runOn_bind, runOn_checkOpen h]
  show (onDevice (ConsoleDevice.setAttributes a)).runOn t = _
  simp only [onDevice, Action.runOn_onPart, ConsoleDevice.setAttributes, Action.runOn_bind,
    Action.runOn_modify, ConsoleDevice.runOn_applyMode]

/-- What was asked of the console, by what is stored. -/
def wish (t : Terminal ConsoleDevice) : ConsoleWish := ⟨t.device.attributes, t.device.tracking⟩

/-- **The terminal after a call that goes to the console.** What is asked for is stored; the
tracking that the terminal itself knows of is only changed if it is granted. -/
def tried (t : Terminal ConsoleDevice) (c : ModeCall) : Terminal ConsoleDevice :=
  { t with
    device := ConsoleDevice.tried
      { t.device with
        attributes := (c.ask t.wish).attributes
        tracking := (c.ask t.wish).tracking }
    tracking := if t.device.console.refuses then t.tracking else c.tracked t.tracking }

theorem runOn_enterRawMode (h : t.closed = false) :
    ModeCall.enterRawMode.run.runOn t
      = (Terminal.setAttributes t.device.attributes.makeRaw).runOn t := by
  simp only [ModeCall.run, enterRawMode, Action.runOn_bind, runOn_attributes h,
    runOn_setAttributes h]
  cases t.device.console.answer <;> rfl

theorem runOn_setEcho (h : t.closed = false) (on : Bool) :
    (ModeCall.setEcho on).run.runOn t
      = if t.device.attributes.flag .echo != on then
          (Terminal.setAttributes (t.device.attributes.setFlag .echo on)).runOn t
        else (.ok (), t) := by
  simp only [ModeCall.run, setEcho, Action.runOn_bind, runOn_attributes h]
  by_cases hne : (t.device.attributes.flag .echo != on) = true
  · simp only [hne, if_true, Action.runOn_bind, runOn_setAttributes h]
    cases t.device.console.answer <;> rfl
  · simp only [hne]
    rfl

theorem runOn_trackMouse (h : t.closed = false) (tracking : Tracking) :
    (ModeCall.trackMouse tracking).run.runOn t
      = (t.device.console.answer, t.tried (.trackMouse tracking)) := by
  have hdevice : (onDevice (Device.trackMouse tracking)).runOn t
      = (t.device.console.answer.map fun _ => true,
          { t with device := ConsoleDevice.tried { t.device with tracking } }) := by
    show (onDevice (ConsoleDevice.trackMouse tracking)).runOn t = _
    simp only [onDevice, Action.runOn_onPart, ConsoleDevice.trackMouse, Action.runOn_bind,
      Action.runOn_modify, ConsoleDevice.runOn_applyMode]
    cases t.device.console.answer <;> rfl
  have hmouse : t.hasMouse = true := rfl
  simp only [ModeCall.run, trackMouse, Action.runOn_bind, Action.runOn_get, hmouse, if_true,
    runOn_checkOpen h, hdevice, tried, Console.answer]
  cases t.device.console.refuses <;> rfl

/-- **What a call does** to a terminal that is open. -/
theorem runOn_run (h : t.closed = false) (c : ModeCall) :
    c.run.runOn t
      = if c.tries t.wish then (t.device.console.answer, t.tried c) else (.ok (), t) := by
  have hset : ∀ a, (Terminal.setAttributes a).runOn t
      = (t.device.console.answer, t.tried (.setAttributes a)) := fun a => by
    simp [runOn_setAttributes h, tried, wish, ModeCall.ask, ModeCall.tracked]
  cases c with
  | setAttributes a => exact hset a
  | enterRawMode => exact (runOn_enterRawMode h).trans (hset _)
  | setEcho on =>
    rw [runOn_setEcho h, hset]
    rfl
  | trackMouse tracking => exact runOn_trackMouse h tracking

/-- **What opening a console gives**: a terminal that is open, tracks no mouse, and is on a
device that has just been prepared. -/
theorem opened_of_openConsole
    (h : (openConsole programs config registry name sink).runOn console = (.ok t, left)) :
    t.closed = false ∧ t.tracking = .off ∧ t.device.Prepared console.modes.input := by
  obtain ⟨⟨type, d⟩, _, hprepare, h⟩ := Action.runOn_bind_eq_ok h
  obtain ⟨hinitial, hattributes, htracking, hmode⟩ := ConsoleDevice.prepared_of_prepare hprepare
  cases h
  unfold started
  split <;> exact ⟨rfl, rfl, hinitial, hattributes, htracking, hmode⟩

end Terminal

end Teletype
