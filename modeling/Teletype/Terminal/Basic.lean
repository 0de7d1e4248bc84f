import Teletype.Description.Source
import Teletype.Device.Basic
import Teletype.Signal.Owner

/-!
# Terminals

A terminal is a device together with what all devices have in common: a
description of its type, handlers of its signals, and the knowledge whether it
has been closed.

## Closed terminals

A terminal is closed once. From then on its input is at its end. Whether other
operations still work is a matter of strictness: a strict terminal refuses
them, another one carries on. Not every operation asks: signals can always be
raised and handled, pumps paused, and a capability that the description lacks
is simply lacking.

## Signals

Signals come from three sides: from bytes that the device delivers, from the
device itself, and from the process. All end at the handlers of the terminal,
and what callbacks do is done to the terminal by its own operations, whatever
becomes of them. On a device of the system the terminal may also own
registrations with the process, one for each signal; then installing a handler
registers it.
-/

namespace Teletype

/-- **A terminal on a device.** -/
structure Terminal (δ : Type) where
  /-- The name it was opened with. -/
  name : String
  /-- The type of terminal. -/
  type : String
  /-- What is known of the type. -/
  description : Description
  /-- Whether using it after it was closed is an error. -/
  strict : Bool
  /-- Whether it listens to the signals of the process. -/
  listens : Bool := false
  /-- The device. -/
  device : δ
  /-- The handlers of its signals. -/
  signals : SignalTable := {}
  /-- The registrations of the process. -/
  registry : Registry Unit := {}
  /-- The registrations it owns. -/
  owner : Owner := {}
  /-- Whether it has been closed. -/
  closed : Bool := false
  /-- Which mouse events it tracks. -/
  tracking : Tracking := .off
  /-- The last mouse event. -/
  lastMouse : MouseEvent := {}
  /-- Whether it tracks focus. -/
  tracksFocus : Bool := false
  /-- The marks that callbacks left, oldest first. -/
  log : List (String × Signal) := []

namespace Terminal

variable {δ α : Type} [Device δ]

/-- An operation of the device. -/
def onDevice (m : Action δ α) : Action (Terminal δ) α :=
  m.onPart Terminal.device fun device t => { t with device }

/-- A change of the device that cannot fail. -/
def changeDevice (f : δ → δ) (t : Terminal δ) : Terminal δ := { t with device := f t.device }

/-- Whether operations are refused. -/
def refuses (t : Terminal δ) : Bool := t.closed && t.strict

/-- **The question whether the terminal is closed**, which a strict terminal answers
with a failure. -/
def checkOpen : Action (Terminal δ) Unit := do
  if (← get).refuses then throw .closed

/-! ## Attributes -/

/-- The attributes. -/
def attributes : Action (Terminal δ) Attributes := do
  checkOpen
  onDevice Device.attributes

/-- **Attributes put in force.** -/
def setAttributes (a : Attributes) : Action (Terminal δ) Unit := do
  checkOpen
  onDevice (Device.setAttributes a)

/-- **Raw mode**, with the attributes there were before. -/
def enterRawMode : Action (Terminal δ) Attributes := do
  let before ← attributes
  setAttributes before.makeRaw
  pure before

/-- Whether input is echoed. -/
def echoes : Action (Terminal δ) Bool := do pure ((← attributes).flag .echo)

/-- **Echo switched**, with whether there was echo before. Nothing is set when nothing
changes. -/
def setEcho (on : Bool) : Action (Terminal δ) Bool := do
  let a ← attributes
  let before := a.flag .echo
  if before != on then setAttributes (a.setFlag .echo on)
  pure before

/-! ## Signals -/

/-- Input handed to the line discipline as if it had arrived; the signals in it are
yet to be raised. -/
def deliver (bytes : List UInt8) : Action (Terminal δ) (List Signal × Except TerminalError Unit) :=
    do
  checkOpen
  onDevice (Action.ofStep fun d =>
    let (r, d) := Device.deliver bytes d
    (.ok r, d))

/-- **A handler installed.** A terminal that listens to the process registers it
there, unless it has been closed. -/
def installHandler (s : Signal) (h : Handler) (t : Terminal δ) : Terminal δ :=
  let t := { t with signals := t.signals.install s h }
  if t.listens && !t.closed then
    let (owner, registry) := t.owner.register t.registry s (Owner.actionFor () h)
    { t with owner, registry }
  else t

/-- **What callbacks may do** to a terminal. What becomes of it is not asked. -/
def host : Host (Terminal δ) where
  table t := t.signals
  mark tag s t := { t with log := t.log ++ [(tag, s)] }
  setAttributes a t := ((setAttributes a).runOn t).2
  deliver bytes t :=
    match (deliver bytes).runOn t with
    | (.ok (signals, _), t) => (t, signals)
    | (.error _, t) => (t, [])
  install := installHandler

/-- **A signal raised.** -/
def raise (s : Signal) (t : Terminal δ) : Terminal δ := host.raise s t

/-- **A handler put in place**, with the one there was before. -/
def handle (s : Signal) (h : Handler) (t : Terminal δ) : Handler × Terminal δ :=
  (t.signals.handler s, t.installHandler s h)

/-- The built-in reaction to a change of the window size put in place. -/
def setWinchHook (hook : Handler) (t : Terminal δ) : Terminal δ :=
  { t with signals := { t.signals with winchHook := hook } }

/-- **A signal sent to the process.** It is raised here if the newest registration is
one for a handler of the terminal. -/
def receive (s : Signal) (t : Terminal δ) : Terminal δ :=
  match t.registry.dispatch s with
  | some () => t.raise s
  | none => t

/-! ## Size -/

/-- The size. -/
def size : Action (Terminal δ) Size := do
  checkOpen
  onDevice Device.size

/-- **The size changed**, and the signals raised that this brings about. -/
def setSize (s : Size) : Action (Terminal δ) Unit := do
  checkOpen
  let signals ← onDevice (Device.setSize s)
  modify (host.raiseAll signals)

/-! ## Input -/

/-- **Reading the next byte**, or only looking at it. A closed terminal is at the end
of its input. -/
def read (peek : Bool) : Action (Terminal δ) Reading := do
  if (← get).closed then
    checkOpen
    pure .eof
  else
    onDevice (Action.ofStep fun d =>
      let (r, d) := Device.read peek d
      (.ok r, d))

/-- The next byte, or nothing at the end of input. -/
def next : Action (Terminal δ) (Option UInt8) := do pure (← read false).byte?

/-- Up to so many bytes read one after the other, and what ended them if not their
number. -/
def readUpTo : Nat → Action (Terminal δ) (List UInt8 × Option Reading)
  | 0 => pure ([], none)
  | n + 1 => do
    match ← read false with
    | .byte b => do
      let (bytes, last) ← readUpTo n
      pure (b :: bytes, last)
    | last => pure ([], some last)

/-- **Input injected** as if it had arrived, with its signals raised; also when it
could not be echoed, which is then the result. -/
def processInput (bytes : List UInt8) : Action (Terminal δ) Unit := do
  let (signals, result) ← deliver bytes
  modify (host.raiseAll signals)
  result

/-! ## Output -/

/-- Bytes put out by the device. Where there are none there is nothing to do. -/
def putOut (bytes : List UInt8) (t : Terminal δ) : Except DeviceError Unit × Terminal δ :=
  if bytes.isEmpty then (.ok (), t)
  else
    let (result, device) := Device.write bytes t.device
    (result, { t with device })

/-- **Bytes written** by an application that knows nothing of terminals: to it, that
the terminal is closed is a failure of the outside world like any other. -/
def write (bytes : List UInt8) (t : Terminal δ) : Except DeviceError Unit × Terminal δ :=
  if !bytes.isEmpty && t.refuses then (.error .closed, t) else t.putOut bytes

/-- **One call of a writer.** Here it is asked whether the terminal is closed even if there
are no bytes. -/
def writeOnce (bytes : List UInt8) (t : Terminal δ) : Except DeviceError Unit × Terminal δ :=
  if t.refuses then (.error .closed, t) else t.putOut bytes

/-- Whoever has bytes to write calls a writer, and nobody else does. -/
theorem write_eq (bytes : List UInt8) (t : Terminal δ) :
    t.write bytes = if bytes.isEmpty then (.ok (), t) else t.writeOnce bytes := by
  cases bytes with
  | nil => rfl
  | cons b bytes => rfl

/-- **Bytes sent** to the terminal. -/
def send (bytes : List UInt8) : Action (Terminal δ) Unit := do
  checkOpen
  Action.ofStep fun t =>
    let (result, t) := t.putOut bytes
    (result.mapError .device, t)

/-- The expansion of a capability, if the description has it. -/
def expansion? (c : Capability) (params : List Param) : Action (Terminal δ) (Option (List UInt8)) :=
    do
  match (← get).description.render? c params with
  | none => pure none
  | some none => throw .outOfRange
  | some (some bytes) => pure (some bytes)

/-- **A capability put out.** False when the description lacks it. -/
def puts (c : Capability) (params : List Param) : Action (Terminal δ) Bool := do
  match ← expansion? c params with
  | none => pure false
  | some bytes => do
    send bytes
    pure true

/-! ## Pumps -/

/-- **The pumps at work** until there is nothing to do, at most so many steps; the
signals of each step are raised before the next. -/
def advanceFor : Nat → Terminal δ → Terminal δ
  | 0, t => t
  | steps + 1, t =>
    match Device.advance t.device with
    | none => t
    | some (signals, device) => advanceFor steps (host.raiseAll signals { t with device })

/-- The pumps at work until there is nothing to do. -/
def settle (t : Terminal δ) : Terminal δ := t.advanceFor (Device.backlog t.device)

/-- Whether the pumps can be paused. -/
def canPause (t : Terminal δ) : Bool := Device.canPause t.device

/-- Whether a pump is paused. -/
def paused (t : Terminal δ) : Bool := Device.paused t.device

/-- **The pumps paused**, and gone. -/
def pause (t : Terminal δ) : Terminal δ := t.changeDevice Device.pause

/-- **The pumps resumed.** -/
def resume : Action (Terminal δ) Unit := do
  checkOpen
  modify (changeDevice Device.resume)

/-! ## Opening and closing -/

/-- **A terminal opened on a device.** On a device of the system it may listen to the
process; it starts with the platform's own reactions. -/
def onto (device : δ) (name type : String) (description : Description) (strict listens : Bool)
    (registry : Registry Unit) : Terminal δ :=
  let listens := listens && Device.isSystem device
  let (owner, registry) := if listens then Owner.listen registry else ({}, registry)
  { name, type, description, strict, listens, device, owner, registry }

/-- **Closing begun**: whether this call is the one that closes the terminal. -/
def beginClose (t : Terminal δ) : Bool × Terminal δ := (!t.closed, { t with closed := true })

/-- The registrations given up. -/
def disown (t : Terminal δ) : Terminal δ :=
  let (owner, registry) := t.owner.release t.registry
  { t with owner, registry }

/-- **Closing.** Only the first call does anything: it gives up the registrations,
stops the pumps, puts back what was changed and wakes the readers. If something
cannot be put back, the readers are woken nevertheless. -/
def close : Action (Terminal δ) Unit := do
  let (first, t) := (← get).beginClose
  set t
  if first then
    modify (·.disown)
    modify (changeDevice Device.stop)
    let restored ← (onDevice (α := Unit) Device.restore).attempt
    modify (changeDevice Device.release)
    restored

/-- A device through with closing: stopped, put back as far as it can be, and released. -/
def woundUp (device : δ) : δ :=
  Device.release ((Device.restore (δ := δ)).runOn (Device.stop device)).2

section

variable {t : Terminal δ}

/-- To close once more is to do nothing. -/
theorem runOn_close_of_closed (h : t.closed = true) : close.runOn t = (.ok (), t) := by
  have hsame : { t with closed := true } = t := by rw [← h]
  unfold close beginClose
  rw [Action.runOn_bind, Action.runOn_get]
  dsimp only
  rw [Action.runOn_bind, Action.runOn_set, hsame, h]
  rfl

/-- **What closing leaves** of an open terminal, however it goes. -/
theorem left_close_of_open (h : t.closed = false) :
    (close.runOn t).2 = { t with closed := true }.disown.changeDevice woundUp := by
  unfold close beginClose onDevice
  rw [Action.runOn_bind, Action.runOn_get]
  dsimp only
  rw [Action.runOn_bind, Action.runOn_set, h]
  simp only [Bool.not_false, if_true, Action.runOn_bind, Action.runOn_modify,
    Action.runOn_attempt, Action.runOn_onPart]
  show ((liftM ((Device.restore (δ := δ)).runOn (Device.stop t.device)).1 :
    Action (Terminal δ) Unit).runOn _).2 = _
  cases ((Device.restore (δ := δ)).runOn (Device.stop t.device)).1 <;> rfl

end

end Terminal

end Teletype
