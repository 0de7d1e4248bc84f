import Teletype.Attributes.Basic

/-!
# Signals and their handlers

A terminal delivers six signals. Each has a handler: the built-in reaction,
none at all, or a callback. A callback is a script of what it does when it runs:
it leaves marks, replaces the attributes, feeds bytes back as if they had been
typed, and installs a successor in its own place. So a run with callbacks is a
computation like any other. It need not come to an end: a callback that feeds its
own signal back before it has installed a successor runs again, and again.

The built-in reaction is to do nothing, except that a change of the window
size has a reaction that can be set.
-/

namespace Teletype

/-- **The signals of a terminal.** -/
inductive Signal where
  /-- Interrupt. -/
  | int
  /-- Quit. -/
  | quit
  /-- Stop. -/
  | tstp
  /-- Continue after a stop. -/
  | cont
  /-- Status request. -/
  | info
  /-- The window size has changed. -/
  | winch
  deriving DecidableEq

namespace Signal

/-- **All signals.** -/
def all : List Signal := [.int, .quit, .tstp, .cont, .info, .winch]

/-- The name of a signal. -/
def name : Signal → String
  | int => "INT"
  | quit => "QUIT"
  | tstp => "TSTP"
  | cont => "CONT"
  | info => "INFO"
  | winch => "WINCH"

/-- The signal with a name. -/
def ofName? (s : String) : Option Signal := all.find? fun x => x.name == s

end Signal

mutual

/-- **A handler of a signal.** -/
inductive Handler where
  /-- The built-in reaction. -/
  | default
  /-- Nothing. -/
  | ignore
  /-- A callback with an identity of its own, and what it does step after step. -/
  | script (id : Nat) (steps : List HandlerStep)

/-- **A step of a callback.** -/
inductive HandlerStep where
  /-- It leaves a mark. -/
  | mark (tag : String)
  /-- It puts attributes in place. -/
  | setAttributes (a : Attributes)
  /-- It feeds bytes back. -/
  | feed (bytes : List UInt8)
  /-- It installs its successor. -/
  | install (successor : Handler)

end

/-- **What a plain callback does** when it runs, apart from naming its successor. -/
structure Deed where
  /-- The mark it leaves. -/
  tag : String
  /-- The attributes it puts in place, if any. -/
  attributes : Option Attributes := none
  /-- The bytes it feeds back, if any. -/
  feed : Option (List UInt8) := none

namespace Handler

instance : Inhabited Handler := ⟨default⟩

/-- **A plain callback**: it leaves its mark, then puts attributes in place, then
feeds bytes back, and installs its successor last. -/
def callback (id : Nat) (deed : Deed) (successor : Option Handler) : Handler :=
  .script id (.mark deed.tag :: (deed.attributes.map HandlerStep.setAttributes).toList
    ++ (deed.feed.map HandlerStep.feed).toList ++ (successor.map HandlerStep.install).toList)

/-- **What a handler does** when it runs. -/
def steps : Handler → List HandlerStep
  | script _ steps => steps
  | _ => []

/-- Whether a handler is the built-in reaction. -/
def isDefault : Handler → Bool
  | default => true
  | _ => false

/-- The word for a kind of handler. -/
def kind : Handler → String
  | default => "Default"
  | ignore => "Ignore"
  | script .. => "Callback"

/-- Whether two handlers are the same: callbacks are told apart by identity. -/
def same : Handler → Handler → Bool
  | default, default => true
  | ignore, ignore => true
  | script i _, script j _ => i == j
  | _, _ => false

end Handler

/-- **The handlers of a terminal**, and its built-in reaction to a change of the
window size. -/
structure SignalTable where
  /-- The handler of each signal. -/
  handler : Signal → Handler := fun _ => .default
  /-- The built-in reaction to `WINCH`. -/
  winchHook : Handler := .ignore

/-- The table with a handler installed. -/
def SignalTable.install (t : SignalTable) (s : Signal) (h : Handler) : SignalTable :=
  { t with handler := fun x => if x = s then h else t.handler x }

/-- What runs when a signal is raised: the handler, with the built-in reaction
put in for the default one. -/
def SignalTable.reaction (t : SignalTable) (s : Signal) : Handler :=
  match t.handler s with
  | .default => if s = .winch then t.winchHook else .ignore
  | h => h

/-- **Something signals can be raised on.** Whatever raises and handles signals
provides the operations that callbacks need, and may take note of what is raised. -/
structure Host (σ : Type) where
  /-- The handlers in force. -/
  table : σ → SignalTable
  /-- Leaving a mark for a signal. -/
  mark : String → Signal → σ → σ
  /-- Putting attributes in place. -/
  setAttributes : Attributes → σ → σ
  /-- Delivering bytes as input; the signals among them remain to be raised. -/
  deliver : List UInt8 → σ → σ × List Signal
  /-- Installing a handler. -/
  install : Signal → Handler → σ → σ
  /-- Taking note that a signal is raised, and on which handler. -/
  note : Signal → Handler → σ → σ := fun _ _ st => st

namespace Host

variable {σ : Type}

/-- **A signal raised**: the steps of the reaction to it, one after the other. Bytes
that a step feeds back are delivered, and the signals among them raised before the
next step. Nothing comes back from callbacks that re-enter each other without
end. -/
def raise? (host : Host σ) (s : Signal) (st : σ) : Option σ :=
  ((host.table st).reaction s).steps.foldlM (fun st step =>
    match step with
    | .mark tag => some (host.mark tag s st)
    | .setAttributes a => some (host.setAttributes a st)
    | .feed bytes =>
      let (st, signals) := host.deliver bytes st
      signals.foldlM (fun st s => host |>.raise? s st) st
    | .install h => some (host.install s h st)) (host.note s ((host.table st).handler s) st)
partial_fixpoint

/-- **Signals raised one after the other**, each on the handlers in force when its turn
comes. -/
def raiseAll? (host : Host σ) (signals : List Signal) (st : σ) : Option σ :=
  signals.foldlM (fun st s => host.raise? s st) st

/-- **Bytes fed in**: delivered first, and then the signals among them raised. -/
def feed? (host : Host σ) (bytes : List UInt8) (st : σ) : Option σ :=
  let (st, signals) := host.deliver bytes st
  host.raiseAll? signals st

/-- A signal raised by someone who waits until that is over. -/
def raise (host : Host σ) (s : Signal) (st : σ) : σ := (host.raise? s st).getD st

/-- Signals raised one after the other by someone who waits until that is over. -/
def raiseAll (host : Host σ) (signals : List Signal) (st : σ) : σ :=
  (host.raiseAll? signals st).getD st

end Host

end Teletype
