import Teletype.Terminal.Basic

/-!
# Handlers installed while a terminal is closed

Installing a handler and closing a terminal both work on the registrations that the
terminal owns, and neither does it in one go. Whoever installs a handler puts it into the
table, asks whether the terminal is closed, registers with the process, and records the
token; whoever closes marks the terminal as closed, takes all tokens out of the record, and
gives them up one after the other, in any order. Here each of these steps is an act, and
any number of calls are under way at the same time. The record is locked while it is
changed. A call that has put its token in the place of another one keeps it locked until
that is given up.

The registry is that of the process, so others register and give up what is theirs
meanwhile. That they cannot give up what is not theirs is what tokens are for. A ledger is
kept of the tokens that the process has given to the terminal.

An act does nothing if the call is not as far as that. Then the acts of a call that nobody
disturbs make up what is done in one go (`terminal_installed`, `terminal_closed`). A
history is a list of acts, the latest first.
-/

namespace Teletype

namespace SharedHandlers

/-- **How far a call that installs a handler is.** -/
inductive Stage where
  /-- It has not been made. -/
  | idle
  /-- The handler is in the table. -/
  | installed (s : Signal) (h : Handler)
  /-- The terminal was found open, and listens to the process. -/
  | passed (s : Signal) (h : Handler)
  /-- The process has been asked to register it, and has perhaps given a token. -/
  | registered (s : Signal) (token : Option Token)
  /-- The token is recorded in the place of another one, which is yet to be given up. -/
  | replacing (old : Token)
  /-- It has returned. -/
  | returned

/-- The token that a call has in hand. -/
def Stage.token? : Stage → Option Token
  | registered _ token => token
  | replacing old => some old
  | _ => none

/-- **How far the call that closes the terminal is.** -/
inductive Closing where
  /-- It has not been made. -/
  | idle
  /-- The terminal is marked as closed. -/
  | begun
  /-- The tokens are taken out of the record, and these are yet to be given up. -/
  | giving (tokens : List Token)
  /-- It has returned. -/
  | returned

namespace Closing

/-- The tokens that are yet to be given up. -/
def tokens : Closing → List Token
  | giving tokens => tokens
  | _ => []

/-- Whether the tokens have been taken out of the record. -/
def drained : Closing → Bool
  | giving _ | returned => true
  | _ => false

end Closing

/-- **What may happen next.** -/
inductive Act where
  /-- Somebody calls to install a handler, and it is put into the table. -/
  | install (c : Nat) (s : Signal) (h : Handler)
  /-- A call asks whether the terminal is closed. -/
  | ask (c : Nat)
  /-- A call registers its handler with the process. -/
  | register (c : Nat)
  /-- A call records its token. -/
  | record (c : Nat)
  /-- A call gives up the token that was recorded before. -/
  | giveUp (c : Nat)
  /-- The terminal is marked as closed. -/
  | begin
  /-- The tokens are taken out of the record. -/
  | drain
  /-- One of them is given up. -/
  | surrender (token : Token)
  /-- What is left of closing is done. -/
  | finish
  /-- Somebody else registers with the process. -/
  | registerOther (s : Signal) (action : Option Unit)
  /-- Somebody else gives up a registration. -/
  | giveUpOther (token : Token)

end SharedHandlers

/-- **A terminal whose handlers are installed while it is closed.** -/
structure SharedHandlers (δ : Type) where
  /-- The terminal. -/
  terminal : Terminal δ
  /-- The tokens that the process has ever given to it. -/
  given : List Token
  /-- How far each call to install a handler is. -/
  call : Nat → SharedHandlers.Stage := fun _ => .idle
  /-- How far the call to close is. -/
  closing : SharedHandlers.Closing := .idle
  /-- The call that keeps the record locked. -/
  holder : Option Nat := none

namespace SharedHandlers

variable {δ : Type}

/-- A terminal that has just been opened. -/
def new (terminal : Terminal δ) : SharedHandlers δ :=
  { terminal, given := terminal.owner.tokens }

/-- A call further on. -/
def setCall (s : SharedHandlers δ) (c : Nat) (stage : Stage) : SharedHandlers δ :=
  { s with call := fun d => if d = c then stage else s.call d }

/-- The terminal with another registry. -/
def setRegistry (s : SharedHandlers δ) (registry : Registry Unit) : SharedHandlers δ :=
  { s with terminal := { s.terminal with registry } }

/-! ## Installing -/

/-- The handler in the table. -/
def installed (s : SharedHandlers δ) (c : Nat) (signal : Signal) (h : Handler) :
    SharedHandlers δ :=
  { s with terminal := { s.terminal with signals := s.terminal.signals.install signal h } }.setCall
    c (.installed signal h)

/-- The question asked whether the terminal is closed. -/
def asked (s : SharedHandlers δ) (c : Nat) : SharedHandlers δ :=
  match s.call c with
  | .installed signal h =>
    s.setCall c (if s.terminal.listens && !s.terminal.closed then .passed signal h else .returned)
  | _ => s

/-- The handler registered with the process. -/
def registered (s : SharedHandlers δ) (c : Nat) : SharedHandlers δ :=
  match s.call c with
  | .passed signal h =>
    let (token, registry) := s.terminal.registry.register signal (Owner.actionFor () h)
    { s.setRegistry registry with given := token.toList ++ s.given }.setCall c
      (.registered signal token)
  | _ => s

/-- The token recorded. The record stays locked if there was another one. -/
def recorded (s : SharedHandlers δ) (c : Nat) : SharedHandlers δ :=
  match s.call c with
  | .registered signal token =>
    let next := { s with
      terminal := { s.terminal with owner := s.terminal.owner.hold signal token } }
    match s.terminal.owner.token signal with
    | none => next.setCall c .returned
    | some old => { next with holder := some c }.setCall c (.replacing old)
  | _ => s

/-- The token that was recorded before given up. -/
def gaveUp (s : SharedHandlers δ) (c : Nat) : SharedHandlers δ :=
  match s.call c with
  | .replacing old =>
    { s.setRegistry (s.terminal.registry.unregister old) with holder := none }.setCall c .returned
  | _ => s

/-! ## Closing -/

/-- The terminal marked as closed. -/
def begun (s : SharedHandlers δ) : SharedHandlers δ :=
  let (first, terminal) := s.terminal.beginClose
  { s with terminal, closing := if first then .begun else .returned }

/-- The tokens taken out of the record. -/
def drained (s : SharedHandlers δ) : SharedHandlers δ :=
  match s.closing with
  | .begun =>
    { s with
      terminal := { s.terminal with owner := {} }
      closing := .giving s.terminal.owner.tokens }
  | _ => s

/-- One of them given up. -/
def surrendered (s : SharedHandlers δ) (token : Token) : SharedHandlers δ :=
  match s.closing with
  | .giving tokens =>
    { s.setRegistry (s.terminal.registry.unregister token) with
      closing := .giving (tokens.erase token) }
  | _ => s

/-! ## What the steps come to -/

section

variable {s : SharedHandlers δ} {c d : Nat} {stage : Stage} {signal : Signal} {h : Handler}
  {token? : Option Token} {token old : Token} {tokens : List Token}

@[simp] theorem setCall_call_self : (s.setCall c stage).call c = stage := if_pos rfl

theorem setCall_call_of_ne (hne : d ≠ c) : (s.setCall c stage).call d = s.call d := if_neg hne

theorem asked_of_installed (hc : s.call c = .installed signal h) :
    s.asked c = s.setCall c
      (if s.terminal.listens && !s.terminal.closed then .passed signal h else .returned) := by
  unfold asked
  rw [hc]

theorem registered_of_passed (hc : s.call c = .passed signal h) :
    s.registered c =
      let (token, registry) := s.terminal.registry.register signal (Owner.actionFor () h)
      { s.setRegistry registry with given := token.toList ++ s.given }.setCall c
        (.registered signal token) := by
  unfold registered
  rw [hc]

theorem recorded_of_none (hc : s.call c = .registered signal token?)
    (hold : s.terminal.owner.token signal = none) :
    s.recorded c = { s with
      terminal := { s.terminal with owner := s.terminal.owner.hold signal token? } }.setCall c
        .returned := by
  unfold recorded
  rw [hc]
  dsimp only
  rw [hold]

theorem recorded_of_some (hc : s.call c = .registered signal token?)
    (hold : s.terminal.owner.token signal = some old) :
    s.recorded c = { s with
      terminal := { s.terminal with owner := s.terminal.owner.hold signal token? }
      holder := some c }.setCall c (.replacing old) := by
  unfold recorded
  rw [hc]
  dsimp only
  rw [hold]

theorem gaveUp_of_replacing (hc : s.call c = .replacing old) :
    s.gaveUp c = { s.setRegistry (s.terminal.registry.unregister old) with
      holder := none }.setCall c .returned := by
  unfold gaveUp
  rw [hc]

theorem begun_of_open (hopen : s.terminal.closed = false) :
    s.begun = { s with terminal := { s.terminal with closed := true }, closing := .begun } := by
  unfold begun Terminal.beginClose
  rw [hopen]
  rfl

theorem drained_of_begun (hclosing : s.closing = .begun) :
    s.drained = { s with
      terminal := { s.terminal with owner := {} }
      closing := .giving s.terminal.owner.tokens } := by
  unfold drained
  rw [hclosing]

theorem surrendered_of_giving (hclosing : s.closing = .giving tokens) :
    s.surrendered token = { s.setRegistry (s.terminal.registry.unregister token) with
      closing := .giving (tokens.erase token) } := by
  unfold surrendered
  rw [hclosing]

end

variable [Device δ]

/-- The rest of closing done. -/
def finished (s : SharedHandlers δ) : SharedHandlers δ :=
  match s.closing with
  | .giving _ =>
    { s with terminal := s.terminal.changeDevice Terminal.woundUp, closing := .returned }
  | _ => s

theorem finished_of_giving {s : SharedHandlers δ} {tokens : List Token}
    (hclosing : s.closing = .giving tokens) :
    s.finished = { s with
      terminal := s.terminal.changeDevice Terminal.woundUp, closing := .returned } := by
  unfold finished
  rw [hclosing]

/-! ## Acts -/

/-- **When an act can be done.** -/
def Enabled (s : SharedHandlers δ) : Act → Prop
  | .install c _ _ => s.call c = .idle
  | .ask c => ∃ signal h, s.call c = .installed signal h
  | .register c => ∃ signal h, s.call c = .passed signal h
  | .record c => s.holder = none ∧ ∃ signal token, s.call c = .registered signal token
  | .giveUp c => ∃ old, s.call c = .replacing old
  | .begin => s.closing = .idle
  | .drain => s.holder = none ∧ s.closing = .begun
  | .surrender token => ∃ tokens, s.closing = .giving tokens ∧ token ∈ tokens
  | .finish => s.closing = .giving []
  | .registerOther .. => True
  | .giveUpOther token => token ∉ s.given

/-- **What an act does.** -/
def after (s : SharedHandlers δ) : Act → SharedHandlers δ
  | .install c signal h => s.installed c signal h
  | .ask c => s.asked c
  | .register c => s.registered c
  | .record c => s.recorded c
  | .giveUp c => s.gaveUp c
  | .begin => s.begun
  | .drain => s.drained
  | .surrender token => s.surrendered token
  | .finish => s.finished
  | .registerOther signal action =>
    s.setRegistry (s.terminal.registry.register signal action).2
  | .giveUpOther token => s.setRegistry (s.terminal.registry.unregister token)

/-- **What a history leaves.** -/
def play (start : SharedHandlers δ) : List Act → SharedHandlers δ
  | [] => start
  | a :: earlier => (play start earlier).after a

/-- **Whether a history can be**: each act could be done when it was. -/
def Allowed (start : SharedHandlers δ) : List Act → Prop
  | [] => True
  | a :: earlier => Allowed start earlier ∧ (play start earlier).Enabled a

/-! ## Calls that nobody disturbs -/

/-- What comes later goes on from what was left. -/
theorem play_append (start : SharedHandlers δ) (later earlier : List Act) :
    play start (later ++ earlier) = play (play start earlier) later := by
  induction later with
  | nil => rfl
  | cons a later ih => exact congrArg (·.after a) ih

/-- **A call to install a handler that nobody disturbs** installs it. -/
theorem terminal_installed (s : SharedHandlers δ) (c : Nat) (signal : Signal) (h : Handler) :
    (s.play [.giveUp c, .record c, .register c, .ask c, .install c signal h]).terminal
      = s.terminal.installHandler signal h := by
  unfold Terminal.installHandler
  dsimp only [play, after]
  have hinstalled : (s.installed c signal h).call c = .installed signal h := setCall_call_self
  rw [asked_of_installed hinstalled]
  cases hpass : s.terminal.listens && !s.terminal.closed with
  | false => simp [installed, registered, recorded, gaveUp, hpass, setCall]
  | true =>
    cases hold : s.terminal.owner.token signal <;>
      simp [installed, registered, recorded, gaveUp, setCall, setRegistry, hpass, hold,
        Owner.register, Owner.giveUp]

/-- Tokens given up one after the other. -/
theorem play_surrender (s : SharedHandlers δ) (tokens : List Token) {left : List Token}
    (h : s.closing = .giving left) :
    (∃ left', (s.play (tokens.map Act.surrender).reverse).closing = .giving left') ∧
      (s.play (tokens.map Act.surrender).reverse).terminal
        = { s.terminal with registry := tokens.foldl Registry.unregister s.terminal.registry } := by
  induction tokens generalizing s left with
  | nil => exact ⟨⟨left, h⟩, rfl⟩
  | cons token tokens ih =>
    have hone : s.play [.surrender token] = s.surrendered token := rfl
    rw [List.map_cons, List.reverse_cons, play_append, hone, surrendered_of_giving h]
    exact ih _ rfl

/-- **A call to close that nobody disturbs** leaves what closing leaves. -/
theorem terminal_closed (s : SharedHandlers δ) (h : s.terminal.closed = false) :
    (s.play (.finish :: ((s.terminal.owner.tokens.map Act.surrender).reverse
        ++ [.drain, .begin]))).terminal = (Terminal.close.runOn s.terminal).2 := by
  have hdrained : s.play [.drain, .begin] = { s with
      terminal := { s.terminal with closed := true, owner := {} }
      closing := .giving s.terminal.owner.tokens } := by
    show s.begun.drained = _
    rw [begun_of_open h, drained_of_begun rfl]
  obtain ⟨⟨left, hclosing⟩, hterminal⟩ :=
    play_surrender (s.play [.drain, .begin]) s.terminal.owner.tokens (by rw [hdrained])
  rw [play, play_append, Terminal.left_close_of_open h, after, finished_of_giving hclosing]
  rw [hterminal, hdrained]
  rfl

end SharedHandlers

end Teletype
