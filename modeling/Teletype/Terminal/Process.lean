import Teletype.Terminal.Basic

/-!
# A process with several terminals

Signals are sent to the process, and all of its terminals that listen share the one
registry, along with whoever else in the process wants signals. Terminals are opened,
given handlers and closed one call at a time. Each call registers and gives up as it
would if there were no other terminal (`agrees_onto`, `Agrees.handled`, `Agrees.closed`);
what the others have in the registry is all that a terminal could see of them.

Beside the registry there is a ledger, of all registrations that ever were and of the
tokens given up. No act looks at it. It is there to say what the registry should do.

An act does nothing if it could not be done. A history is a list of acts, the latest
first.
-/

namespace Teletype

/-- **Who is called** for a signal. -/
inductive Callee where
  /-- A terminal, to raise the signal. -/
  | terminal (k : Nat)
  /-- A callback of somebody else's. -/
  | callback (id : Nat)
  deriving DecidableEq

namespace Process

/-- **How far a terminal is.** -/
inductive Phase where
  /-- It has not been opened. -/
  | unopened
  /-- It is open. -/
  | opened
  /-- It has been closed. -/
  | closed
  deriving DecidableEq

/-- **What a terminal has to do with signals.** -/
structure Listener where
  /-- Its handlers. -/
  signals : SignalTable := {}
  /-- The tokens it holds. -/
  owner : Owner := {}
  /-- How far it is. -/
  phase : Phase := .unopened

/-- **A registration in the ledger.** -/
structure Entry where
  /-- The proof of it. -/
  token : Token
  /-- The terminal that has registered, or somebody else. -/
  party : Option Nat
  /-- What is to be done. Nothing stands for the reaction of the platform. -/
  action : Option Callee
  deriving DecidableEq

/-- **What may happen next.** -/
inductive Act where
  /-- Somebody registers a callback. -/
  | register (s : Signal) (id : Nat)
  /-- Somebody registers for the reaction of the platform. -/
  | registerDefault (s : Signal)
  /-- Somebody gives up a registration. -/
  | unregister (t : Token)
  /-- A terminal is opened. -/
  | opening (k : Nat)
  /-- A terminal is given a handler. -/
  | handle (k : Nat) (s : Signal) (h : Handler)
  /-- A terminal is closed. -/
  | close (k : Nat)

end Process

/-- **A process with several terminals.** -/
structure Process where
  /-- The registry that all share. -/
  registry : Registry Callee := {}
  /-- The terminals, those that are yet to be opened as well. -/
  listener : Nat → Process.Listener := fun _ => {}
  /-- The tokens that others than terminals hold. -/
  held : List Token := []
  /-- All registrations that ever were, newest first. -/
  entries : List Process.Entry := []
  /-- The tokens that were given up. -/
  released : List Token := []

namespace Process

/-! ## Registering -/

/-- **Registering**, with an entry in the ledger. -/
def register (p : Process) (party : Option Nat) (s : Signal) (action : Option Callee) :
    Option Token × Process :=
  let (t, registry) := p.registry.register s action
  (t, { p with registry, entries := t.toList.map (⟨·, party, action⟩) ++ p.entries })

/-- **Giving a registration up**, with a note in the ledger. -/
def unregister (p : Process) (t : Token) : Process :=
  { p with registry := p.registry.unregister t, released := t :: p.released }

/-- A registration given up that may have been. -/
def giveUp (p : Process) (t : Option Token) : Process :=
  match t with
  | some t => p.unregister t
  | none => p

/-- **A terminal that registers anew**: the new registration comes before the old one
goes. -/
def registerAnew (p : Process) (k : Nat) (o : Owner) (s : Signal) (action : Option Callee) :
    Owner × Process :=
  let (t, p) := p.register (some k) s action
  (o.hold s t, p.giveUp (o.token s))

/-! ## Acts -/

/-- The process with one terminal changed. -/
def setListener (p : Process) (k : Nat) (l : Listener) : Process :=
  { p with listener := fun j => if j = k then l else p.listener j }

/-- Somebody has registered and keeps the token. -/
def registered (p : Process) (s : Signal) (action : Option Callee) : Process :=
  let (t, p) := p.register none s action
  { p with held := t.toList ++ p.held }

/-- Somebody has given up a token. It is spent. -/
def gaveUp (p : Process) (t : Token) : Process :=
  { p.unregister t with held := p.held.filter (· ≠ t) }

/-- A terminal has been opened: it has registered for the reaction of the platform to
every signal. -/
def opened (p : Process) (k : Nat) : Process :=
  let (owner, p) := Signal.all.foldl (fun (o, p) s => registerAnew p k o s none) ({}, p)
  p.setListener k { owner, phase := .opened }

/-- A terminal has been given a handler. -/
def handled (p : Process) (k : Nat) (s : Signal) (h : Handler) : Process :=
  let l := p.listener k
  let signals := l.signals.install s h
  if l.phase = .opened then
    let (owner, p) := p.registerAnew k l.owner s (Owner.actionFor (.terminal k) h)
    p.setListener k { l with signals, owner }
  else p.setListener k { l with signals }

/-- A terminal has been closed. Only the first call does anything. -/
def closed (p : Process) (k : Nat) : Process :=
  let l := p.listener k
  if l.phase = .opened then
    (l.owner.tokens.foldl unregister p).setListener k { l with owner := {}, phase := .closed }
  else p

/-- **When an act can be done.** A token can be given up by who holds it, and there is
nothing to be done with a terminal before it is opened. -/
def Enabled (p : Process) : Act → Prop
  | .register .. | .registerDefault _ => True
  | .unregister t => t ∈ p.held
  | .opening k => (p.listener k).phase = .unopened
  | .handle k .. | .close k => (p.listener k).phase ≠ .unopened

/-- **What an act does.** -/
def after (p : Process) : Act → Process
  | .register s id => p.registered s (some (.callback id))
  | .registerDefault s => p.registered s none
  | .unregister t => p.gaveUp t
  | .opening k => p.opened k
  | .handle k s h => p.handled k s h
  | .close k => p.closed k

/-- **What a history leaves.** -/
def play : List Act → Process
  | [] => {}
  | a :: earlier => (play earlier).after a

/-- **Whether a history can be**: each act could be done when it was. -/
def Allowed : List Act → Prop
  | [] => True
  | a :: earlier => Allowed earlier ∧ (play earlier).Enabled a

/-! ## One terminal among them -/

/-- **The registry as a terminal sees it**: what is done for others is nothing it does. -/
def seenBy (k : Nat) (r : Registry Callee) : Registry Unit where
  issued := r.issued
  stack s := (r.stack s).map fun e =>
    { id := e.id, action := e.action.bind fun c => if c = .terminal k then some () else none }

variable {δ : Type}

/-- **A terminal is one of the process's**: both know the same of it. -/
structure Agrees (p : Process) (k : Nat) (t : Terminal δ) : Prop where
  /-- It listens. -/
  listens : t.listens = true
  /-- It is open in both, or closed in both. -/
  phase : (p.listener k).phase = if t.closed then .closed else .opened
  /-- It has the same handlers. -/
  signals : (p.listener k).signals = t.signals
  /-- It holds the same tokens. -/
  owner : (p.listener k).owner = t.owner
  /-- Its registry is that of the process. -/
  registry : seenBy k p.registry = t.registry

section

variable {p : Process} {k : Nat} {s : Signal} {r : Registry Callee}

theorem seenBy_unregister (t : Token) : seenBy k (r.unregister t) = (seenBy k r).unregister t := by
  unfold seenBy Registry.unregister
  congr 1
  funext x
  by_cases hx : x = t.signal
  · simp only [if_pos hx, List.filter_map]
    rfl
  · simp only [if_neg hx]

theorem seenBy_register {action : Option Callee} {own : Option Unit}
    (h : action.bind (fun c => if c = .terminal k then some () else none) = own) :
    ((r.register s action).1, seenBy k (r.register s action).2) = (seenBy k r).register s own := by
  unfold Registry.register
  by_cases hs : s.isNative = true
  · rw [if_pos hs, if_pos hs]
    congr 1
    unfold seenBy
    congr 1
    funext x
    by_cases hx : x = s
    · simp [hx, h]
    · simp [hx]
  · rw [if_neg hs, if_neg hs]

/-- What an owner does in the process is what it does in the registry it sees. -/
theorem seenBy_registerAnew (o : Owner) {action : Option Callee} {own : Option Unit}
    (h : action.bind (fun c => if c = .terminal k then some () else none) = own) :
    ((p.registerAnew k o s action).1, seenBy k (p.registerAnew k o s action).2.registry)
      = o.register (seenBy k p.registry) s own := by
  have hregister := seenBy_register (r := p.registry) (s := s) h
  unfold Owner.register
  rw [← hregister]
  unfold registerAnew register Owner.giveUp giveUp
  dsimp only
  cases o.token s with
  | none => rfl
  | some t => exact congrArg _ (seenBy_unregister t)

theorem seenBy_foldl_registerAnew (signals : List Signal) (o : Owner) :
    ((signals.foldl (fun (o, p) s => registerAnew p k o s none) (o, p)).1,
        seenBy k (signals.foldl (fun (o, p) s => registerAnew p k o s none) (o, p)).2.registry)
      = signals.foldl (fun (o, r) s => Owner.register o r s none) (o, seenBy k p.registry) := by
  induction signals generalizing o p with
  | nil => rfl
  | cons s signals ih =>
    have hone : ((p.registerAnew k o s none).1, seenBy k (p.registerAnew k o s none).2.registry)
        = o.register (seenBy k p.registry) s none := seenBy_registerAnew o rfl
    rw [List.foldl_cons, List.foldl_cons, ih]
    exact congrArg (signals.foldl _) hone

theorem seenBy_foldl_unregister (tokens : List Token) :
    seenBy k (tokens.foldl unregister p).registry
      = tokens.foldl Registry.unregister (seenBy k p.registry) := by
  induction tokens generalizing p with
  | nil => rfl
  | cons t tokens ih =>
    rw [List.foldl_cons, List.foldl_cons, ih]
    exact congrArg (tokens.foldl _) (seenBy_unregister t)

theorem setListener_self {l : Listener} : (p.setListener k l).listener k = l := if_pos rfl

variable [Device δ] {t : Terminal δ}

/-- **A terminal that is opened** agrees with the process. -/
theorem agrees_onto {device : δ} (hsystem : Device.isSystem device = true) (name type : String)
    (description : Description) (strict : Bool) :
    Agrees (p.opened k) k
      (Terminal.onto device name type description strict true (seenBy k p.registry)) := by
  have hlisten := seenBy_foldl_registerAnew (p := p) (k := k) Signal.all {}
  rw [← Owner.listen, Prod.ext_iff] at hlisten
  unfold Terminal.onto
  simp only [hsystem, Bool.and_true, if_true]
  refine ⟨rfl, ?_, ?_, ?_, ?_⟩
  · exact congrArg Listener.phase setListener_self
  · exact congrArg Listener.signals setListener_self
  · exact (congrArg Listener.owner setListener_self).trans hlisten.1
  · exact hlisten.2

omit [Device δ] in
/-- **A terminal that is given a handler** goes on agreeing. -/
theorem Agrees.handled (h : Agrees p k t) (s : Signal) (handler : Handler) :
    Agrees (p.handled k s handler) k (t.installHandler s handler) := by
  have hown : (Owner.actionFor (.terminal k) handler).bind
      (fun c => if c = Callee.terminal k then some () else none) = Owner.actionFor () handler := by
    unfold Owner.actionFor
    split <;> simp
  have hanew := seenBy_registerAnew (p := p) (s := s) (p.listener k).owner hown
  rw [h.owner, h.registry, Prod.ext_iff] at hanew
  unfold Process.handled Terminal.installHandler
  simp only [h.listens, h.phase, h.signals, h.owner, Bool.true_and]
  cases hclosed : t.closed with
  | false =>
    rw [if_neg Bool.false_ne_true, if_pos rfl, if_pos (by rfl)]
    refine ⟨rfl, ?_, ?_, ?_, hanew.2⟩
    · exact congrArg Listener.phase setListener_self
    · exact congrArg Listener.signals setListener_self
    · exact (congrArg Listener.owner setListener_self).trans hanew.1
  | true =>
    rw [if_pos rfl, if_neg (by decide), if_neg (by decide)]
    refine ⟨rfl, ?_, ?_, ?_, h.registry⟩
    · exact congrArg Listener.phase setListener_self
    · exact congrArg Listener.signals setListener_self
    · exact congrArg Listener.owner setListener_self

/-- **A terminal that is closed** goes on agreeing. -/
theorem Agrees.closed (h : Agrees p k t) : Agrees (p.closed k) k (Terminal.close.runOn t).2 := by
  unfold Process.closed
  cases hclosed : t.closed with
  | false =>
    have hphase : (p.listener k).phase = .opened := by rw [h.phase, hclosed]; rfl
    rw [if_pos hphase, Terminal.left_close_of_open hclosed]
    refine ⟨h.listens, ?_, ?_, ?_, ?_⟩
    · exact congrArg Listener.phase setListener_self
    · exact (congrArg Listener.signals setListener_self).trans h.signals
    · exact congrArg Listener.owner setListener_self
    · refine (seenBy_foldl_unregister _).trans ?_
      rw [h.owner, h.registry]
      rfl
  | true =>
    have hphase : (p.listener k).phase ≠ .opened := by
      rw [h.phase, hclosed]
      exact nofun
    rw [if_neg hphase, Terminal.runOn_close_of_closed hclosed]
    exact h

omit [Device δ] in
/-- **A signal is for a terminal** exactly when the terminal sees it that way. -/
theorem Agrees.dispatch_eq_some_iff (h : Agrees p k t) (s : Signal) :
    t.registry.dispatch s = some () ↔ p.registry.dispatch s = some (.terminal k) := by
  rw [← h.registry]
  unfold Registry.dispatch seenBy
  dsimp only
  rw [List.head?_map]
  cases (p.registry.stack s).head? with
  | none => simp
  | some e => cases he : e.action <;> simp [he]

end

end Process

end Teletype
