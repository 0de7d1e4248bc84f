import Teletype.Pump.Basic

/-!
# A pump among its callers

Any number of controllers may resume and pause one pump, each from a thread of its
own, and the body of the pump may call it too. Here every call is cut into the acts
that nothing can come between: the sections run under the lock, the checks a body
makes, its return, the end of its thread, and the moment at which somebody who waits
for a thread finds it gone.

Whoever finds somebody else waiting for a thread has to wait in turn. When the wait
is over, all who wait race: a pause goes on to take whatever handle there is by then,
and a resume may have put a new one there.

A history is a list of acts, the latest first. `play` is the state it leaves, and
`Allowed` says that each of its acts could be done when it was.
-/

namespace Teletype

namespace SharedPump

/-- **How far a thread is.** -/
inductive Phase where
  /-- It has not been started. -/
  | unborn
  /-- Its body goes on. -/
  | looping
  /-- A check has told its body to stop. -/
  | leaving
  /-- Its body has returned. -/
  | ended
  /-- It has given up its handle. -/
  | gone
  deriving DecidableEq, Repr

/-- **Who calls a pump**: a controller, or the body that a thread runs. -/
inductive Caller where
  /-- One of the controllers. -/
  | controller (i : Nat)
  /-- The body of a thread. -/
  | body (g : Nat)
  deriving DecidableEq, Repr

/-- The pump's own thread that a caller runs in, if it does. -/
def Caller.thread? : Caller → Option Nat
  | controller _ => none
  | body g => some g

/-- What may be asked of a pump. -/
inductive Request where
  | resume
  | pause (wait : Bool)
  deriving DecidableEq, Repr

/-- **How far a call is.** -/
inductive Call where
  /-- There is none under way. -/
  | idle
  /-- A resume that has not been carried out. -/
  | resuming
  /-- A pause that has not set the flag. -/
  | pausing (wait : Bool)
  /-- A pause behind somebody who waits for a thread. -/
  | waiting
  /-- A pause that waits for a thread, with its handle. -/
  | joining (g : Nat)
  /-- A pause whose thread is gone. -/
  | joined
  deriving DecidableEq, Repr

/-- A call just begun. -/
def Request.call : Request → Call
  | resume => .resuming
  | pause wait => .pausing wait

/-- Whether a call keeps the others from starting a thread or waiting for one. -/
def Call.holds : Call → Bool
  | joining _ => true
  | joined => true
  | _ => false

/-- **What may happen next.** -/
inductive Act where
  /-- A call begins. -/
  | begin (c : Caller) (r : Request)
  /-- A resume is carried out. -/
  | resume (c : Caller)
  /-- The first section of a pause. -/
  | pause (c : Caller) (wait : Bool)
  /-- A pause that had to wait its turn takes the handle. -/
  | take (c : Caller)
  /-- A pause finds the thread gone that it waits for. -/
  | join (c : Caller) (g : Nat)
  /-- The last section of a pause that waited for a thread. -/
  | release (c : Caller)
  /-- A body asks whether to go on. -/
  | check (g : Nat)
  /-- A body returns that was told to stop. -/
  | leave (g : Nat)
  /-- A body returns of its own accord. -/
  | quit (g : Nat)
  /-- A thread whose body has returned gives up its handle. -/
  | drop (g : Nat)
  deriving DecidableEq, Repr

end SharedPump

/-- **A pump with its threads and the calls under way.** -/
@[ext] structure SharedPump where
  /-- What the lock guards. -/
  pump : Pump := {}
  /-- How many threads were started. -/
  started : Nat := 0
  /-- How far each thread is. -/
  phase : Nat → SharedPump.Phase := fun _ => .unborn
  /-- How far the call of each caller is. -/
  call : SharedPump.Caller → SharedPump.Call := fun _ => .idle

namespace SharedPump

/-- Whether a thread executes its body. -/
def Executing (s : SharedPump) (g : Nat) : Prop := s.phase g = .looping ∨ s.phase g = .leaving

/-- Whether a thread has executed its body. -/
def Returned (s : SharedPump) (g : Nat) : Prop := s.phase g = .ended ∨ s.phase g = .gone

/-- Whether a caller is there to call: a body only while it is executed. -/
def Present (s : SharedPump) : Caller → Prop
  | .controller _ => True
  | .body g => s.Executing g

instance (s : SharedPump) (g : Nat) : Decidable (s.Executing g) :=
  inferInstanceAs (Decidable (_ ∨ _))

instance (s : SharedPump) (g : Nat) : Decidable (s.Returned g) :=
  inferInstanceAs (Decidable (_ ∨ _))

instance (s : SharedPump) : (c : Caller) → Decidable (s.Present c)
  | .controller _ => inferInstanceAs (Decidable True)
  | .body g => inferInstanceAs (Decidable (s.Executing g))

/-! ## Acts -/

/-- The call of one caller changed. -/
def setCall (s : SharedPump) (c : Caller) (k : Call) : SharedPump :=
  { s with call := fun d => if d = c then k else s.call d }

/-- The phase of one thread changed. -/
def setPhase (s : SharedPump) (g : Nat) (p : Phase) : SharedPump :=
  { s with phase := fun h => if h = g then p else s.phase h }

/-- What the lock guards changed. -/
def setPump (s : SharedPump) (p : Pump) : SharedPump := { s with pump := p }

@[simp] theorem setCall_call (s : SharedPump) (c d : Caller) (k : Call) :
    (s.setCall c k).call d = if d = c then k else s.call d := rfl

@[simp] theorem setCall_pump (s : SharedPump) (c : Caller) (k : Call) :
    (s.setCall c k).pump = s.pump := rfl

@[simp] theorem setCall_phase (s : SharedPump) (c : Caller) (k : Call) :
    (s.setCall c k).phase = s.phase := rfl

@[simp] theorem setCall_started (s : SharedPump) (c : Caller) (k : Call) :
    (s.setCall c k).started = s.started := rfl

@[simp] theorem setPhase_phase (s : SharedPump) (g h : Nat) (p : Phase) :
    (s.setPhase g p).phase h = if h = g then p else s.phase h := rfl

@[simp] theorem setPhase_call (s : SharedPump) (g : Nat) (p : Phase) :
    (s.setPhase g p).call = s.call := rfl

@[simp] theorem setPhase_pump (s : SharedPump) (g : Nat) (p : Phase) :
    (s.setPhase g p).pump = s.pump := rfl

@[simp] theorem setPhase_started (s : SharedPump) (g : Nat) (p : Phase) :
    (s.setPhase g p).started = s.started := rfl

@[simp] theorem setPump_pump (s : SharedPump) (p : Pump) : (s.setPump p).pump = p := rfl

@[simp] theorem setPump_call (s : SharedPump) (p : Pump) : (s.setPump p).call = s.call := rfl

@[simp] theorem setPump_phase (s : SharedPump) (p : Pump) : (s.setPump p).phase = s.phase := rfl

@[simp] theorem setPump_started (s : SharedPump) (p : Pump) :
    (s.setPump p).started = s.started := rfl

theorem setCall_eq_self {s : SharedPump} {c : Caller} {k : Call} (h : s.call c = k) :
    s.setCall c k = s := by
  ext d
  · rfl
  · rfl
  · rfl
  · by_cases hd : d = c <;> simp [hd, h]

theorem setCall_setCall (s : SharedPump) (c : Caller) (k r : Call) :
    (s.setCall c k).setCall c r = s.setCall c r := by
  ext d
  · rfl
  · rfl
  · rfl
  · by_cases hd : d = c <;> simp [hd]

theorem setPhase_eq_self {s : SharedPump} {g : Nat} {p : Phase} (h : s.phase g = p) :
    s.setPhase g p = s := by
  ext h'
  · rfl
  · rfl
  · by_cases hne : h' = g <;> simp [hne, h]
  · rfl

theorem setPhase_setPhase (s : SharedPump) (g : Nat) (p r : Phase) :
    (s.setPhase g p).setPhase g r = s.setPhase g r := by
  ext h
  · rfl
  · rfl
  · by_cases hh : h = g <;> simp [hh]
  · rfl

/-- **The pump resumed.** Without a handle a thread is started, and its body begins. -/
def resumed (s : SharedPump) : SharedPump :=
  match s.pump.thread with
  | some _ => s.setPump s.pump.resume
  | none =>
    ({ s with started := s.started + 1 }.setPhase s.pump.resume.generation .looping).setPump
      s.pump.resume

theorem resumed_of_some {s : SharedPump} {g : Nat} (h : s.pump.thread = some g) :
    s.resumed = s.setPump { s.pump with paused := false } := by
  rw [resumed, h, Pump.resume_of_some h]

theorem resumed_of_none {s : SharedPump} (h : s.pump.thread = none) :
    s.resumed = ({ s with started := s.started + 1 }.setPhase (s.pump.generation + 1)
      .looping).setPump { s.pump with
        paused := false
        generation := s.pump.generation + 1
        thread := some (s.pump.generation + 1) } := by
  rw [resumed, h, Pump.resume_of_none h]

@[simp] theorem resumed_pump (s : SharedPump) : s.resumed.pump = s.pump.resume := by
  unfold resumed
  split <;> rfl

@[simp] theorem resumed_call (s : SharedPump) : s.resumed.call = s.call := by
  unfold resumed
  split <;> rfl

/-- **The handle taken** by a pause that waits. Without one there is nothing to wait
for, and the call returns. -/
def taken (s : SharedPump) (c : Caller) : SharedPump :=
  match s.pump.take with
  | (some g, p) => (s.setPump p).setCall c (.joining g)
  | (none, p) => (s.setPump p).setCall c .idle

theorem taken_of_some {s : SharedPump} {g : Nat} (h : s.pump.thread = some g) (c : Caller) :
    s.taken c = (s.setPump { s.pump with
      paused := true, thread := none, joining := true }).setCall c (.joining g) := by
  rw [taken, Pump.take_of_some h]

theorem taken_call_of_some {s : SharedPump} {g : Nat} (h : s.pump.thread = some g) (c : Caller) :
    (s.taken c).call c = .joining g := by
  rw [taken_of_some h, setCall_call, if_pos rfl]

theorem taken_of_none {s : SharedPump} (h : s.pump.thread = none) (c : Caller) :
    s.taken c = (s.setPump { s.pump with paused := true }).setCall c .idle := by
  rw [taken, Pump.take_of_none h]

/-- **The pump paused.** Unless it has to wait for its turn, a pause that waits takes
the handle in the same section. -/
def paused (s : SharedPump) (c : Caller) (wait : Bool) : SharedPump :=
  if wait && !s.pump.pause.isOwn c.thread? then
    if s.pump.joining then (s.setPump s.pump.pause).setCall c .waiting
    else (s.setPump s.pump.pause).taken c
  else (s.setPump s.pump.pause).setCall c .idle

/-- A controller that pauses and waits gets in line, or goes on to take the handle. -/
theorem paused_call_controller (s : SharedPump) (i : Nat) :
    (s.paused (.controller i) true).call (.controller i) = .waiting
      ∨ s.pump.joining = false ∧ ∀ {g}, s.pump.thread = some g →
          (s.paused (.controller i) true).call (.controller i) = .joining g := by
  unfold paused
  rw [if_pos (by rfl)]
  split
  · exact .inl (if_pos rfl)
  · next hjoining =>
    exact .inr ⟨Bool.of_not_eq_true hjoining, fun hthread => taken_call_of_some hthread _⟩

@[simp] theorem taken_phase (s : SharedPump) (c : Caller) : (s.taken c).phase = s.phase := by
  unfold taken
  split <;> rfl

@[simp] theorem paused_phase (s : SharedPump) (c : Caller) (wait : Bool) :
    (s.paused c wait).phase = s.phase := by
  unfold paused
  split
  · split
    · rfl
    · exact taken_phase ..
  · rfl

@[simp] theorem taken_pump_paused (s : SharedPump) (c : Caller) :
    (s.taken c).pump.paused = true := by
  cases hthread : s.pump.thread with
  | none => rw [taken_of_none hthread]; rfl
  | some g => rw [taken_of_some hthread]; rfl

@[simp] theorem paused_pump_paused (s : SharedPump) (c : Caller) (wait : Bool) :
    (s.paused c wait).pump.paused = true := by
  unfold paused
  split
  · split
    · rfl
    · exact taken_pump_paused ..
  · rfl

/-- **When an act can be done.** A body does nothing else while it calls. -/
def Enabled (s : SharedPump) : Act → Prop
  | .begin c _ => s.call c = .idle ∧ s.Present c
  | .resume c => s.call c = .resuming ∧ s.pump.joining = false
  | .pause c wait => s.call c = .pausing wait
  | .take c => s.call c = .waiting ∧ s.pump.joining = false
  | .join c g => s.call c = .joining g ∧ s.phase g = .gone
  | .release c => s.call c = .joined
  | .check g => s.call (.body g) = .idle ∧ s.phase g = .looping
  | .leave g => s.call (.body g) = .idle ∧ s.phase g = .leaving
  | .quit g => s.call (.body g) = .idle ∧ s.phase g = .looping
  | .drop g => s.phase g = .ended

/-- **What an act does.** -/
def after (s : SharedPump) : Act → SharedPump
  | .begin c r => s.setCall c r.call
  | .resume c => s.resumed.setCall c .idle
  | .pause c wait => s.paused c wait
  | .take c => s.taken c
  | .join c _ => s.setCall c .joined
  | .release c => (s.setPump s.pump.joined).setCall c .idle
  | .check g => s.setPhase g (if s.pump.keepsRunning g then .looping else .leaving)
  | .leave g => s.setPhase g .ended
  | .quit g => s.setPhase g .ended
  | .drop g => (s.setPump (s.pump.finish g)).setPhase g .gone

instance (s : SharedPump) : (a : Act) → Decidable (s.Enabled a)
  | .begin _ _ => inferInstanceAs (Decidable (_ ∧ _))
  | .resume _ => inferInstanceAs (Decidable (_ ∧ _))
  | .pause _ _ => inferInstanceAs (Decidable (_ = _))
  | .take _ => inferInstanceAs (Decidable (_ ∧ _))
  | .join _ _ => inferInstanceAs (Decidable (_ ∧ _))
  | .release _ => inferInstanceAs (Decidable (_ = _))
  | .check _ => inferInstanceAs (Decidable (_ ∧ _))
  | .leave _ => inferInstanceAs (Decidable (_ ∧ _))
  | .quit _ => inferInstanceAs (Decidable (_ ∧ _))
  | .drop _ => inferInstanceAs (Decidable (_ = _))

/-! ## Whose call an act is -/

/-- The caller whose call an act is part of. -/
def Act.caller? : Act → Option Caller
  | begin c _ | resume c | pause c _ | take c | join c _ | release c => some c
  | check _ | leave _ | quit _ | drop _ => none

section

variable {s : SharedPump} {c d : Caller} {a : Act} {g : Nat}

theorem taken_call_of_ne (h : d ≠ c) : (s.taken c).call d = s.call d := by
  unfold taken
  split <;> simp [h]

theorem paused_call_of_ne (h : d ≠ c) (wait : Bool) : (s.paused c wait).call d = s.call d := by
  unfold paused
  split
  · split
    · simp [h]
    · exact taken_call_of_ne h
  · simp [h]

/-- **A call goes on only by acts of its own.** -/
theorem call_after_of_ne (h : a.caller? ≠ some d) : (s.after a).call d = s.call d := by
  have hne : ∀ {c}, a.caller? = some c → d ≠ c := by
    rintro c hc rfl
    exact h hc
  cases a with
  | begin c r => simp [after, hne rfl]
  | resume c => simp [after, hne rfl]
  | pause c wait => exact paused_call_of_ne (hne rfl) wait
  | take c => exact taken_call_of_ne (hne rfl)
  | join c g => simp [after, hne rfl]
  | release c => simp [after, hne rfl]
  | check g => rfl
  | leave g => rfl
  | quit g => rfl
  | drop g => rfl

/-! What a caller can do next is settled by how far its call is. -/

theorem Enabled.eq_pause (ha : s.Enabled a) (hc : a.caller? = some c) {wait : Bool}
    (hcall : s.call c = .pausing wait) : a = .pause c wait := by
  cases a <;> simp_all [Enabled, Act.caller?]

theorem Enabled.eq_take (ha : s.Enabled a) (hc : a.caller? = some c)
    (hcall : s.call c = .waiting) : a = .take c := by
  cases a <;> simp_all [Enabled, Act.caller?]

theorem Enabled.eq_join (ha : s.Enabled a) (hc : a.caller? = some c)
    (hcall : s.call c = .joining g) : a = .join c g := by
  cases a <;> simp_all [Enabled, Act.caller?]

end

/-! ## Histories -/

/-- **The state that a history leaves**, from a pump that has just been made. -/
def play : List Act → SharedPump
  | [] => {}
  | a :: earlier => (play earlier).after a

/-- **Whether a history can be**: each act could be done when it was. -/
def Allowed : List Act → Prop
  | [] => True
  | a :: earlier => Allowed earlier ∧ (play earlier).Enabled a

instance : (history : List Act) → Decidable (Allowed history)
  | [] => inferInstanceAs (Decidable True)
  | a :: earlier =>
    let _ : Decidable (Allowed earlier) := instDecidableAllowed earlier
    inferInstanceAs (Decidable (Allowed earlier ∧ (play earlier).Enabled a))

@[simp] theorem play_cons (a : Act) (earlier : List Act) :
    play (a :: earlier) = (play earlier).after a := rfl

/-- Whoever takes no part in a history has no call under way. -/
theorem play_call_of_forall {c : Caller} {history : List Act}
    (h : ∀ a ∈ history, a.caller? ≠ some c) : (play history).call c = .idle := by
  induction history with
  | nil => rfl
  | cons a earlier ih =>
    rw [play_cons, call_after_of_ne (h a List.mem_cons_self)]
    exact ih fun b hb => h b (List.mem_cons_of_mem a hb)

/-- What is past of a history could be. -/
theorem Allowed.of_append {later earlier : List Act} (h : Allowed (later ++ earlier)) :
    Allowed earlier := by
  induction later with
  | nil => exact h
  | cons a later ih => exact ih h.1

end SharedPump

end Teletype
