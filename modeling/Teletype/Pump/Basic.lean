/-!
# Pumps

A pump runs a body in a thread of its own, over and over: after each round the
body asks whether to go on. A controller may pause the pump, with or without
waiting for the thread to be gone, and resume it.

What the controllers and the thread share is small and guarded by a lock: the
pause flag, the handle of the thread, whether somebody is waiting for a thread
to be gone, and how many threads there were. Each section run under the lock is
one definition here, so that whatever uses a pump – one call after the other, or
all of them interleaved – is built from the same steps.

Whoever waits for a thread takes its handle out of the shared state first, and
nobody else may start or wait until the thread is gone. A thread keeps its
handle there until its body has returned.
-/

namespace Teletype

/-- **The shared state of a pump.** Threads are told apart by their generation,
the number of threads started up to them. -/
structure Pump where
  /-- Whether the pump is paused. -/
  paused : Bool := true
  /-- The thread whose handle is held. -/
  thread : Option Nat := none
  /-- Whether somebody is waiting for a thread to be gone. -/
  joining : Bool := false
  /-- How many threads were started. -/
  generation : Nat := 0
  deriving DecidableEq, Repr

namespace Pump

/-- Whether a thread is there or being waited for. -/
def running (p : Pump) : Bool := p.thread.isSome || p.joining

/-- **Resuming**, entered when nobody is waiting for a thread: the pause is over,
and a thread is started unless there is one. -/
def resume (p : Pump) : Pump :=
  match p.thread with
  | some _ => { p with paused := false }
  | none =>
    { p with paused := false, generation := p.generation + 1, thread := some (p.generation + 1) }

theorem resume_of_some {p : Pump} {g : Nat} (h : p.thread = some g) :
    p.resume = { p with paused := false } := by
  unfold resume
  rw [h]

theorem resume_of_none {p : Pump} (h : p.thread = none) :
    p.resume = { p with
      paused := false, generation := p.generation + 1, thread := some (p.generation + 1) } := by
  unfold resume
  rw [h]

/-- **Pausing**: the first section of any pause. -/
def pause (p : Pump) : Pump := { p with paused := true }

/-- Whether a pause that waits was called by the pump's own thread, which cannot
wait for itself. -/
def isOwn (p : Pump) (caller : Option Nat) : Bool := caller.isSome && p.thread == caller

theorem isOwn_some_iff {p : Pump} {g : Nat} : p.isOwn (some g) = true ↔ p.thread = some g := by
  simp [isOwn]

/-- **Taking the handle**: the second section of a pause that waits, entered when
nobody else is waiting. The thread to wait for, if there is one. -/
def take (p : Pump) : Option Nat × Pump :=
  match p.thread with
  | some g => (some g, { p with paused := true, thread := none, joining := true })
  | none => (none, { p with paused := true })

theorem take_of_some {p : Pump} {g : Nat} (h : p.thread = some g) :
    p.take = (some g, { p with paused := true, thread := none, joining := true }) := by
  unfold take
  rw [h]

theorem take_of_none {p : Pump} (h : p.thread = none) :
    p.take = (none, { p with paused := true }) := by
  unfold take
  rw [h]

/-- **The wait is over**: the last section of a pause that waited. -/
def joined (p : Pump) : Pump := { p with joining := false }

/-- **Whether a thread shall go on**: it was not paused, and no other thread has
been started since. -/
def keepsRunning (p : Pump) (g : Nat) : Bool := p.generation == g && !p.paused

/-- **A body has returned**: its thread gives up its handle, unless another thread
has been started since. -/
def finish (p : Pump) (g : Nat) : Pump :=
  if p.generation = g then { p with thread := none } else p

theorem finish_of_none {p : Pump} (h : p.thread = none) (g : Nat) : p.finish g = p := by
  unfold finish
  split
  · rw [← h]
  · rfl

@[simp] theorem finish_paused (p : Pump) (g : Nat) : (p.finish g).paused = p.paused := by
  unfold finish
  split <;> rfl

end Pump

end Teletype
