import Teletype.Proofs.Pump.Ownership
import Teletype.Pump.Sequential

/-!
# One controller, one call after the other

A pump under one controller, whose threads are let end before its next call, is a
pump among its callers after a history in which nothing comes between the acts of a
call. So what holds of every history holds of it, and whatever the one answers the
other could have answered (`Mirrors`).

With nothing in between, a call that does not wait is one section of the pump
(`play_resume`, `play_pause`), and so is the end of a thread (`play_leave`,
`play_quit`). A call that waits is one section before the thread ends and one after it
(`play_pauseWait`, `play_waitActs`).
-/

namespace Teletype

namespace SharedPump

variable {history : List Act} {c : Caller} {g i : Nat}

/-! ## Calls with nothing in between -/

theorem setCall_resumed (s : SharedPump) (c : Caller) (k : Call) :
    (s.setCall c k).resumed = s.resumed.setCall c k := by
  unfold resumed
  rw [setCall_pump]
  split <;> rfl

/-- A resume is its section. -/
theorem play_resume (h : (play history).call c = .idle) :
    play (.resume c :: .begin c .resume :: history) = (play history).resumed := by
  show ((play history).setCall c .resuming).resumed.setCall c .idle = _
  rw [setCall_resumed, setCall_setCall, setCall_eq_self]
  rw [resumed_call, h]

/-- A pause that waits for nobody is its first section. -/
theorem play_pause (h : (play history).call c = .idle) {wait : Bool}
    (hwait : (wait && !(play history).pump.pause.isOwn c.thread?) = false) :
    play (.pause c wait :: .begin c (.pause wait) :: history)
      = (play history).setPump (play history).pump.pause := by
  show ((play history).setCall c (.pausing wait)).paused c wait = _
  unfold paused
  rw [setCall_pump, hwait, if_neg Bool.false_ne_true]
  exact (setCall_setCall ((play history).setPump _) c _ _).trans (setCall_eq_self h)

/-- The end of a thread, whose body has been told to stop, is the section in which it
gives up its handle. -/
theorem play_leave (history : List Act) (g : Nat) :
    play (.drop g :: .leave g :: .check g :: history)
      = ((play history).setPump ((play history).pump.finish g)).setPhase g .gone := by
  ext h
  · rfl
  · rfl
  · by_cases hh : h = g <;> simp [after, hh]
  · rfl

/-- So is the end of a thread whose body returns of its own accord. -/
theorem play_quit (history : List Act) (g : Nat) :
    play (.drop g :: .quit g :: history)
      = ((play history).setPump ((play history).pump.finish g)).setPhase g .gone :=
  setPhase_setPhase ((play history).setPump ((play history).pump.finish g)) g .ended .gone

/-- Whoever does not call may pause. -/
theorem Allowed.pause (h : Allowed history) (c : Caller) (wait : Bool)
    (hcall : (play history).call c = .idle) (hpresent : (play history).Present c) :
    Allowed (.pause c wait :: .begin c (.pause wait) :: history) :=
  ⟨⟨h, hcall, hpresent⟩, by simp [Enabled, after, Request.call]⟩

/-- A body can be told to stop, and return, while its pump is paused. -/
theorem Allowed.leave (h : Allowed history) (hcall : (play history).call (.body g) = .idle)
    (hphase : (play history).phase g = .looping) (hpaused : (play history).pump.paused = true) :
    Allowed (.drop g :: .leave g :: .check g :: history) := by
  refine ⟨⟨⟨h, hcall, hphase⟩, hcall, ?_⟩, if_pos rfl⟩
  simp [after, Pump.keepsRunning, hpaused]

/-! A pause that waits takes the handle, and returns when the thread has come to its
end. -/

/-- The handle taken is all there is to the call so far. -/
theorem setCall_taken (s : SharedPump) (k : Call) :
    ((s.setCall c k).setPump s.pump.pause).taken c = s.taken c := by
  cases hthread : s.pump.thread with
  | some g =>
    rw [taken_of_some hthread, taken_of_some (s := (s.setCall c k).setPump s.pump.pause) hthread]
    exact setCall_setCall (s.setPump _) c k _
  | none =>
    rw [taken_of_none hthread, taken_of_none (s := (s.setCall c k).setPump s.pump.pause) hthread]
    exact setCall_setCall (s.setPump _) c k _

/-- A pause of a controller that waits, when nobody else does, takes the handle. -/
theorem play_pauseWait (hfree : (play history).pump.joining = false) :
    play (.pause (.controller i) true :: .begin (.controller i) (.pause true) :: history)
      = (play history).taken (.controller i) := by
  show ((play history).setCall (.controller i) (.pausing true)).paused (.controller i) true = _
  unfold paused
  rw [if_pos (by rfl), if_neg (by simpa using hfree)]
  exact setCall_taken (play history) (.pausing true)

/-- The thread that is waited for comes to its end, and the wait is over. -/
def waitActs (i g : Nat) (history : List Act) : List Act :=
  .release (.controller i) :: .join (.controller i) g :: .drop g :: .leave g :: .check g :: history

theorem play_waitActs (history : List Act) (i g : Nat) :
    play (waitActs i g history)
      = (((play history).setPump ((play history).pump.finish g).joined).setPhase g .gone).setCall
          (.controller i) .idle := by
  show (((play (.drop g :: .leave g :: .check g :: history)).setPump _).setCall (.controller i)
    .joined).setCall (.controller i) .idle = _
  rw [play_leave, setCall_setCall]
  rfl

theorem Allowed.wait (h : Allowed history)
    (hcall : (play history).call (.controller i) = .joining g)
    (hbody : (play history).call (.body g) = .idle)
    (hphase : (play history).phase g = .looping) (hpaused : (play history).pump.paused = true) :
    Allowed (waitActs i g history) := by
  refine ⟨⟨h.leave hbody hphase hpaused, ?_⟩, if_pos rfl⟩
  show SharedPump.Enabled (play (.drop g :: .leave g :: .check g :: history)) _
  rw [play_leave]
  exact ⟨hcall, if_pos rfl⟩

/-! ## The two pumps -/

/-- **A pump between two calls of one controller**: nobody calls, every body that was
begun has returned but the one that goes on, and its thread is the one that has a
handle. -/
structure Mirrors (s : SharedPump) (q : SequentialPump) : Prop where
  /-- Nobody calls. -/
  quiet : ∀ c, s.call c = .idle
  /-- What the lock guards is the same. -/
  pump : s.pump = q.pump
  /-- As many bodies were begun. -/
  started : s.started = q.started
  /-- All but one of them have returned, or all when there is no handle. -/
  ended : q.pump.thread.isSome.toNat + q.ended = q.started
  /-- Nobody waits for a thread. -/
  free : s.pump.joining = false
  /-- The thread that has a handle goes on. -/
  goesOn : ∀ g, s.pump.thread = some g → s.phase g = .looping

namespace Mirrors

variable {s : SharedPump} {q : SequentialPump}

theorem resumed (h : Mirrors s q) : Mirrors s.resumed q.resume := by
  have hquiet : ∀ c, s.resumed.call c = .idle := fun c =>
    (congrFun (resumed_call s) c).trans (h.quiet c)
  have hpump : s.resumed.pump = q.pump.resume := (resumed_pump s).trans (congrArg _ h.pump)
  have hended := h.ended
  cases hthread : q.pump.thread with
  | some g =>
    have hresumed := resumed_of_some ((congrArg Pump.thread h.pump).trans hthread)
    have hq : q.pump.resume = { q.pump with paused := false } := Pump.resume_of_some hthread
    refine ⟨hquiet, hpump, ?_, ?_, ?_, ?_⟩
    · simp [hresumed, SequentialPump.resume, hq, h.started]
    · simpa [SequentialPump.resume, hq] using hended
    · simpa [hresumed] using h.free
    · simpa [hresumed] using h.goesOn
  | none =>
    have hresumed := resumed_of_none ((congrArg Pump.thread h.pump).trans hthread)
    have hq := Pump.resume_of_none hthread
    refine ⟨hquiet, hpump, ?_, ?_, ?_, ?_⟩
    · simp [hresumed, SequentialPump.resume, hq, h.started]
    · simp [hthread] at hended
      simp [SequentialPump.resume, hq, hended, Nat.add_comm]
    · simpa [hresumed] using h.free
    · simp [hresumed]

theorem paused (h : Mirrors s q) :
    Mirrors (s.setPump s.pump.pause) { q with pump := q.pump.pause } where
  quiet := h.quiet
  pump := congrArg Pump.pause h.pump
  started := h.started
  ended := h.ended
  free := h.free
  goesOn := h.goesOn

/-- The thread that goes on comes to its end. -/
theorem finished (h : Mirrors s q) (hs : s.Consistent) (hthread : s.pump.thread = some g) :
    Mirrors ((s.setPump (s.pump.finish g)).setPhase g .gone) q.finish := by
  have hlatest : s.pump.generation = g := (hs.latest g (hs.held g hthread).1).symm
  have hfinish : s.pump.finish g = { s.pump with thread := none } := by
    rw [Pump.finish, if_pos hlatest]
  have hq : q.finish = { q with pump := s.pump.finish g, ended := q.ended + 1 } := by
    rw [SequentialPump.finish, ← h.pump, hthread]
  have hended := h.ended
  rw [← h.pump, hthread] at hended
  rw [hq, hfinish]
  refine ⟨h.quiet, rfl, h.started, ?_, h.free, fun g' hg' => absurd hg' (by simp)⟩
  simpa [Nat.add_comm] using hended

/-- The thread that goes on has been waited for, to its end. -/
theorem waited (h : Mirrors s q) (hthread : s.pump.thread = some g) (c : Caller) :
    Mirrors ((((s.taken c).setPump ((s.taken c).pump.finish g).joined).setPhase g .gone).setCall
      c .idle) q.pauseAndWait := by
  have hqthread : q.pump.thread = some g := (congrArg Pump.thread h.pump).symm.trans hthread
  have hwait : q.pauseAndWait = { q with
      pump := { q.pump with paused := true, thread := none, joining := false }
      ended := q.ended + 1 } := by
    rw [SequentialPump.pauseAndWait, Pump.take_of_some (p := q.pump.pause) hqthread]
    simp only [Pump.finish_of_none]
    rfl
  have hended := h.ended
  rw [hqthread] at hended
  rw [taken_of_some hthread, setCall_pump, setPump_pump, Pump.finish_of_none rfl, h.pump, hwait]
  refine ⟨fun d => ?_, rfl, h.started, ?_, rfl, fun g' hg' => absurd hg' (by simp [Pump.joined])⟩
  · by_cases hd : d = c <;> simp [hd, h.quiet d]
  · simpa [Nat.add_comm] using hended

end Mirrors

end SharedPump

namespace SequentialPump

open SharedPump

/-- Whether a pump can have come about by a history. -/
def Mirrored (q : SequentialPump) : Prop :=
  ∃ history, Allowed history ∧ Mirrors (play history) q

namespace Mirrored

variable {q : SequentialPump}

theorem resume : q.Mirrored → q.resume.Mirrored := by
  rintro ⟨history, h, hm⟩
  refine ⟨.resume (.controller 0) :: .begin (.controller 0) .resume :: history, ?_, ?_⟩
  · exact ⟨⟨h, hm.quiet _, trivial⟩, by simp [after, Request.call], hm.free⟩
  · rw [play_resume (hm.quiet _)]
    exact hm.resumed

/-- A body that goes on may return of its own accord. -/
theorem finish : q.Mirrored → q.finish.Mirrored := by
  rintro ⟨history, h, hm⟩
  cases hthread : (play history).pump.thread with
  | none =>
    rw [SequentialPump.finish, ← hm.pump, hthread]
    exact ⟨history, h, hm⟩
  | some g =>
    refine ⟨.drop g :: .quit g :: history, ?_, ?_⟩
    · exact ⟨⟨h, hm.quiet _, hm.goesOn g hthread⟩, by simp [Enabled, after]⟩
    · rw [play_quit]
      exact hm.finished h.consistent hthread

/-- It does return when it is told to. -/
theorem leave (hpaused : q.pump.paused = true) : q.Mirrored → q.finish.Mirrored := by
  rintro ⟨history, h, hm⟩
  cases hthread : (play history).pump.thread with
  | none =>
    rw [SequentialPump.finish, ← hm.pump, hthread]
    exact ⟨history, h, hm⟩
  | some g =>
    refine ⟨.drop g :: .leave g :: .check g :: history, ?_, ?_⟩
    · exact h.leave (hm.quiet _) (hm.goesOn g hthread) (hm.pump ▸ hpaused)
    · rw [play_leave]
      exact hm.finished h.consistent hthread

theorem pause : q.Mirrored → q.pause.Mirrored := by
  rintro ⟨history, h, hm⟩
  refine Mirrored.leave rfl
    ⟨.pause (.controller 0) false :: .begin (.controller 0) (.pause false) :: history, ?_, ?_⟩
  · exact h.pause (.controller 0) false (hm.quiet _) trivial
  · rw [play_pause (hm.quiet _) rfl]
    exact hm.paused

theorem pauseSelf : q.Mirrored → q.pauseSelf.Mirrored := by
  rintro ⟨history, h, hm⟩
  unfold SequentialPump.pauseSelf
  cases hthread : (play history).pump.thread with
  | none =>
    rw [if_neg (by simp [SequentialPump.running, Pump.running, ← hm.pump, hthread, hm.free])]
    exact ⟨history, h, hm⟩
  | some g =>
    rw [if_pos (by simp [SequentialPump.running, Pump.running, ← hm.pump, hthread])]
    refine Mirrored.leave rfl
      ⟨.pause (.body g) true :: .begin (.body g) (.pause true) :: history, ?_, ?_⟩
    · exact h.pause (.body g) true (hm.quiet _) (.inl (hm.goesOn g hthread))
    · have hown : (play history).pump.pause.isOwn (some g) = true :=
        Pump.isOwn_some_iff.mpr hthread
      rw [play_pause (hm.quiet _) (by simp [Caller.thread?, hown])]
      exact hm.paused

theorem pauseAndWait : q.Mirrored → q.pauseAndWait.Mirrored := by
  rintro ⟨history, h, hm⟩
  let begun : List Act :=
    .pause (.controller 0) true :: .begin (.controller 0) (.pause true) :: history
  have hbegun : Allowed begun := h.pause (.controller 0) true (hm.quiet _) trivial
  have htaken : play begun = (play history).taken (.controller 0) := play_pauseWait hm.free
  cases hthread : (play history).pump.thread with
  | none =>
    have hqthread : q.pump.thread = none := (congrArg Pump.thread hm.pump).symm.trans hthread
    have hwait : q.pauseAndWait = { q with pump := q.pump.pause } := by
      rw [SequentialPump.pauseAndWait, Pump.take_of_none (p := q.pump.pause) hqthread]
      rfl
    refine ⟨begun, hbegun, ?_⟩
    rw [htaken, taken_of_none hthread, setCall_eq_self (by exact hm.quiet _), hwait]
    exact hm.paused
  | some g =>
    refine ⟨waitActs 0 g begun, ?_, ?_⟩
    · refine hbegun.wait ?_ ?_ ?_ ?_ <;> rw [htaken]
      · exact taken_call_of_some hthread _
      · rw [taken_call_of_ne (by simp)]
        exact hm.quiet _
      · rw [taken_phase]
        exact hm.goesOn g hthread
      · exact taken_pump_paused ..
    · rw [play_waitActs, htaken]
      exact hm.waited hthread _

theorem initial : Mirrored {} :=
  ⟨[], trivial, ⟨fun _ => rfl, rfl, rfl, rfl, rfl, fun _ h => by simp [play] at h⟩⟩

end Mirrored

/-- **The pumps that a controller and the body come to**, one call after the other. -/
inductive Reached : SequentialPump → Prop
  | initial : Reached {}
  | resume {q : SequentialPump} : Reached q → Reached q.resume
  | pause {q : SequentialPump} : Reached q → Reached q.pause
  | pauseAndWait {q : SequentialPump} : Reached q → Reached q.pauseAndWait
  | pauseSelf {q : SequentialPump} : Reached q → Reached q.pauseSelf
  | finish {q : SequentialPump} : Reached q → Reached q.finish

/-- **Whatever a controller does one call after the other can come about among all the
callers of a pump.** -/
theorem Reached.mirrored {q : SequentialPump} (h : q.Reached) : q.Mirrored := by
  induction h with
  | initial => exact .initial
  | resume _ ih => exact ih.resume
  | pause _ ih => exact ih.pause
  | pauseAndWait _ ih => exact ih.pauseAndWait
  | pauseSelf _ ih => exact ih.pauseSelf
  | finish _ ih => exact ih.finish

/-- Every body that was begun has returned, but for the one that is under way. -/
theorem Reached.running_add_ended {q : SequentialPump} (h : q.Reached) :
    q.running.toNat + q.ended = q.started := by
  obtain ⟨history, -, hm⟩ := h.mirrored
  have hfree : q.pump.joining = false := hm.pump ▸ hm.free
  rw [running, Pump.running, hfree, Bool.or_false]
  exact hm.ended

end SequentialPump

end Teletype
