import Teletype.Proofs.Pump.Ownership

/-!
# A body that pauses its own pump

A body cannot wait for its own thread, and so a pause that waits returns at once when
it comes from the body. But what the body is recognised by is its handle in the shared
state, and a controller that waits for the thread has taken the handle away. Then the
body gets in line behind the controller, which waits for the body: neither goes on
again (`Deadlocked.after`).

There is no other way into this deadlock, and none around it. It comes about exactly
when a body enters a pause that waits while a controller waits for its thread
(`exists_deadlocked_iff`).
-/

namespace Teletype.SharedPump

variable {s : SharedPump} {a : Act} {g i : Nat}

/-- **A controller and a body that wait for each other**: the body to get its turn,
and the controller for the thread of the body to be gone. -/
structure Deadlocked (s : SharedPump) (i g : Nat) : Prop where
  /-- The body is in line behind somebody. -/
  waiting : s.call (.body g) = .waiting
  /-- It is the controller that waits for its thread. -/
  joining : s.call (.controller i) = .joining g

/-- **For ever**: no act that can be done takes either of them out of it. -/
theorem Deadlocked.after (hd : s.Deadlocked i g) (h : s.Consistent) (ha : s.Enabled a) :
    (s.after a).Deadlocked i g := by
  have hbody : a.caller? ≠ some (.body g) := by
    intro hc
    obtain rfl := ha.eq_take hc hd.waiting
    exact Bool.false_ne_true (ha.2.symm.trans (h.joining_of_call hd.joining))
  have hcontroller : a.caller? ≠ some (.controller i) := by
    intro hc
    obtain rfl := ha.eq_join hc hd.joining
    have hthere := (h.present g (by rw [hd.waiting]; exact Call.noConfusion)).there
    exact hthere.2 ha.2
  exact ⟨(call_after_of_ne hbody).trans hd.waiting, (call_after_of_ne hcontroller).trans hd.joining⟩

theorem Deadlocked.of_append {later earlier : List Act} (h : Allowed (later ++ earlier))
    (hd : (play earlier).Deadlocked i g) : (play (later ++ earlier)).Deadlocked i g := by
  induction later with
  | nil => exact hd
  | cons a later ih => exact (ih h.1).after h.1.consistent h.2

/-- **A body gets in line** by a pause that waits, while somebody waits for a thread. -/
theorem eq_pause_of_waiting (ha : s.Enabled a) (hbefore : s.call (.body g) ≠ .waiting)
    (hafter : (s.after a).call (.body g) = .waiting) : a = .pause (.body g) true := by
  have hown : a.caller? = some (.body g) := by
    by_contra hne
    exact hbefore ((call_after_of_ne hne).symm.trans hafter)
  cases a with
  | begin c r =>
    obtain rfl := Option.some.inj hown
    cases r <;> simp [SharedPump.after, Request.call] at hafter
  | resume c =>
    obtain rfl := Option.some.inj hown
    simp [SharedPump.after] at hafter
  | pause c wait =>
    obtain rfl := Option.some.inj hown
    cases wait with
    | true => rfl
    | false => simp [SharedPump.after, paused] at hafter
  | take c =>
    obtain rfl := Option.some.inj hown
    exact absurd ha.1 hbefore
  | join c g' =>
    obtain rfl := Option.some.inj hown
    simp [SharedPump.after] at hafter
  | release c =>
    obtain rfl := Option.some.inj hown
    simp [SharedPump.after] at hafter
  | check _ | leave _ | quit _ | drop _ => cases hown

/-- A body whose thread a controller waits for is not recognised. -/
theorem Consistent.deadlocked_pause (h : s.Consistent) (hi : s.call (.controller i) = .joining g) :
    (s.after (.pause (.body g) true)).Deadlocked i g := by
  have hjoining : s.pump.joining = true := h.joining_of_call hi
  have hown : s.pump.pause.isOwn (some g) = false := by
    refine Bool.of_not_eq_true fun hown => ?_
    have hthread : s.pump.thread = some g := Pump.isOwn_some_iff.1 hown
    rw [h.thread_eq_none hjoining] at hthread
    exact Option.some_ne_none g hthread.symm
  refine ⟨?_, (call_after_of_ne (by simp [Act.caller?])).trans hi⟩
  show (s.paused (.body g) true).call (.body g) = .waiting
  unfold SharedPump.paused
  rw [if_pos (by rw [Caller.thread?, hown]; rfl), if_pos hjoining]
  exact if_pos rfl

/-- **When a body waits for itself.** A body and a controller come to wait for each
other exactly when the body enters a pause that waits while the controller waits for
the thread of the body. -/
theorem exists_deadlocked_iff {history : List Act} (h : Allowed history) :
    (∃ i g, (play history).Deadlocked i g)
      ↔ ∃ later g earlier i, history = later ++ .pause (.body g) true :: earlier
          ∧ (play earlier).call (.controller i) = .joining g := by
  constructor
  · rintro ⟨i, g, hd⟩
    induction history generalizing i with
    | nil => exact Call.noConfusion hd.waiting
    | cons a earlier ih =>
      by_cases hbefore : (play earlier).call (.body g) = .waiting
      · obtain ⟨j, hj⟩ := h.1.consistent.blocked g hbefore
        obtain ⟨later, g', earlier', i', rfl, hi'⟩ := ih h.1 j ⟨hbefore, hj⟩
        exact ⟨a :: later, g', earlier', i', rfl, hi'⟩
      · obtain rfl := eq_pause_of_waiting h.2 hbefore hd.waiting
        refine ⟨[], g, earlier, i, rfl, ?_⟩
        exact (call_after_of_ne (by simp [Act.caller?])).symm.trans hd.joining
  · rintro ⟨later, g, earlier, i, rfl, hi⟩
    exact ⟨i, g, Deadlocked.of_append h (h.of_append.1.consistent.deadlocked_pause hi)⟩

/-- The body has called before the controller, but enters behind it. A resume that comes
later does not help: it has to wait for its turn, too. -/
theorem exists_deadlocked_resumeBehind :
    let earlier : List Act :=
      [.pause (.controller 0) true, .begin (.controller 0) (.pause true),
        .begin (.body 1) (.pause true), .resume (.controller 0), .begin (.controller 0) .resume]
    let history := [.begin (.controller 1) .resume] ++ .pause (.body 1) true :: earlier
    Allowed history ∧ (play earlier).call (.controller 0) = .joining 1
      ∧ ∃ i g, (play history).Deadlocked i g := by
  intro earlier history
  have hallowed : Allowed history := by decide
  have hjoining : (play earlier).call (.controller 0) = .joining 1 := by decide
  exact ⟨hallowed, hjoining,
    (exists_deadlocked_iff hallowed).2
      ⟨[.begin (.controller 1) .resume], 1, earlier, 0, rfl, hjoining⟩⟩

/-- A body and a controller can come to wait for each other. -/
theorem deadlocked_pauseBehindController :
    ¬ ∀ history, Allowed history → ∀ i g, ¬ (play history).Deadlocked i g := by
  intro hall
  refine hall [.pause (.body 1) true, .pause (.controller 0) true,
    .begin (.controller 0) (.pause true), .begin (.body 1) (.pause true),
    .resume (.controller 0), .begin (.controller 0) .resume] (by decide) 0 1 ⟨?_, ?_⟩
  · decide
  · decide

end Teletype.SharedPump
