import Teletype.Proofs.Pump.Ownership

/-!
# When a resume is lost

A resume starts a thread when it finds no handle. When it finds one it only takes back
the pause, for then the thread is still there and goes on. But a thread that a check
has told to stop keeps its handle until it has returned, and there is no way back for
it. A resume that comes in between finds the handle, starts no thread, and the one
there is ends.

Nothing else can be lost. After the last resume the pump is either paused again, or
the body goes on that the resume found or started: it is never told to stop, since its
thread is the latest and the pump is not paused. So a pump that has been resumed and
not paused since is without a body that goes on exactly when the last resume came too
late for the thread that it found (`lost_iff`).

Here a body returns only when it has been told to. One that returns of its own accord,
at the end of its input, leaves its pump unpaused and without a thread as well, and
that is no loss.
-/

namespace Teletype.SharedPump

variable {s : SharedPump} {a : Act}

/-- Whether the body of some thread goes on. -/
def GoesOn (s : SharedPump) : Prop := ∃ g, s.phase g = .looping

/-- **A pump that should go on and does not**: nobody calls, it has been resumed and not
paused since, and no thread is there but perhaps one that is on its way out. -/
structure Lost (s : SharedPump) : Prop where
  /-- No call is under way. -/
  quiet : ∀ c, s.call c = .idle
  /-- The pump is not paused. -/
  unpaused : s.pump.paused = false
  /-- No body goes on. -/
  stopped : ¬ s.GoesOn

/-- Whether a resume would find the handle of a thread that has been told to stop. -/
def TooLate (s : SharedPump) : Prop := ∃ g, s.pump.thread = some g ∧ s.phase g ≠ .looping

/-- **Whether the last resume of a history came too late.** -/
def Missed : List Act → Prop
  | [] => False
  | .resume _ :: earlier => (play earlier).TooLate
  | _ :: earlier => Missed earlier

/-! ## One act -/

/-- A resume leaves a body that goes on, unless it comes too late. -/
theorem Consistent.goesOn_resumed_iff (h : s.Consistent) : s.resumed.GoesOn ↔ ¬ s.TooLate := by
  cases hthread : s.pump.thread with
  | none =>
    rw [resumed_of_none hthread]
    refine iff_of_true ⟨s.pump.generation + 1, if_pos rfl⟩ ?_
    rintro ⟨g, hg, -⟩
    rw [hthread] at hg
    exact Option.some_ne_none g hg.symm
  | some g =>
    rw [resumed_of_some hthread]
    constructor
    · rintro ⟨g', hg'⟩ ⟨g'', hg'', hlate⟩
      -- the thread that goes on is there, and so is the one that was found
      have hthere : s.There g' := by simp [There, show s.phase g' = .looping from hg']
      rw [← h.eq_of_there hthere (h.held g'' hg'').1] at hlate
      exact hlate hg'
    · intro hlate
      by_contra hstopped
      exact hlate ⟨g, hthread, fun hg => hstopped ⟨g, hg⟩⟩

/-- A body that goes on, and asks whether to, is told to while the pump is not paused. -/
theorem Consistent.keepsRunning (h : s.Consistent) {g : Nat} (hg : s.phase g = .looping)
    (hpaused : s.pump.paused = false) : s.pump.keepsRunning g = true := by
  have hlatest := h.latest g (by simp [There, hg])
  simp [Pump.keepsRunning, hlatest, hpaused]

theorem goesOn_setPhase_iff {g : Nat} {p : Phase} (h : s.phase g = .looping ↔ p = .looping) :
    (s.setPhase g p).GoesOn ↔ s.GoesOn := by
  refine exists_congr fun g' => ?_
  by_cases hne : g' = g
  · simp [hne, h]
  · simp [hne]

/-! ## The main statement -/

/-- **A pump that is not paused has a body that goes on**, unless the last resume came
too late. -/
theorem goesOn_iff_not_missed {history : List Act} (h : Allowed history)
    (hquit : ∀ g, .quit g ∉ history) (hpaused : (play history).pump.paused = false) :
    (play history).GoesOn ↔ ¬ Missed history := by
  induction history with
  | nil => exact absurd hpaused (by simp [play])
  | cons a earlier ih =>
    replace ih := ih h.1 fun g hg => hquit g (List.mem_cons_of_mem a hg)
    cases a with
    | begin c r => exact ih hpaused
    | resume c => exact h.1.consistent.goesOn_resumed_iff
    | pause c wait => exact absurd hpaused (by simp [after])
    | take c => exact absurd hpaused (by simp [after])
    | join c g => exact ih hpaused
    | release c => exact ih hpaused
    | check g =>
      have hgoes : (play earlier).pump.keepsRunning g = true :=
        h.1.consistent.keepsRunning h.2.2 hpaused
      refine Iff.trans (goesOn_setPhase_iff ?_) (ih hpaused)
      simp [h.2.2, hgoes]
    | leave g =>
      refine Iff.trans (goesOn_setPhase_iff ?_) (ih hpaused)
      simp [h.2.2]
    | quit g => exact absurd List.mem_cons_self (hquit g)
    | drop g =>
      refine Iff.trans (goesOn_setPhase_iff ?_) (ih (by simpa [after] using hpaused))
      simp [show (play earlier).phase g = .ended from h.2]

/-- **When a resume is lost.** Where bodies return only when they have been told to, a
pump that nobody calls any more should go on and does not exactly when it is not paused
and the last resume came too late. -/
theorem lost_iff {history : List Act} (h : Allowed history) (hquit : ∀ g, .quit g ∉ history) :
    (play history).Lost
      ↔ (∀ c, (play history).call c = .idle) ∧ (play history).pump.paused = false
        ∧ Missed history := by
  constructor
  · intro hlost
    refine ⟨hlost.quiet, hlost.unpaused, ?_⟩
    by_contra hmissed
    exact hlost.stopped ((goesOn_iff_not_missed h hquit hlost.unpaused).2 hmissed)
  · rintro ⟨hquiet, hpaused, hmissed⟩
    refine ⟨hquiet, hpaused, fun hgoes => ?_⟩
    exact (goesOn_iff_not_missed h hquit hpaused).1 hgoes hmissed

/-- Another controller resumes the pump when the body has returned already, and its
thread is about to give up its handle. -/
theorem lost_resumeBehindReturn :
    let history : List Act :=
      [.drop 1, .resume (.controller 1), .begin (.controller 1) .resume, .leave 1, .check 1,
        .pause (.controller 0) false, .begin (.controller 0) (.pause false),
        .resume (.controller 0), .begin (.controller 0) .resume]
    Allowed history ∧ (∀ g, .quit g ∉ history) ∧ (play history).Lost := by
  intro history
  have hallowed : Allowed history := by decide
  have hquit : ∀ g, Act.quit g ∉ history := by simp [history]
  have hquiet : ∀ c, (play history).call c = .idle := by
    intro c
    by_cases h0 : c = .controller 0
    · exact h0 ▸ by decide
    by_cases h1 : c = .controller 1
    · exact h1 ▸ by decide
    exact play_call_of_forall (by simp [history, Act.caller?, Ne.symm h0, Ne.symm h1])
  have hlate : Missed history := ⟨1, by decide, by decide⟩
  exact ⟨hallowed, hquit, (lost_iff hallowed hquit).2 ⟨hquiet, by decide, hlate⟩⟩

/-- A resume between the check that tells a body to stop and its return is lost. -/
theorem lost_resumeBehindCheck :
    ¬ ∀ history, Allowed history → (∀ g, .quit g ∉ history) → ¬ (play history).Lost := by
  intro hall
  let history : List Act :=
    [.drop 1, .leave 1, .resume (.controller 0), .begin (.controller 0) .resume, .check 1,
      .pause (.controller 0) false, .begin (.controller 0) (.pause false),
      .resume (.controller 0), .begin (.controller 0) .resume]
  have hallowed : Allowed history := by decide
  have hquit : ∀ g, Act.quit g ∉ history := by simp [history]
  refine hall history hallowed hquit ⟨fun c => ?_, by decide, fun hgoes => ?_⟩
  · by_cases h0 : c = .controller 0
    · exact h0 ▸ by decide
    · exact play_call_of_forall (by simp [history, Act.caller?, Ne.symm h0])
  · exact (goesOn_iff_not_missed hallowed hquit (by decide)).1 hgoes ⟨1, by decide, by decide⟩

end Teletype.SharedPump
