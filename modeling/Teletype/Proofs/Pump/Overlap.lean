import Teletype.Proofs.Pump.Ownership

/-!
# Bodies never overlap

At most one body is executed at a time, because only the latest thread can be there
(`Consistent.latest`). That is the lesser half. The greater one is what a controller
may rely on when a pause that waits returns: every body that was executed when the
call began has returned.

The controller may have had to wait for its turn behind another, and a resume may
have started a new thread before it got it. So what it waits for need not be what it
found. `Awaits` says how the call stands to a body that was executed when it began:
as long as the body is executed, the call has not got the handle yet or has the
handle of just that thread. For a thread that is there when the controller takes a
handle is the one whose handle it takes.
-/

namespace Teletype.SharedPump

variable {s : SharedPump} {c : Caller} {a : Act} {g : Nat}

/-! ## Threads only move on -/

/-- How old a thread is in a phase. -/
def Phase.age : Phase → Nat
  | unborn => 0
  | looping => 1
  | leaving => 2
  | ended => 3
  | gone => 4

theorem executing_iff : s.Executing g ↔ 0 < (s.phase g).age ∧ (s.phase g).age ≤ 2 := by
  cases h : s.phase g <;> simp [Executing, Phase.age, h]

theorem returned_iff : s.Returned g ↔ 3 ≤ (s.phase g).age := by
  cases h : s.phase g <;> simp [Returned, Phase.age, h]

/-- **A thread never goes back** to a phase that it has left. -/
theorem Consistent.age_le_after (h : s.Consistent) (ha : s.Enabled a) (g : Nat) :
    (s.phase g).age ≤ ((s.after a).phase g).age := by
  have hset : ∀ {g' p}, (s.phase g').age ≤ Phase.age p →
      (s.phase g).age ≤ ((s.setPhase g' p).phase g).age := by
    intro g' p hp
    rw [setPhase_phase]
    split
    · next heq => exact heq ▸ hp
    · exact Nat.le_refl _
  cases a with
  | begin c r => exact Nat.le_refl _
  | resume c =>
    show _ ≤ (s.resumed.phase g).age
    cases hthread : s.pump.thread with
    | some g' =>
      exact Nat.le_of_eq (congrArg (fun t => (t.phase g).age) (resumed_of_some hthread).symm)
    | none =>
      -- the thread that is started has a number that no thread had before
      have hunborn : s.phase (s.pump.generation + 1) = .unborn := by
        by_contra hborn
        exact Nat.not_succ_le_self _ ((h.born _).1 hborn).2
      rw [resumed_of_none hthread]
      exact hset (by rw [hunborn]; exact Nat.zero_le _)
  | pause c wait =>
    exact Nat.le_of_eq (congrArg (fun p => (p g).age) (paused_phase s c wait).symm)
  | take c => exact Nat.le_of_eq (congrArg (fun p => (p g).age) (taken_phase s c).symm)
  | join c g' => exact Nat.le_refl _
  | release c => exact Nat.le_refl _
  | check g' =>
    refine hset ?_
    rw [ha.2]
    split <;> decide
  | leave g' => exact hset (by rw [ha.2]; decide)
  | quit g' => exact hset (by rw [ha.2]; decide)
  | drop g' => exact hset (by rw [show s.phase g' = .ended from ha]; decide)

/-! ## What a pause that waits waits for -/

/-- **How the call of a controller stands to a body** that was executed when it began:
while the body is executed, the call has yet to take a handle or has taken its. -/
structure Awaits (s : SharedPump) (i g : Nat) : Prop where
  /-- The body was begun. -/
  born : 0 < (s.phase g).age
  /-- The call is not past the body's return. -/
  call : s.Executing g → s.call (.controller i) = .pausing true
    ∨ s.call (.controller i) = .waiting ∨ s.call (.controller i) = .joining g

/-- **Each act keeps it.** -/
theorem Awaits.after {i : Nat} (hw : s.Awaits i g) (h : s.Consistent) (ha : s.Enabled a) :
    (s.after a).Awaits i g := by
  have hage := h.age_le_after ha g
  refine ⟨Nat.lt_of_lt_of_le hw.born hage, fun hafter => ?_⟩
  have hbefore : s.Executing g :=
    executing_iff.2 ⟨hw.born, Nat.le_trans hage (executing_iff.1 hafter).2⟩
  by_cases hown : a.caller? = some (.controller i)
  · rcases hw.call hbefore with hcall | hcall | hcall
    · obtain rfl := ha.eq_pause hown hcall
      rcases paused_call_controller s i with hwaiting | ⟨hjoining, htaken⟩
      · exact .inr (.inl hwaiting)
      · exact .inr (.inr (htaken (h.thread_of_there hjoining hbefore.there)))
    · obtain rfl := ha.eq_take hown hcall
      exact .inr (.inr (taken_call_of_some (h.thread_of_there ha.2 hbefore.there) _))
    · obtain rfl := ha.eq_join hown hcall
      simp [Executing, ha.2] at hbefore
  · rw [call_after_of_ne hown]
    exact hw.call hbefore

/-- **A body executed when a controller's pause begins** is awaited from then on. -/
theorem Allowed.awaits {later earlier : List Act} {i : Nat}
    (h : Allowed (later ++ .begin (.controller i) (.pause true) :: earlier))
    (hg : (play earlier).Executing g) :
    (play (later ++ .begin (.controller i) (.pause true) :: earlier)).Awaits i g := by
  induction later with
  | nil => exact ⟨(executing_iff.1 hg).1, fun _ => .inl (if_pos rfl)⟩
  | cons a later ih => exact (ih h.1).after h.1.consistent h.2

/-! ## The main statement -/

/-- **Bodies never overlap.** After every history at most one body is being executed,
the generation is the number of threads that were started, and a controller whose
pause that waits has returned finds every body returned that was being executed when
it called. -/
theorem bodies_never_overlap {history : List Act} (h : Allowed history) :
    (∀ g g', (play history).Executing g → (play history).Executing g' → g = g')
      ∧ (play history).pump.generation = (play history).started
      ∧ (∀ g, (play history).phase g ≠ .unborn ↔ 0 < g ∧ g ≤ (play history).pump.generation)
      ∧ ∀ later i earlier,
          history = later ++ .begin (.controller i) (.pause true) :: earlier →
          (play history).call (.controller i) = .idle →
          ∀ g, (play earlier).Executing g → (play history).Returned g := by
  have hconsistent := h.consistent
  refine ⟨fun g g' hg hg' => hconsistent.eq_of_there hg.there hg'.there, hconsistent.generation,
    hconsistent.born, ?_⟩
  rintro later i earlier rfl hidle g hg
  have hawaits := h.awaits hg
  rw [returned_iff]
  by_contra hage
  have hexecuting := executing_iff.2 ⟨hawaits.born, Nat.le_of_lt_succ (Nat.lt_of_not_le hage)⟩
  simpa [hidle] using hawaits.call hexecuting

/-- A resume that is asked for while a controller waits for the thread: it is carried
out when the thread is gone, and the two bodies do not meet. -/
theorem bodies_never_overlap_resumeBehindPause :
    let earlier : List Act := [.resume (.controller 1), .begin (.controller 1) .resume]
    let later : List Act :=
      [.resume (.controller 1), .release (.controller 0), .join (.controller 0) 1, .drop 1,
        .leave 1, .check 1, .begin (.controller 1) .resume, .pause (.controller 0) true]
    let history := later ++ .begin (.controller 0) (.pause true) :: earlier
    Allowed history
      ∧ (play earlier).Executing 1 ∧ (play history).Executing 2 ∧ (play history).Returned 1
      ∧ (play history).pump.generation = 2 := by
  intro earlier later history
  have hallowed : Allowed history := by decide
  have hoverlap := bodies_never_overlap hallowed
  exact ⟨hallowed, by decide, by decide,
    hoverlap.2.2.2 later 0 earlier rfl (by decide) 1 (by decide), by decide⟩

end Teletype.SharedPump
