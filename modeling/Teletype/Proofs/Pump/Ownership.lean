import Mathlib.Tactic.ByContra
import Teletype.Pump.Shared

/-!
# Whose a thread is

A thread that is still there belongs to somebody. Either its handle is in the state
that the callers share, or one controller has taken it and waits for the thread. While
that controller waits nobody can start a thread, so a thread that is there is always
the latest one. This is `Consistent`, and every history keeps it
(`Allowed.consistent`).

A body that calls is being executed, and so its thread is there. If the call has to
wait for its turn, the handle cannot be in the shared state, for then the body would
have been recognised. So a controller has it (`Consistent.blocked`).
-/

namespace Teletype.SharedPump

/-- Whether a thread is there: it was started and has not given up its handle. -/
def There (s : SharedPump) (g : Nat) : Prop := s.phase g ≠ .unborn ∧ s.phase g ≠ .gone

theorem Executing.there {s : SharedPump} {g : Nat} (h : s.Executing g) : s.There g := by
  rcases h with h | h <;> simp [There, h]

/-- **What every history keeps.** -/
structure Consistent (s : SharedPump) : Prop where
  /-- Threads are counted. -/
  generation : s.pump.generation = s.started
  /-- They are numbered in the order of their start, from one. -/
  born : ∀ g, s.phase g ≠ .unborn ↔ 0 < g ∧ g ≤ s.pump.generation
  /-- Only the latest can be there. -/
  latest : ∀ g, s.There g → g = s.pump.generation
  /-- A handle in the shared state is one of a thread that nobody waits for. -/
  held : ∀ g, s.pump.thread = some g → s.There g ∧ s.pump.joining = false
  /-- The handle of a thread is in the shared state or with a controller. -/
  owned : ∀ g, s.There g → s.pump.thread = some g ∨ ∃ i, s.call (.controller i) = .joining g
  /-- Only controllers wait for a thread. -/
  holder : ∀ c, (s.call c).holds → s.pump.joining ∧ ∃ i, c = .controller i
  /-- One waits at a time. -/
  single : ∀ c d, (s.call c).holds → (s.call d).holds → c = d
  /-- A body that calls is being executed. -/
  present : ∀ g, s.call (.body g) ≠ .idle → s.Executing g
  /-- A body that waits for its turn waits for a controller that waits for its thread. -/
  blocked : ∀ g, s.call (.body g) = .waiting → ∃ i, s.call (.controller i) = .joining g

variable {s : SharedPump} {c : Caller} {k : Call} {g : Nat}

/-! ## What follows from it -/

namespace Consistent

theorem eq_of_there (h : s.Consistent) {g' : Nat} (hg : s.There g) (hg' : s.There g') :
    g = g' :=
  (h.latest g hg).trans (h.latest g' hg').symm

/-- Whoever waits for a thread has said so. -/
theorem joining_of_call (h : s.Consistent) (hcall : s.call c = .joining g) :
    s.pump.joining = true :=
  (h.holder c (by rw [hcall]; rfl)).1

/-- While nobody waits for a thread, the handle of one that is there can be found. -/
theorem thread_of_there (h : s.Consistent) (hjoining : s.pump.joining = false)
    (hg : s.There g) : s.pump.thread = some g := by
  refine (h.owned g hg).resolve_right ?_
  rintro ⟨i, hi⟩
  exact Bool.false_ne_true (hjoining.symm.trans (h.joining_of_call hi))

/-- While somebody waits for a thread, there is no handle to be found. -/
theorem thread_eq_none (h : s.Consistent) (hjoining : s.pump.joining = true) :
    s.pump.thread = none := by
  cases hthread : s.pump.thread with
  | none => rfl
  | some g =>
    exact absurd ((h.held g hthread).2.symm.trans hjoining) Bool.false_ne_true

/-- While nobody waits for a thread, a body that calls finds its own handle. -/
theorem thread_of_body (h : s.Consistent) (hcall : s.call (.body g) ≠ .idle)
    (hjoining : s.pump.joining = false) : s.pump.thread = some g :=
  h.thread_of_there hjoining (h.present g hcall).there

end Consistent

/-! ## What keeps it -/

/-- Whoever waits for a thread goes on waiting while others call. -/
theorem joining_setCall (hold : (s.call c).holds = false) {d : Caller}
    (hd : s.call d = .joining g) : (s.setCall c k).call d = .joining g := by
  rw [setCall_call, if_neg, hd]
  rintro rfl
  rw [hd] at hold
  exact Bool.false_ne_true hold.symm

namespace Consistent

theorem initial : ({} : SharedPump).Consistent where
  generation := rfl
  born g := ⟨fun hg => absurd rfl hg, fun hg => absurd hg.2 (Nat.not_le_of_lt hg.1)⟩
  latest g hg := absurd rfl hg.1
  held g hg := by simp at hg
  owned g hg := absurd rfl hg.1
  holder c hc := by simp [Call.holds] at hc
  single c d hc := by simp [Call.holds] at hc
  present g hg := absurd rfl hg
  blocked g hg := by simp at hg

/-- A call goes on that does not wait for a thread, neither before nor after. -/
theorem setCall (h : s.Consistent) (hold : (s.call c).holds = false) (hk : k.holds = false)
    (hpresent : ∀ g, c = .body g → k ≠ .idle → s.Executing g)
    (hblocked : ∀ g, c = .body g → k = .waiting → ∃ i, s.call (.controller i) = .joining g) :
    (s.setCall c k).Consistent := by
  have hholds : ∀ d, ((s.setCall c k).call d).holds → (s.call d).holds := by
    intro d hd
    rw [setCall_call] at hd
    split at hd
    · rw [hk] at hd
      exact absurd hd Bool.false_ne_true
    · exact hd
  have hjoining : ∀ g, (∃ i, s.call (.controller i) = .joining g) →
      ∃ i, (s.setCall c k).call (.controller i) = .joining g :=
    fun g => Exists.imp fun i => joining_setCall hold
  refine ⟨h.generation, h.born, h.latest, h.held, fun g hg => (h.owned g hg).imp_right (hjoining g),
    fun d hd => h.holder d (hholds d hd),
    fun d e hd he => h.single d e (hholds d hd) (hholds e he), fun g hg => ?_, fun g hg => ?_⟩
  · rw [setCall_call] at hg
    split at hg
    · next hbody => exact hpresent g hbody.symm hg
    · exact h.present g hg
  · rw [setCall_call] at hg
    refine hjoining g ?_
    split at hg
    · next hbody => exact hblocked g hbody.symm hg
    · exact h.blocked g hg

/-- The call that a caller has under way returns. -/
theorem setCall_idle (h : s.Consistent) (hold : (s.call c).holds = false) :
    (s.setCall c .idle).Consistent :=
  h.setCall hold rfl (fun _ _ hk => absurd rfl hk) (fun _ _ hk => absurd hk (by simp))

/-- Nothing but the flag is changed. -/
theorem setPump (h : s.Consistent) {p : Pump} (hthread : p.thread = s.pump.thread)
    (hjoining : p.joining = s.pump.joining) (hgeneration : p.generation = s.pump.generation) :
    (s.setPump p).Consistent where
  generation := hgeneration.trans h.generation
  born g := by
    rw [setPump_pump, hgeneration]
    exact h.born g
  latest g hg := (h.latest g hg).trans hgeneration.symm
  held g hg := by
    rw [setPump_pump, hjoining]
    exact h.held g (hthread ▸ hg)
  owned g hg := by
    rw [setPump_pump, hthread]
    exact h.owned g hg
  holder d hd := by
    rw [setPump_pump, hjoining]
    exact h.holder d hd
  single := h.single
  present := h.present
  blocked := h.blocked

/-- **A thread is started.** There was none before, since nobody had a handle. -/
theorem resumed (h : s.Consistent) (hjoining : s.pump.joining = false) :
    s.resumed.Consistent := by
  cases hthread : s.pump.thread with
  | some g =>
    rw [resumed_of_some hthread]
    exact h.setPump rfl rfl rfl
  | none =>
    have hnone : ∀ g, ¬ s.There g := by
      intro g hg
      have hsome := h.thread_of_there hjoining hg
      rw [hthread] at hsome
      exact Option.some_ne_none g hsome.symm
    have hlatest : ∀ g, (s.setPhase (s.pump.generation + 1) .looping).There g →
        g = s.pump.generation + 1 := by
      intro g hg
      by_contra hne
      refine hnone g ?_
      simpa only [There, setPhase_phase, if_neg hne] using hg
    rw [resumed_of_none hthread]
    refine ⟨congrArg (· + 1) h.generation, fun g => ?_, hlatest, fun g hg => ?_, fun g hg => ?_,
      h.holder, h.single, fun g hg => ?_, h.blocked⟩
    · show (if g = s.pump.generation + 1 then Phase.looping else s.phase g) ≠ .unborn
        ↔ 0 < g ∧ g ≤ s.pump.generation + 1
      split
      · next heq => simp [heq]
      · rw [h.born g]
        omega
    · obtain rfl : s.pump.generation + 1 = g := Option.some.inj hg
      exact ⟨by simp [There], hjoining⟩
    · exact .inl (congrArg some (hlatest g hg).symm)
    · exact absurd (h.present g hg).there (hnone g)

/-- **A controller takes the handle.** From then on it is the one who waits. -/
theorem taken (h : s.Consistent) {i : Nat} (hcall : (s.call (.controller i)).holds = false)
    (hjoining : s.pump.joining = false) : (s.taken (.controller i)).Consistent := by
  cases hthread : s.pump.thread with
  | none =>
    rw [taken_of_none hthread]
    refine setCall_idle ?_ hcall
    exact h.setPump rfl rfl rfl
  | some g =>
    have hnone : ∀ c, (s.call c).holds = false := by
      intro c
      exact Bool.of_not_eq_true fun hc =>
        Bool.false_ne_true (hjoining.symm.trans (h.holder c hc).1)
    have hholder : ∀ d, ((s.setCall (.controller i) (.joining g)).call d).holds →
        d = .controller i := by
      intro d hd
      by_contra hne
      rw [setCall_call, if_neg hne, hnone] at hd
      exact Bool.false_ne_true hd
    rw [taken_of_some hthread]
    refine ⟨h.generation, h.born, h.latest, fun g' hg' => ?_, fun g' hg' => ?_,
      fun d hd => ⟨rfl, i, hholder d hd⟩,
      fun d e hd he => (hholder d hd).trans (hholder e he).symm, fun g' hg' => ?_, fun g' hg' => ?_⟩
    · exact absurd hg' (by simp)
    · refine .inr ⟨i, ?_⟩
      rw [h.eq_of_there hg' (h.held g hthread).1, setCall_call, if_pos rfl]
    · exact h.present g' (by simpa using hg')
    · -- nobody waits for a thread yet, so no body can be waiting for its turn
      obtain ⟨j, hj⟩ := h.blocked g' (by simpa using hg')
      exact absurd (hjoining.symm.trans (h.joining_of_call hj)) Bool.false_ne_true

/-- **The pump is paused**, by a controller or by its body. -/
theorem paused (h : s.Consistent) {wait : Bool} (hcall : s.call c = .pausing wait) :
    (s.paused c wait).Consistent := by
  have hpause : (s.setPump s.pump.pause).Consistent := h.setPump rfl rfl rfl
  have hold : (s.call c).holds = false := by
    rw [hcall]
    rfl
  have hbusy : s.call c ≠ .idle := by
    rw [hcall]
    exact Call.noConfusion
  unfold SharedPump.paused
  split
  · next hother =>
    have hown : s.pump.pause.isOwn c.thread? = false := by
      simpa using (Bool.and_eq_true_iff.1 hother).2
    have hbody : ∀ g, c = .body g → s.pump.thread ≠ some g := by
      rintro g rfl hthread
      have hown' : s.pump.pause.isOwn (some g) = true := Pump.isOwn_some_iff.2 hthread
      exact Bool.false_ne_true (hown.symm.trans hown')
    split
    · -- behind somebody else: if a body is, its handle is not in the shared state
      refine hpause.setCall hold rfl ?_ ?_
      · rintro g rfl -
        exact h.present g hbusy
      · rintro g rfl -
        exact (h.owned g (h.present g hbusy).there).resolve_left (hbody g rfl)
    · next hjoining =>
      have hjoining : s.pump.joining = false := Bool.of_not_eq_true hjoining
      cases c with
      | controller i => exact hpause.taken hold hjoining
      | body g => exact absurd (h.thread_of_body hbusy hjoining) (hbody g rfl)
  · exact hpause.setCall_idle hold

/-- A controller finds the thread gone that it waits for. -/
theorem join (h : s.Consistent) (hcall : s.call c = .joining g) (hgone : s.phase g = .gone) :
    (s.setCall c .joined).Consistent := by
  have hold : (s.call c).holds := by
    rw [hcall]
    rfl
  have hholds : ∀ d, ((s.setCall c .joined).call d).holds → (s.call d).holds := by
    intro d hd
    by_cases hne : d = c
    · exact hne ▸ hold
    · simpa [hne] using hd
  -- nobody else waits, and the thread that this one waited for is not there
  have hjoining : ∀ g', s.There g' → (∃ i, s.call (.controller i) = .joining g') →
      ∃ i, (s.setCall c .joined).call (.controller i) = .joining g' := by
    rintro g' hg' ⟨i, hi⟩
    refine ⟨i, ?_⟩
    rw [setCall_call, if_neg, hi]
    rintro rfl
    rw [hcall] at hi
    exact hg'.2 (Call.joining.inj hi ▸ hgone)
  obtain ⟨-, i, hi⟩ := h.holder c hold
  refine ⟨h.generation, h.born, h.latest, h.held,
    fun g' hg' => (h.owned g' hg').imp_right (hjoining g' hg'),
    fun d hd => h.holder d (hholds d hd),
    fun d e hd he => h.single d e (hholds d hd) (hholds e he), fun g' hg' => ?_, fun g' hg' => ?_⟩
  · exact h.present g' (by simpa [hi] using hg')
  · have hwaiting : s.call (.body g') = .waiting := by simpa [hi] using hg'
    exact hjoining g' (h.present g' (by simp [hwaiting])).there (h.blocked g' hwaiting)

/-- The controller whose thread is gone lets the others go on. -/
theorem release (h : s.Consistent) (hcall : s.call c = .joined) :
    ((s.setPump s.pump.joined).setCall c .idle).Consistent := by
  have hold : (s.call c).holds := by
    rw [hcall]
    rfl
  have hwait : s.pump.joining = true := (h.holder c hold).1
  -- it was the only one who waited, so no thread is there
  have hnone : ∀ g i, s.call (.controller i) ≠ .joining g := by
    intro g i hi
    have heq := h.single (.controller i) c (by rw [hi]; rfl) hold
    rw [heq, hcall] at hi
    exact Call.noConfusion hi
  have hgone : ∀ g, ¬ s.There g := by
    intro g hg
    rcases h.owned g hg with hthread | ⟨i, hi⟩
    · rw [h.thread_eq_none hwait] at hthread
      exact Option.some_ne_none g hthread.symm
    · exact hnone g i hi
  have hidle : ∀ d, (((s.setPump s.pump.joined).setCall c .idle).call d).holds = false := by
    intro d
    rw [setCall_call]
    split
    · rfl
    · next hne => exact Bool.of_not_eq_true fun hd => hne (h.single d c hd hold)
  obtain ⟨-, i, hi⟩ := h.holder c hold
  refine ⟨h.generation, h.born, h.latest, fun g hg => ⟨(h.held g hg).1, rfl⟩,
    fun g hg => absurd hg (hgone g), fun d hd => ?_, fun d e hd => ?_, fun g hg => ?_,
    fun g hg => ?_⟩
  · rw [hidle] at hd
    exact absurd hd Bool.false_ne_true
  · rw [hidle] at hd
    exact absurd hd Bool.false_ne_true
  · exact h.present g (by simpa [hi] using hg)
  · have hwaiting : s.call (.body g) = .waiting := by simpa [hi] using hg
    exact absurd (h.present g (by simp [hwaiting])).there (hgone g)

/-- A thread goes on that is there, and calls nobody. -/
theorem setPhase (h : s.Consistent) {p : Phase} (hthere : s.There g)
    (hcall : s.call (.body g) = .idle) (hp : p ≠ .unborn ∧ p ≠ .gone) :
    (s.setPhase g p).Consistent := by
  have hiff : ∀ g', (s.setPhase g p).There g' ↔ s.There g' := by
    intro g'
    by_cases hne : g' = g
    · subst hne
      simp [There, hp, hthere.1, hthere.2]
    · simp [There, hne]
  refine ⟨h.generation, fun g' => ?_, fun g' hg' => h.latest g' ((hiff g').1 hg'),
    fun g' hg' => (h.held g' hg').imp_left (hiff g').2, fun g' hg' => h.owned g' ((hiff g').1 hg'),
    h.holder, h.single, fun g' hg' => ?_, h.blocked⟩
  · refine Iff.trans ?_ (h.born g')
    by_cases hne : g' = g
    · simp [hne, hp.1, hthere.1]
    · simp [hne]
  · have hne : g' ≠ g := by
      rintro rfl
      exact hg' hcall
    simpa [Executing, hne] using h.present g' hg'

/-- **A thread gives up its handle.** It is the latest, so that the handle in the
shared state is its own if there is one. -/
theorem drop (h : s.Consistent) (hphase : s.phase g = .ended) :
    ((s.setPump (s.pump.finish g)).setPhase g .gone).Consistent := by
  have hthere : s.There g := by simp [There, hphase]
  have hfinish : s.pump.finish g = { s.pump with thread := none } := by
    rw [Pump.finish, if_pos (h.latest g hthere).symm]
  have hgone : ∀ g', ¬ (s.setPhase g .gone).There g' := by
    intro g' hg'
    by_cases hne : g' = g
    · simp [There, hne] at hg'
    · exact hne (h.eq_of_there (by simpa [There, hne] using hg') hthere)
  have hexecuting : ∀ g', s.Executing g' → False := by
    intro g' hg'
    obtain rfl := h.eq_of_there hg'.there hthere
    simp [Executing, hphase] at hg'
  rw [hfinish]
  refine ⟨h.generation, fun g' => ?_, fun g' hg' => absurd hg' (hgone g'),
    fun g' hg' => absurd hg' (by simp), fun g' hg' => absurd hg' (hgone g'), h.holder, h.single,
    fun g' hg' => (hexecuting g' (h.present g' hg')).elim, h.blocked⟩
  refine Iff.trans ?_ (h.born g')
  by_cases hne : g' = g
  · simp [hne, hthere.1]
  · simp [hne]

/-- **Each act keeps it.** -/
theorem after (h : s.Consistent) {a : Act} (ha : s.Enabled a) : (s.after a).Consistent := by
  cases a with
  | begin c r =>
    have hold : (s.call c).holds = false := by
      rw [ha.1]
      rfl
    refine h.setCall hold ?_ ?_ ?_
    · cases r <;> rfl
    · rintro g rfl -
      exact ha.2
    · cases r <;> exact fun _ _ hk => Call.noConfusion hk
  | resume c =>
    have hold : (s.call c).holds = false := by
      rw [ha.1]
      rfl
    refine (h.resumed ha.2).setCall_idle ?_
    rwa [resumed_call]
  | pause c wait => exact h.paused ha
  | take c =>
    cases c with
    | controller i => exact h.taken (by rw [ha.1]; rfl) ha.2
    | body g =>
      -- a body that waits for its turn waits for ever
      obtain ⟨i, hi⟩ := h.blocked g ha.1
      exact absurd (ha.2.symm.trans (h.joining_of_call hi)) Bool.false_ne_true
  | join c g => exact h.join ha.1 ha.2
  | release c => exact h.release ha
  | check g =>
    refine h.setPhase (by simp [There, ha.2]) ha.1 ?_
    split <;> simp
  | leave g => exact h.setPhase (by simp [There, ha.2]) ha.1 (by simp)
  | quit g => exact h.setPhase (by simp [There, ha.2]) ha.1 (by simp)
  | drop g => exact h.drop ha

end Consistent

/-- **Every history keeps it.** -/
theorem Allowed.consistent {history : List Act} (h : Allowed history) :
    (play history).Consistent := by
  induction history with
  | nil => exact Consistent.initial
  | cons a earlier ih => exact (ih h.1).after h.2

end Teletype.SharedPump
