import Teletype.Error

/-!
# Actions

Operations on terminals change a state and may fail, and what they did before
they failed stays done. An action is such an operation. A failure can be looked
at without being passed on, and an action on a part of a state is one on the
whole.
-/

namespace Teletype

/-- **An operation that changes a state and may fail**, keeping the state when it
fails. -/
abbrev Action (σ : Type) (α : Type) : Type := ExceptT TerminalError (StateM σ) α

namespace Action

variable {σ τ α : Type}

/-- What an action results in, and the state it leaves. -/
def runOn (m : Action σ α) (s : σ) : Except TerminalError α × σ := m s

/-- The action that does a step. -/
def ofStep (f : σ → Except TerminalError α × σ) : Action σ α := f

/-- The action that only looks at the state. -/
def look (f : σ → α) : Action σ α := fun s => (.ok (f s), s)

/-- The action that only changes the state. -/
def change (f : σ → σ) : Action σ Unit := fun s => (.ok (), f s)

/-- **An action that looks at its failure** instead of failing. -/
def attempt (m : Action σ α) : Action σ (Except TerminalError α) := fun s =>
  let (r, s) := m s
  (.ok r, s)

/-- **An action on a part** of a state, done to the whole. -/
def onPart (get : τ → σ) (put : σ → τ → τ) (m : Action σ α) : Action τ α := fun t =>
  let (r, s) := m (get t)
  (r, put s t)

@[simp] theorem runOn_ofStep (f : σ → Except TerminalError α × σ) (s : σ) :
    (ofStep f).runOn s = f s := rfl

@[simp] theorem runOn_look (f : σ → α) (s : σ) : (look f).runOn s = (.ok (f s), s) := rfl

@[simp] theorem runOn_change (f : σ → σ) (s : σ) : (change f).runOn s = (.ok (), f s) := rfl

@[simp] theorem runOn_get (s : σ) : (get : Action σ σ).runOn s = (.ok s, s) := rfl

@[simp] theorem runOn_set (s t : σ) : (set t : Action σ PUnit).runOn s = (.ok ⟨⟩, t) := rfl

@[simp] theorem runOn_modify (f : σ → σ) (s : σ) :
    (modify f : Action σ PUnit).runOn s = (.ok ⟨⟩, f s) := rfl

@[simp] theorem runOn_onPart (get : τ → σ) (put : σ → τ → τ) (m : Action σ α) (t : τ) :
    (onPart get put m).runOn t = ((m.runOn (get t)).1, put (m.runOn (get t)).2 t) := rfl

@[simp] theorem runOn_pure (a : α) (s : σ) : (pure a : Action σ α).runOn s = (.ok a, s) := rfl

@[simp] theorem runOn_throw (e : TerminalError) (s : σ) :
    (throw e : Action σ α).runOn s = (.error e, s) := rfl

@[simp] theorem runOn_attempt (m : Action σ α) (s : σ) :
    m.attempt.runOn s = (.ok (m.runOn s).1, (m.runOn s).2) := rfl

/-- One action after another: the second runs on the state the first leaves,
unless the first failed. -/
theorem runOn_bind {β : Type} (m : Action σ α) (k : α → Action σ β) (s : σ) :
    (m >>= k).runOn s =
      match m.runOn s with
      | (.ok a, s) => (k a).runOn s
      | (.error e, s) => (.error e, s) := by
  change (ExceptT.bind m k) s = _
  simp only [ExceptT.bind, ExceptT.mk, bind, StateT.bind, runOn]
  generalize m s = r
  obtain ⟨r | r, s⟩ := r <;> rfl

/-- What has come of one action after another came of the second, on what the first left. -/
theorem runOn_bind_eq_ok {β : Type} {m : Action σ α} {k : α → Action σ β} {s u : σ} {b : β}
    (h : (m >>= k).runOn s = (.ok b, u)) :
    ∃ a t, m.runOn s = (.ok a, t) ∧ (k a).runOn t = (.ok b, u) := by
  rw [runOn_bind] at h
  generalize m.runOn s = r at h
  obtain ⟨r | a, t⟩ := r
  · cases h
  · exact ⟨a, t, rfl, h⟩

end Action

end Teletype
