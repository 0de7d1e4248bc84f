import Teletype.Report.Cursor
import Teletype.Report.Mouse

/-!
# What actions keep

An action keeps a property of the state if the state it leaves has it whenever the
state it found did, whether or not it failed. Actions put together from such actions
are such actions.
-/

namespace Teletype

namespace Action

variable {σ τ α β : Type} {P : σ → Prop}

/-- **An action that keeps a property** of the state. -/
def Keeps (P : σ → Prop) (m : Action σ α) : Prop := ∀ ⦃s⦄, P s → P (m.runOn s).2

theorem keeps_pure (a : α) : Keeps P (pure a) := fun _ h => h

theorem keeps_throw (e : TerminalError) : Keeps P (throw e : Action σ α) := fun _ h => h

theorem keeps_look (f : σ → α) : Keeps P (look f) := fun _ h => h

theorem keeps_get : Keeps P (get : Action σ σ) := fun _ h => h

theorem keeps_modify {f : σ → σ} (h : ∀ ⦃s⦄, P s → P (f s)) :
    Keeps P (modify f : Action σ PUnit) := h

theorem keeps_ofStep {f : σ → Except TerminalError α × σ} (h : ∀ ⦃s⦄, P s → P (f s).2) :
    Keeps P (ofStep f) := h

theorem Keeps.bind {m : Action σ α} {k : α → Action σ β} (hm : Keeps P m)
    (hk : ∀ a, Keeps P (k a)) : Keeps P (m >>= k) := by
  intro s hs
  rw [runOn_bind]
  have hmid := hm hs
  generalize m.runOn s = r at hmid
  obtain ⟨_ | a, mid⟩ := r
  · exact hmid
  · exact hk a hmid

/-- The state looked at first, which has the property then. -/
theorem keeps_get_bind {k : σ → Action σ β} (hk : ∀ ⦃s⦄, P s → P ((k s).runOn s).2) :
    Keeps P ((get : Action σ σ) >>= k) := fun s hs => by
  rw [runOn_bind, runOn_get]
  exact hk hs

/-- An action on a part keeps of the whole what it keeps of the part. -/
theorem Keeps.onPart {Q : τ → Prop} {get : τ → σ} {put : σ → τ → τ} {m : Action σ α}
    (hm : Keeps P m) (hget : ∀ ⦃t⦄, Q t → P (get t))
    (hput : ∀ ⦃s t⦄, Q t → P s → Q (put s t)) : Keeps Q (onPart get put m) :=
  fun _ ht => hput ht (hm (hget ht))

end Action

open Teletype.Action

variable {σ : Type} {P : σ → Prop} {next : Action σ (Option UInt8)}

/-- Waiting for a report keeps what reading a byte keeps. -/
theorem ReportShape.keeps_await (hnext : Keeps P next) (shape : ReportShape) (requests : Nat)
    (s : ReportShape.Search) : Keeps P (shape.await next requests s) := by
  induction requests generalizing s with
  | zero => exact keeps_pure _
  | succ requests ih =>
    refine hnext.bind fun b => ?_
    cases b with
    | none => exact keeps_pure _
    | some b =>
      dsimp only
      split
      · exact keeps_pure _
      · exact ih _

namespace MouseReport

theorem keeps_fieldRest (hnext : Keeps P next) (more value : Nat) :
    Keeps P (fieldRest next more value) := by
  induction more generalizing value with
  | zero => exact keeps_pure _
  | succ more ih =>
    refine hnext.bind fun b => ?_
    cases b with
    | none => exact keeps_pure _
    | some b => exact ih _

theorem keeps_field (hnext : Keeps P next) : Keeps P (field next) := by
  refine hnext.bind fun b => ?_
  cases b with
  | none => exact keeps_pure _
  | some b => exact keeps_fieldRest hnext _ _

/-- Reading a report of the mouse keeps what reading a byte keeps. -/
theorem keeps_read (hnext : Keeps P next) (last : MouseEvent) : Keeps P (read next last) := by
  have hfield := keeps_field hnext
  refine hfield.bind fun code => ?_
  cases code with
  | none => exact keeps_pure _
  | some code =>
    refine hfield.bind fun x => ?_
    cases x with
    | none => exact keeps_pure _
    | some x =>
      refine hfield.bind fun y => ?_
      cases y with
      | none => exact keeps_pure _
      | some y => exact keeps_pure _

end MouseReport

end Teletype
