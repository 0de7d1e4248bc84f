import Teletype.Proofs.Signal.Raising
import Teletype.Signal.Agenda

/-!
# Agendas that are worked off

A thread that is left alone with an agenda does, bit by bit, what raising does in one
go (`raiseAll?_works`). What the operations of a host keep is kept by each bit.
-/

namespace Teletype.Host

variable {σ : Type} {host : Host σ} {tasks tasks' tasks'' : List Task} {st st' st'' : σ}
  {s : Signal} {signals : List Signal}

/-- What the operations of a host keep, doing the next thing keeps. -/
theorem Keeps.work {P : σ → Prop} (k : host.Keeps P) (tasks : List Task) (hst : P st) :
    P (host.work tasks st).2 := by
  match tasks with
  | [] => exact hst
  | .raise s :: _ => exact k.note s _ hst
  | .step s (.mark tag) :: _ => exact k.mark tag s hst
  | .step _ (.setAttributes a) :: _ => exact k.setAttributes a hst
  | .step _ (.feed bytes) :: _ => exact k.deliver bytes hst
  | .step s (.install h) :: _ => exact k.install s h hst

/-- **An agenda worked on**, for as long as it may take. -/
inductive Works (host : Host σ) : List Task → σ → List Task → σ → Prop
  /-- Nothing is done. -/
  | refl {tasks : List Task} {st : σ} : Works host tasks st tasks st
  /-- The next thing is done, and then the others. -/
  | step {tasks tasks' : List Task} {st st' : σ} :
    tasks ≠ [] → Works host (host.work tasks st).1 (host.work tasks st).2 tasks' st' →
      Works host tasks st tasks' st'

theorem Works.trans (h : host.Works tasks st tasks' st') (h' : host.Works tasks' st' tasks'' st'') :
    host.Works tasks st tasks'' st'' := by
  induction h with
  | refl => exact h'
  | step hne _ ih => exact .step hne (ih h')

section Callback

variable {raising : Signal → σ → Option σ}
  (hraise : ∀ s st st', raising s st = some st' →
    ∀ rest, host.Works (.raise s :: rest) st rest st')
include hraise

theorem works_of_foldlM_raise (h : signals.foldlM (fun st s => raising s st) st = some st')
    (rest : List Task) : host.Works (signals.map .raise ++ rest) st rest st' := by
  induction signals generalizing st with
  | nil =>
    obtain rfl : st = st' := Option.some.inj h
    exact .refl
  | cons s signals ih =>
    rw [List.foldlM_cons] at h
    obtain ⟨mid, hmid, hrest⟩ := Option.bind_eq_some_iff.mp h
    exact (hraise s st mid hmid _).trans (ih hrest)

theorem works_of_foldlM_perform {steps : List HandlerStep}
    (h : steps.foldlM (host.perform? raising s) st = some st') (rest : List Task) :
    host.Works (steps.map (.step s) ++ rest) st rest st' := by
  induction steps generalizing st with
  | nil =>
    obtain rfl : st = st' := Option.some.inj h
    exact .refl
  | cons step steps ih =>
    rw [List.foldlM_cons] at h
    obtain ⟨mid, hmid, hrest⟩ := Option.bind_eq_some_iff.mp h
    refine .step (List.cons_ne_nil _ _) ?_
    cases step with
    | feed bytes =>
      -- the signals that come in are on the agenda in front of the rest of the callback
      exact (works_of_foldlM_raise hraise hmid (steps.map (.step s) ++ rest)).trans (ih hrest)
    | mark _ | setAttributes _ | install _ =>
      obtain rfl := Option.some.inj hmid
      exact ih hrest

end Callback

/-- **A raise that comes to an end can be worked off**, with whatever is to do then. -/
theorem raise?_works (h : host.raise? s st = some st') :
    ∀ rest, host.Works (.raise s :: rest) st rest st' := by
  refine raise?_induction (motive := fun s st st' =>
    ∀ rest, host.Works (.raise s :: rest) st rest st') ?_ h
  intro raising hraise s st st' h rest
  exact .step (List.cons_ne_nil _ _) (works_of_foldlM_perform hraise h rest)

/-- **Signals raised one after the other, bit by bit.** -/
theorem raiseAll?_works (h : host.raiseAll? signals st = some st') (rest : List Task) :
    host.Works (signals.map .raise ++ rest) st rest st' :=
  works_of_foldlM_raise (fun _ _ _ => raise?_works) h rest

end Teletype.Host
