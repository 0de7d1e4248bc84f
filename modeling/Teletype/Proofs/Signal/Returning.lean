import Mathlib.Algebra.GroupWithZero.Nat
import Teletype.Proofs.Signal.Raising

/-!
# Raises that come to an end

A callback that feeds its own signal back to itself runs for ever. One that has
installed its successor by then does not: it *gives way* (`Handler.givesWay`), and
when it is raised again it is the successor that runs. Chains of callbacks are
finite, so that all the handlers of a table have only so many callbacks in them
(`SignalTable.load`), and each time one gives way there is one less.

The induction is on the load. A callback that has given way has reduced it below
what it was (`exists_foldlM_of_givesWay`); from then on what it does is bounded by
the load that is left together with what it has yet to install
(`exists_foldlM_of_load`), and whatever is raised meanwhile reduces that further or
leaves it as it is.

The built-in reaction to a change of the window size is not a handler of the table
and does not give way. No byte of input is such a signal (`Tame.signals`).
-/

namespace Teletype

/-! ## Chains of callbacks -/

mutual

/-- **How many callbacks a handler has in store**: itself and its successors. -/
def Handler.weight : Handler → Nat
  | .script _ steps => HandlerStep.weights steps + 1
  | _ => 0

/-- How many callbacks some steps install, one after the other. -/
def HandlerStep.weights : List HandlerStep → Nat
  | [] => 0
  | step :: steps => step.weight + HandlerStep.weights steps

/-- How many callbacks a step installs. -/
def HandlerStep.weight : HandlerStep → Nat
  | .install h => h.weight
  | _ => 0

end

mutual

/-- **Whether a handler gives way**: it feeds nothing back before it has installed a
successor, and its successors give way too. -/
def Handler.givesWay : Handler → Bool
  | .script _ steps => HandlerStep.giveWay false steps
  | _ => true

/-- Whether some steps feed nothing back before a successor is installed, given
whether there is one already. -/
def HandlerStep.giveWay : Bool → List HandlerStep → Bool
  | _, [] => true
  | installed, step :: steps =>
    match step with
    | .install h => h.givesWay && HandlerStep.giveWay true steps
    | .feed _ => installed && HandlerStep.giveWay installed steps
    | _ => HandlerStep.giveWay installed steps

end

namespace SignalTable

variable {t : SignalTable} {s : Signal} {h : Handler}

/-- **How many callbacks a table has in store.** -/
def load (t : SignalTable) : Nat := (Signal.all.map fun s => (t.handler s).weight).sum

/-- **Whether all handlers give way.** -/
def GivesWay (t : SignalTable) : Prop := ∀ s, (t.handler s).givesWay = true

theorem handler_install (t : SignalTable) (s : Signal) (h : Handler) (x : Signal) :
    (t.install s h).handler x = if x = s then h else t.handler x := rfl

/-- A handler installed counts, and the one in its place counts no more. -/
theorem load_install (t : SignalTable) (s : Signal) (h : Handler) :
    (t.install s h).load + (t.handler s).weight = t.load + h.weight := by
  simp only [load, Signal.all, List.map_cons, List.map_nil, handler_install, List.sum_cons,
    List.sum_nil]
  cases s <;> simp only [reduceCtorEq, if_true, if_false] <;> omega

/-- A handler counts among the others. -/
theorem weight_le_load (t : SignalTable) (s : Signal) : (t.handler s).weight ≤ t.load := by
  have := t.load_install s .ignore
  simp only [Handler.weight] at this
  omega

theorem GivesWay.install (ht : t.GivesWay) (hh : h.givesWay = true) (s : Signal) :
    (t.install s h).GivesWay := by
  intro x
  rw [handler_install]
  split
  · exact hh
  · exact ht x

/-- What runs when a signal is raised that is no change of the window size. -/
theorem steps_reaction (t : SignalTable) (hs : s ≠ .winch) :
    (t.reaction s).steps = (t.handler s).steps := by
  unfold reaction
  cases ht : t.handler s with
  | default => simp only [if_neg hs, Handler.steps]
  | ignore => rfl
  | script id steps => rfl

end SignalTable

namespace Host

variable {σ : Type} {host : Host σ} {P : σ → Prop} {s : Signal} {signals : List Signal}
  {st : σ} {n : Nat}

/-- **A host whose handlers change only by being installed**, as long as something
holds that all its operations keep, and which then has no input that is a change of
the window size. -/
structure Tame (host : Host σ) (P : σ → Prop) : Prop where
  keeps : host.Keeps P
  mark (tag : String) (s : Signal) (st : σ) : host.table (host.mark tag s st) = host.table st
  setAttributes (a : Attributes) (st : σ) :
    host.table (host.setAttributes a st) = host.table st
  deliver (bytes : List UInt8) (st : σ) :
    host.table (host.deliver bytes st).1 = host.table st
  install (s : Signal) (h : Handler) (st : σ) :
    host.table (host.install s h st) = (host.table st).install s h
  note (s : Signal) (h : Handler) (st : σ) : host.table (host.note s h st) = host.table st
  signals (bytes : List UInt8) {st : σ} : P st → .winch ∉ (host.deliver bytes st).2

/-- **In good order**: all handlers give way, and have so many callbacks in store at
most. -/
structure Bounded (host : Host σ) (P : σ → Prop) (n : Nat) (st : σ) : Prop where
  holds : P st
  givesWay : (host.table st).GivesWay
  load : (host.table st).load ≤ n

/-- **Raising comes to an end** where there are so many callbacks in store at most,
and leaves no more. -/
def Returns (host : Host σ) (P : σ → Prop) (n : Nat) : Prop :=
  ∀ s ≠ Signal.winch, ∀ st, host.Bounded P n st →
    ∃ st', host.raise? s st = some st' ∧ host.Bounded P n st'

theorem Bounded.mono {m : Nat} (h : host.Bounded P n st) (hnm : n ≤ m) : host.Bounded P m st :=
  ⟨h.holds, h.givesWay, Nat.le_trans h.load hnm⟩

/-- The handlers being what they were, good order is kept. -/
theorem Bounded.of_table_eq {st' : σ} (h : host.Bounded P n st) (hp : P st')
    (ht : host.table st' = host.table st) : host.Bounded P n st' :=
  ⟨hp, ht ▸ h.givesWay, ht ▸ h.load⟩

/-- Where each raise comes to an end, several do, one after the other. -/
theorem Returns.raiseAll? (hr : host.Returns P n) (hsignals : .winch ∉ signals)
    (h : host.Bounded P n st) :
    ∃ st', host.raiseAll? signals st = some st' ∧ host.Bounded P n st' := by
  induction signals generalizing st with
  | nil => exact ⟨st, rfl, h⟩
  | cons s signals ih =>
    rw [List.mem_cons, not_or] at hsignals
    obtain ⟨mid, hmid, hbounded⟩ := hr s (Ne.symm hsignals.1) st h
    obtain ⟨st', hrest, hbounded'⟩ := ih hsignals.2 hbounded
    refine ⟨st', ?_, hbounded'⟩
    show (host.raise? s st >>= host.raiseAll? signals) = _
    rw [hmid]
    exact hrest

namespace Tame

variable (t : host.Tame P)
include t

/-- **A callback that has given way** comes to an end: what is in store, with what it
has yet to install, bounds what it can bring about. -/
theorem exists_foldlM_of_load (hr : ∀ m ≤ n, host.Returns P m) {steps : List HandlerStep}
    (hsteps : HandlerStep.giveWay true steps = true) (hst : host.Bounded P n st)
    (hload : (host.table st).load + HandlerStep.weights steps ≤ n) :
    ∃ st', steps.foldlM (host.perform? host.raise? s) st = some st' ∧ host.Bounded P n st' := by
  induction steps generalizing st with
  | nil => exact ⟨st, rfl, hst⟩
  | cons step steps ih =>
    rw [List.foldlM_cons]
    cases step with
    | mark tag =>
      have htable := t.mark tag s st
      refine ih hsteps (hst.of_table_eq (t.keeps.mark tag s hst.holds) htable) ?_
      simpa only [htable, HandlerStep.weights, HandlerStep.weight, Nat.zero_add] using hload
    | setAttributes a =>
      have htable := t.setAttributes a st
      refine ih hsteps (hst.of_table_eq (t.keeps.setAttributes a hst.holds) htable) ?_
      simpa only [htable, HandlerStep.weights, HandlerStep.weight, Nat.zero_add] using hload
    | feed bytes =>
      -- what is raised meanwhile leaves no more in store than there is
      have hdelivered : host.Bounded P (host.table st).load (host.deliver bytes st).1 :=
        .of_table_eq ⟨hst.holds, hst.givesWay, Nat.le_refl _⟩ (t.keeps.deliver bytes hst.holds)
          (t.deliver bytes st)
      obtain ⟨mid, hmid, hbounded⟩ :=
        (hr _ hst.load).raiseAll? (t.signals bytes hst.holds) hdelivered
      obtain ⟨st', hrest, hbounded'⟩ := ih hsteps (hbounded.mono hst.load) (by
        have := hbounded.load
        simp only [HandlerStep.weights, HandlerStep.weight] at hload
        omega)
      refine ⟨st', ?_, hbounded'⟩
      show (host.raiseAll? (host.deliver bytes st).2 (host.deliver bytes st).1 >>= _) = _
      rw [hmid]
      exact hrest
    | install h =>
      rw [HandlerStep.giveWay, Bool.and_eq_true] at hsteps
      have htable := t.install s h st
      have hnew := (host.table st).load_install s h
      simp only [HandlerStep.weights, HandlerStep.weight] at hload
      refine ih hsteps.2 ⟨t.keeps.install s h hst.holds, ?_, ?_⟩ ?_
      · rw [htable]
        exact hst.givesWay.install hsteps.1 s
      · rw [htable]
        omega
      · rw [htable]
        omega

/-- **A callback that has yet to give way** comes to an end: up to the moment at which
it does, it stands in the table with all that it has to install. -/
theorem exists_foldlM_of_givesWay (hr : ∀ m < n, host.Returns P m) {steps : List HandlerStep}
    (hsteps : HandlerStep.giveWay false steps = true) (hst : host.Bounded P n st)
    (hweight : ((host.table st).handler s).weight = HandlerStep.weights steps + 1) :
    ∃ st', steps.foldlM (host.perform? host.raise? s) st = some st' ∧ host.Bounded P n st' := by
  induction steps generalizing st with
  | nil => exact ⟨st, rfl, hst⟩
  | cons step steps ih =>
    rw [List.foldlM_cons]
    cases step with
    | mark tag =>
      have htable := t.mark tag s st
      refine ih hsteps (hst.of_table_eq (t.keeps.mark tag s hst.holds) htable) ?_
      simpa only [htable, HandlerStep.weights, HandlerStep.weight, Nat.zero_add] using hweight
    | setAttributes a =>
      have htable := t.setAttributes a st
      refine ih hsteps (hst.of_table_eq (t.keeps.setAttributes a hst.holds) htable) ?_
      simpa only [htable, HandlerStep.weights, HandlerStep.weight, Nat.zero_add] using hweight
    | feed bytes => exact absurd hsteps Bool.false_ne_true
    | install h =>
      rw [HandlerStep.giveWay, Bool.and_eq_true] at hsteps
      have htable := t.install s h st
      have hnew := (host.table st).load_install s h
      have hle := hst.load
      have hold := (host.table st).weight_le_load s
      simp only [HandlerStep.weights, HandlerStep.weight] at hweight
      -- it is gone from the table, so that there is one callback less
      have hinstalled : host.Bounded P (n - 1) (host.install s h st) :=
        ⟨t.keeps.install s h hst.holds, by rw [htable]; exact hst.givesWay.install hsteps.1 s,
          by rw [htable]; omega⟩
      obtain ⟨st', hrest, hbounded⟩ := t.exists_foldlM_of_load
        (fun m hm => hr m (by omega)) hsteps.2 hinstalled (by rw [htable]; omega)
      exact ⟨st', hrest, hbounded.mono (Nat.sub_le n 1)⟩

/-- **Where all handlers give way, raising comes to an end.** -/
theorem returns (n : Nat) : host.Returns P n := by
  induction n using Nat.strongRecOn with
  | ind n ih =>
    intro s hs st hst
    have hnote := t.note s ((host.table st).handler s) st
    have hnoted := hst.of_table_eq (t.keeps.note s ((host.table st).handler s) hst.holds) hnote
    have hgives := hst.givesWay s
    rw [raise?_eq, react?, SignalTable.steps_reaction _ hs]
    cases hh : (host.table st).handler s with
    | default => exact ⟨_, rfl, hh ▸ hnoted⟩
    | ignore => exact ⟨_, rfl, hh ▸ hnoted⟩
    | script id steps =>
      rw [hh] at hgives hnote hnoted
      refine t.exists_foldlM_of_givesWay ih hgives hnoted ?_
      rw [hnote, hh]
      rfl

/-- **Where all handlers give way, feeding comes to an end.** -/
theorem isSome_feed? (hst : P st) (hgives : (host.table st).GivesWay) (bytes : List UInt8) :
    (host.feed? bytes st).isSome = true := by
  obtain ⟨st', h, -⟩ := (t.returns _).raiseAll? (t.signals bytes hst)
    ⟨t.keeps.deliver bytes hst, by rw [t.deliver]; exact hgives, Nat.le_refl _⟩
  exact Option.isSome_of_eq_some h

end Tame

end Host

end Teletype
