import Teletype.Proofs.Action
import Teletype.Proofs.Signal.Raising
import Teletype.Terminal.Operation

/-!
# What operations keep

No operation closes a terminal, and what is true of its device stays true when all that
a terminal asks of its device keeps it (`Device.Keeps`). Callbacks act on the terminal,
too, but they do nothing to the device that a terminal does not.
-/

namespace Teletype

open Teletype.Action

/-- **A property of a device that terminals keep** by what they ask of it. -/
structure Device.Keeps (δ : Type) [Device δ] (P : δ → Prop) : Prop where
  attributes : Action.Keeps P (Device.attributes : Action δ Attributes)
  setAttributes (a : Attributes) : Action.Keeps P (Device.setAttributes a : Action δ Unit)
  size : Action.Keeps P (Device.size : Action δ Size)
  setSize (s : Size) : Action.Keeps P (Device.setSize s : Action δ (List Signal))
  deliver (bytes : List UInt8) {d : δ} : P d → P (Device.deliver bytes d).2
  read (peek : Bool) {d : δ} : P d → P (Device.read peek d).2
  write (bytes : List UInt8) {d : δ} : P d → P (Device.write bytes d).2
  cursor : Action.Keeps P (Device.cursor : Action δ (Option Cursor))
  trackMouse (tracking : Tracking) : Action.Keeps P (Device.trackMouse tracking : Action δ Bool)
  trackFocus (on : Bool) {d d' : δ} : P d → Device.trackFocus on d = some d' → P d'

namespace Terminal

variable {δ α : Type} {P : δ → Prop} {closed : Bool} {t : Terminal δ}

/-- A terminal that is closed or not, on a device with some property. -/
def On (closed : Bool) (P : δ → Prop) (t : Terminal δ) : Prop := t.closed = closed ∧ P t.device

theorem keeps_onDevice {m : Action δ α} (hm : Action.Keeps P m) :
    Action.Keeps (On closed P) (onDevice m) :=
  hm.onPart (fun _ h => h.2) fun _ _ h hs => ⟨h.1, hs⟩

theorem keeps_checkOpen : Action.Keeps (On closed P) (checkOpen (δ := δ)) := by
  refine keeps_get.bind fun t => ?_
  split
  · exact keeps_throw _
  · exact keeps_pure _

theorem keeps_expansion? {Q : Terminal δ → Prop} (c : Capability) (params : List Param) :
    Action.Keeps Q (expansion? (δ := δ) c params) := by
  refine keeps_get.bind fun t => ?_
  split
  · exact keeps_pure _
  · exact keeps_throw _
  · exact keeps_pure _

theorem on_installHandler (s : Signal) (h : Handler) (ht : t.On closed P) :
    (t.installHandler s h).On closed P := by
  unfold installHandler
  dsimp only
  split
  · exact ht
  · exact ht

end Terminal

namespace Device.Keeps

open Terminal

variable {δ : Type} [Device δ] {P : δ → Prop} {closed : Bool} {t : Terminal δ}
  (k : Device.Keeps δ P)
include k

theorem keeps_setAttributes (a : Attributes) :
    Action.Keeps (On closed P) (Terminal.setAttributes (δ := δ) a) :=
  keeps_checkOpen.bind fun _ => keeps_onDevice (k.setAttributes a)

theorem keeps_attributes : Action.Keeps (On closed P) (Terminal.attributes (δ := δ)) :=
  keeps_checkOpen.bind fun _ => keeps_onDevice k.attributes

theorem keeps_deliver (bytes : List UInt8) :
    Action.Keeps (On closed P) (Terminal.deliver (δ := δ) bytes) :=
  keeps_checkOpen.bind fun _ => keeps_onDevice (keeps_ofStep fun _ h => k.deliver bytes h)

/-- **Callbacks keep it.** -/
theorem host : (Terminal.host (δ := δ)).Keeps (On closed P) where
  mark _ _ _ h := h
  setAttributes a t h := k.keeps_setAttributes a h
  deliver bytes t h := by
    have hdelivered := k.keeps_deliver bytes h
    unfold Terminal.host
    dsimp only
    generalize (Terminal.deliver bytes).runOn t = r at hdelivered
    obtain ⟨_ | ⟨_, _⟩, _⟩ := r <;> exact hdelivered
  install s h t ht := on_installHandler s h ht
  note _ _ _ h := h

theorem on_raise (s : Signal) (h : t.On closed P) : (t.raise s).On closed P := k.host.raise s h

theorem on_putOut (bytes : List UInt8) (h : t.On closed P) : (t.putOut bytes).2.On closed P := by
  unfold putOut
  split
  · exact h
  · exact ⟨h.1, k.write bytes h.2⟩

theorem keeps_send (bytes : List UInt8) :
    Action.Keeps (On closed P) (Terminal.send (δ := δ) bytes) :=
  keeps_checkOpen.bind fun _ => keeps_ofStep fun _ h => k.on_putOut bytes h

theorem keeps_puts (c : Capability) (params : List Param) :
    Action.Keeps (On closed P) (Terminal.puts (δ := δ) c params) := by
  refine (keeps_expansion? c params).bind fun bytes => ?_
  cases bytes with
  | none => exact keeps_pure _
  | some bytes => exact (k.keeps_send bytes).bind fun _ => keeps_pure _

theorem keeps_read (peek : Bool) :
    Action.Keeps (On closed P) (Terminal.read (δ := δ) peek) := by
  refine keeps_get.bind fun t => ?_
  split
  · exact keeps_checkOpen.bind fun _ => keeps_pure _
  · exact keeps_onDevice (keeps_ofStep fun _ h => k.read peek h)

theorem keeps_next : Action.Keeps (On closed P) (Terminal.next (δ := δ)) :=
  (k.keeps_read false).bind fun _ => keeps_pure _

theorem keeps_readUpTo (n : Nat) :
    Action.Keeps (On closed P) (Terminal.readUpTo (δ := δ) n) := by
  induction n with
  | zero => exact keeps_pure _
  | succ n ih =>
    refine (k.keeps_read false).bind fun r => ?_
    cases r with
    | byte b => exact ih.bind fun _ => keeps_pure _
    | expired => exact keeps_pure _
    | eof => exact keeps_pure _

theorem keeps_processInput (bytes : List UInt8) :
    Action.Keeps (On closed P) (Terminal.processInput (δ := δ) bytes) := by
  refine (k.keeps_deliver bytes).bind fun ⟨signals, result⟩ => ?_
  refine (keeps_modify fun _ h => k.host.raiseAll signals h).bind fun _ => ?_
  cases result with
  | ok => exact keeps_pure _
  | error e => exact keeps_throw e

theorem keeps_setSize (s : Size) :
    Action.Keeps (On closed P) (Terminal.setSize (δ := δ) s) :=
  keeps_checkOpen.bind fun _ => (keeps_onDevice (k.setSize s)).bind fun signals =>
    keeps_modify fun _ h => k.host.raiseAll signals h

theorem keeps_cursor : Action.Keeps (On closed P) (Terminal.cursor (δ := δ)) := by
  have hawait : Action.Keeps (On closed P) (Terminal.awaitCursor (δ := δ)) := by
    refine keeps_get.bind fun t => ?_
    dsimp only
    split
    · split
      · exact keeps_pure _
      · refine (keeps_expansion? _ _).bind fun question => (k.keeps_send _).bind fun _ => ?_
        exact keeps_get.bind fun t => ReportShape.keeps_await k.keeps_next _ _ _
    · exact keeps_pure _
  refine (keeps_onDevice k.cursor).bind fun c => ?_
  cases c with
  | none => exact hawait
  | some c => exact keeps_pure _

theorem keeps_trackMouse (tracking : Tracking) :
    Action.Keeps (On closed P) (Terminal.trackMouse (δ := δ) tracking) := by
  refine keeps_get.bind fun t => ?_
  split
  · refine keeps_checkOpen.bind fun _ => (keeps_onDevice (k.trackMouse tracking)).bind fun done => ?_
    have htrack : Action.Keeps (On closed P)
        (modify fun t : Terminal δ => { t with tracking } : Action (Terminal δ) PUnit) :=
      keeps_modify fun _ h => h
    cases done with
    | true => exact htrack.bind fun _ => keeps_pure _
    | false => exact (k.keeps_send _).bind fun _ => htrack.bind fun _ => keeps_pure _
  · exact keeps_pure _

theorem keeps_mouseEvent : Action.Keeps (On closed P) (Terminal.mouseEvent (δ := δ)) := by
  refine keeps_get.bind fun t => (MouseReport.keeps_read k.keeps_next _).bind fun event => ?_
  refine Keeps.bind (keeps_modify ?_) fun _ => keeps_pure _
  exact fun _ h => h

theorem keeps_trackFocus (on : Bool) :
    Action.Keeps (On closed P) (Terminal.trackFocus (δ := δ) on) := by
  refine keeps_checkOpen.bind fun _ => keeps_get_bind fun t ht => ?_
  cases hfocus : Device.trackFocus on t.device with
  | some device =>
    simp only [Action.runOn_bind, Action.runOn_set, Action.runOn_pure]
    exact ⟨ht.1, k.trackFocus on ht.2 hfocus⟩
  | none =>
    dsimp only
    split
    · refine ((k.keeps_send _).bind fun _ => Keeps.bind (keeps_modify ?_) fun _ => keeps_pure _) ht
      exact fun _ h => h
    · exact ht

/-- **Every operation keeps it**, if resuming the pumps does, and pausing them where they
are paused. -/
theorem run (o : Operation) (hpause : o.waits = true → ∀ ⦃d : δ⦄, P d → P (Device.pause d))
    (hresume : ∀ ⦃d : δ⦄, P d → P (Device.resume d)) :
    Action.Keeps (On closed P) (o.run (δ := δ)) := by
  cases o with
  | attributes => exact k.keeps_attributes.bind fun _ => keeps_pure _
  | setAttributes a => exact k.keeps_setAttributes a
  | enterRawMode =>
    exact (k.keeps_attributes.bind fun before => (k.keeps_setAttributes before.makeRaw).bind
      fun _ => keeps_pure before).bind fun _ => keeps_pure _
  | echoes => exact (k.keeps_attributes.bind fun _ => keeps_pure _).bind fun _ => keeps_pure _
  | setEcho on =>
    refine (k.keeps_attributes.bind fun a => ?_).bind fun _ => keeps_pure _
    dsimp only
    split
    · exact (k.keeps_setAttributes _).bind fun _ => keeps_pure _
    · exact keeps_pure _
  | size => exact (keeps_checkOpen.bind fun _ => keeps_onDevice k.size).bind fun _ => keeps_pure _
  | setSize s => exact k.keeps_setSize s
  | read peek => exact (k.keeps_read peek).bind fun _ => keeps_pure _
  | readUpTo n => exact (k.keeps_readUpTo n).bind fun _ => keeps_pure _
  | processInput bytes => exact k.keeps_processInput bytes
  | write bytes =>
    refine keeps_ofStep fun t ht => ?_
    show (t.write bytes).2.On closed P
    unfold Terminal.write
    split
    · exact ht
    · exact k.on_putOut bytes ht
  | puts c params => exact (k.keeps_puts c params).bind fun _ => keeps_pure _
  | cursor => exact k.keeps_cursor.bind fun _ => keeps_pure _
  | trackMouse tracking => exact (k.keeps_trackMouse tracking).bind fun _ => keeps_pure _
  | mouseEvent => exact k.keeps_mouseEvent.bind fun _ => keeps_pure _
  | trackFocus on => exact (k.keeps_trackFocus on).bind fun _ => keeps_pure _
  | handle s h => exact keeps_modify fun _ ht => on_installHandler s h ht
  | raise s => exact keeps_modify fun _ ht => k.on_raise s ht
  | setWinchHook hook => exact keeps_modify fun _ ht => ht
  | receive s =>
    refine keeps_modify fun t ht => ?_
    unfold Terminal.receive
    split
    · exact k.on_raise s ht
    · exact ht
  | pause => exact keeps_modify fun _ ht => ⟨ht.1, hpause rfl ht.2⟩
  | resume =>
    exact keeps_checkOpen.bind fun _ => keeps_modify fun _ ht => ⟨ht.1, hresume ht.2⟩

end Device.Keeps

end Teletype
