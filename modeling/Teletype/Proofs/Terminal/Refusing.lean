import Teletype.Terminal.Operation

/-!
# What a closed terminal refuses

A terminal that is closed and strict refuses an action if the action asks whether the
terminal is closed before it does anything else. Some operations ask by themselves,
others through the first operation that they are made of: entering raw mode by looking at
the attributes, reading a report of the mouse by reading a byte. Which operations refuse
in the end is a table (`Operation.refusal?`), and they refuse with nothing done
(`runOn_of_refusal?`).

Not in the table is what does not ask, or not always. A capability that the description
lacks is lacking, a device that knows the place of the cursor tells it, and a terminal
without a mouse does not track it; handlers are installed, signals raised and pumps
paused as before.
-/

namespace Teletype

open Teletype.Action

namespace Terminal

variable {δ α β : Type} {t : Terminal δ}

/-- **An action that is refused** by every closed terminal that is strict, with nothing
done. -/
def Refused (m : Action (Terminal δ) α) : Prop :=
  ∀ ⦃t : Terminal δ⦄, t.refuses = true → m.runOn t = (.error .closed, t)

/-- What follows a refused action is not done. -/
theorem Refused.bind {m : Action (Terminal δ) α} (hm : Refused m)
    (k : α → Action (Terminal δ) β) : Refused (m >>= k) := fun t ht => by
  rw [runOn_bind, hm ht]

/-- Looking at the terminal first makes no difference. -/
theorem refused_get_bind {k : Terminal δ → Action (Terminal δ) β} (hk : ∀ t, Refused (k t)) :
    Refused (get >>= k) := fun t ht => by
  rw [runOn_bind, runOn_get]
  exact hk t ht

theorem refused_checkOpen : Refused (checkOpen (δ := δ)) := fun t ht => by
  unfold checkOpen
  rw [runOn_bind, runOn_get]
  dsimp only
  rw [if_pos ht, runOn_throw]

section Operations

variable [Device δ]

theorem refused_attributes : Refused (attributes (δ := δ)) := refused_checkOpen.bind _

theorem refused_deliver (bytes : List UInt8) : Refused (deliver (δ := δ) bytes) :=
  refused_checkOpen.bind _

theorem refused_setAttributes (a : Attributes) : Refused (setAttributes (δ := δ) a) :=
  refused_checkOpen.bind _

theorem refused_send (bytes : List UInt8) : Refused (send (δ := δ) bytes) :=
  refused_checkOpen.bind _

/-- A read asks only when the terminal is closed. -/
theorem refused_read (peek : Bool) : Refused (read (δ := δ) peek) := fun t ht => by
  have hclosed : t.closed = true := (Bool.and_eq_true_iff.mp ht).1
  unfold read
  rw [runOn_bind, runOn_get]
  dsimp only
  rw [if_pos hclosed]
  exact refused_checkOpen.bind _ ht

theorem refused_next : Refused (next (δ := δ)) := (refused_read false).bind _

/-- A report of the mouse begins with a byte. -/
theorem refused_mouseEvent : Refused (mouseEvent (δ := δ)) :=
  refused_get_bind fun _ => ((refused_next.bind _).bind _).bind _

/-- **A call of a writer is refused**, whatever it is to write. -/
theorem writeOnce_of_refuses (ht : t.refuses = true) (bytes : List UInt8) :
    t.writeOnce bytes = (.error .closed, t) := if_pos ht

end Operations

end Terminal

namespace Operation

open Terminal

/-- **What a closed terminal that is strict answers** to an operation, if it refuses it
whatever it is a terminal of. To write nothing is not to call a writer, and to read
nothing is not to read. -/
def refusal? : Operation → Option TerminalError
  | attributes | setAttributes _ | enterRawMode | echoes | setEcho _ | size | setSize _ | read _
  | processInput _ | mouseEvent | trackFocus _ | resume => some .closed
  | readUpTo n => if n = 0 then none else some .closed
  | write bytes => if bytes.isEmpty then none else some (.device .closed)
  | puts .. | cursor | trackMouse _ | handle .. | raise _ | setWinchHook _ | receive _ | pause =>
    none

variable {δ : Type} [Device δ] {t : Terminal δ} {o : Operation} {e : TerminalError}

/-- **What is refused is refused with nothing done.** -/
theorem runOn_of_refusal? (h : o.refusal? = some e) (ht : t.refuses = true) :
    o.run.runOn t = (.error e, t) := by
  cases o with
  | attributes =>
    obtain rfl := Option.some.inj h
    exact refused_attributes.bind _ ht
  | enterRawMode | echoes | setEcho _ =>
    obtain rfl := Option.some.inj h
    exact (refused_attributes.bind _).bind _ ht
  | setAttributes a =>
    obtain rfl := Option.some.inj h
    exact refused_setAttributes a ht
  | size | trackFocus _ =>
    obtain rfl := Option.some.inj h
    exact (refused_checkOpen.bind _).bind _ ht
  | setSize _ | resume =>
    obtain rfl := Option.some.inj h
    exact refused_checkOpen.bind _ ht
  | read peek =>
    obtain rfl := Option.some.inj h
    exact (refused_read peek).bind _ ht
  | readUpTo n =>
    cases n with
    | zero => cases h
    | succ n =>
      obtain rfl := Option.some.inj h
      exact ((refused_read false).bind _).bind _ ht
  | processInput bytes =>
    obtain rfl := Option.some.inj h
    exact (refused_deliver bytes).bind _ ht
  | write bytes =>
    cases bytes with
    | nil => cases h
    | cons b bytes =>
      obtain rfl := Option.some.inj h
      have hwrite : t.write (b :: bytes) = (.error .closed, t) := if_pos ht
      show ((t.write (b :: bytes)).1.mapError _, (t.write (b :: bytes)).2) = _
      rw [hwrite]
      rfl
  | mouseEvent =>
    obtain rfl := Option.some.inj h
    exact refused_mouseEvent.bind _ ht
  | puts _ _ | cursor | trackMouse _ | handle _ _ | raise _ | setWinchHook _ | receive _ | pause =>
    cases h

end Operation

end Teletype
