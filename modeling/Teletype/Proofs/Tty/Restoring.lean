import Teletype.Device.System
import Teletype.Proofs.Termios.RoundTrip

/-!
# A pseudoterminal put back

A pseudoterminal does not keep attributes quite as they are written, but what it changes
belongs to flags and to the character size (`akin_wireless`). So it is put back like any
other line of the kernel: exactly when it had been as a pseudoterminal keeps things, and both
delays were whole (`restored_eq_iff`). A new pseudoterminal is (`restored_fresh`).

That is what the terminal of the process does when it is closed: it puts back the line it
found when it was opened (`SystemDevice.runOn_restore`).
-/

namespace Teletype

namespace TtySettings

open Termios

variable {s : TtySettings}

/-- The settings after some writes. -/
def written (s : TtySettings) (as : List Attributes) : TtySettings := as.foldl setAttributes s

/-- **The settings put back**: the attributes shown at first are written again. -/
def restored (s : TtySettings) (as : List Attributes) : TtySettings :=
  (s.written as).setAttributes s.attributes

/-! ## What a pseudoterminal changes -/

theorem bit_wireless (t : Termios) (i : Nat) :
    bit (t.wireless.word .control) i
      = ((bit (t.word .control) i && !(bit sizeField i || bit hasParity i)) || bit sizeField i
          || bit receives i) := by
  show bit ((t.word .control &&& ~~~(sizeField ||| hasParity)) ||| sizeField ||| receives) i = _
  rw [bit_or, bit_or, bit_and_not, bit_or]

/-- **A pseudoterminal changes nothing that is foreign to attributes.** -/
theorem akin_wireless (t : Termios) : Akin t t.wireless where
  bit w i hi := by
    cases w with
    | input | output | discipline => rfl
    | control =>
      have hparity : bit hasParity i = false := eq_false_of_ne_true fun h =>
        hi.1 .parenb rfl ⟨hasParity, rfl, h⟩
      have hreceives : bit receives i = false := eq_false_of_ne_true fun h =>
        hi.1 .cread rfl ⟨receives, rfl, h⟩
      rw [bit_wireless, hi.2 rfl, hparity, hreceives]
      simp
  char _ _ := rfl

/-- What it has made of attributes it leaves alone. -/
theorem wireless_wireless (t : Termios) : t.wireless.wireless = t.wireless := by
  refine Termios.ext (funext fun w => ?_) rfl
  cases w with
  | input | output | discipline => rfl
  | control =>
    refine eq_of_bit fun i => ?_
    rw [bit_wireless, bit_wireless]
    cases bit sizeField i <;> cases bit receives i <;> cases bit hasParity i <;> simp

/-! ## Put back -/

theorem akin_written (s : TtySettings) (as : List Attributes) :
    Akin s.termios (s.written as).termios :=
  Akin.foldl (fun u a => (akin_apply a u.termios).trans (akin_wireless _)) as s

/-- **When a pseudoterminal is put back exactly.** -/
theorem restored_eq_iff (s : TtySettings) (as : List Attributes) :
    (s.restored as).termios = s.termios
      ↔ s.termios.wireless = s.termios ∧ s.termios.Whole .crdly ∧ s.termios.Whole .tabdly := by
  show (apply s.termios.attributes (s.written as).termios).wireless = s.termios ↔ _
  constructor
  · intro hback
    have hwireless : s.termios.wireless = s.termios := by rw [← hback, wireless_wireless]
    -- the delays are in a word that a pseudoterminal leaves alone
    have hwhole : ∀ f, wordOf f = .output → s.termios.Whole f := fun f hf =>
      whole_iff.2 fun i hi => by
        rw [← bit_apply s.termios.attributes (s.written as).termios hi, hf]
        exact (congrArg (fun u : Termios => bit (u.word .output) i) hback).symm
    exact ⟨hwireless, hwhole _ rfl, hwhole _ rfl⟩
  · rintro ⟨hwireless, hwhole⟩
    rw [(apply_attributes_eq_iff (akin_written s as)).2 hwhole, hwireless]

/-- **A new pseudoterminal is put back**, whatever is written to it. -/
theorem restored_fresh (as : List Attributes) : (fresh.restored as).termios = fresh.termios := by
  refine (restored_eq_iff fresh as).2 ⟨?_, by decide, by decide⟩
  refine Termios.ext (funext fun w => ?_) rfl
  cases w <;> rfl

end TtySettings

/-! ## The terminal of the process -/

namespace SystemDevice

variable {d : SystemDevice} {tty : Tty}

theorem runOn_setAttributes (htool : d.tool = none) (hline : d.input = .line tty)
    (hthere : tty.hungUp = false) (a : Attributes) :
    (setAttributes a).runOn d = (.ok (), { d with input := .line (tty.setAttributes a) }) := by
  simp [setAttributes, Action.runOn_bind, htool, onLine, hline, hthere]

/-- **The terminal of the process puts back its line.** Whatever attributes were set, putting
back succeeds as long as the far end is there, and the settings are those put back. -/
theorem runOn_restore (htool : d.tool = none) (hline : d.input = .line tty)
    (hthere : tty.hungUp = false) (hinitial : d.initial = some tty.settings.attributes)
    (as : List Attributes) :
    ∃ left : Tty, left.settings = tty.settings.restored as
      ∧ restore.runOn (as.foldl (fun d a => ((setAttributes a).runOn d).2) d)
        = (.ok (), { d with input := .line left }) := by
  have hsettings : ∀ (t : Tty) (a : Attributes),
      (t.setAttributes a).settings = t.settings.setAttributes a
        ∧ (t.setAttributes a).hungUp = t.hungUp := by
    intro t a
    unfold Tty.setAttributes
    dsimp only
    split <;> exact ⟨rfl, rfl⟩
  -- only the line changes, and its far end stays there
  have hfold : ∀ t : Tty, t.hungUp = false → ∃ u : Tty,
      u.hungUp = false ∧ u.settings = t.settings.written as
        ∧ as.foldl (fun d a => ((setAttributes a).runOn d).2) { d with input := .line t }
          = { d with input := .line u } := by
    induction as with
    | nil => exact fun t ht => ⟨t, ht, rfl, rfl⟩
    | cons a as ih =>
      intro t ht
      obtain ⟨hset, hfar⟩ := hsettings t a
      obtain ⟨u, hu, hwritten, hfolded⟩ := ih (t.setAttributes a) (hfar.trans ht)
      refine ⟨u, hu, by rw [hwritten, hset]; rfl, ?_⟩
      have hstep := runOn_setAttributes (d := { d with input := .line t }) htool rfl ht a
      rw [List.foldl_cons, hstep]
      exact hfolded
  obtain ⟨u, hu, hwritten, hfolded⟩ := hfold tty hthere
  refine ⟨u.setAttributes tty.settings.attributes, ?_, ?_⟩
  · rw [(hsettings u _).1, hwritten]
    rfl
  · rw [← hline] at hfolded
    have hrestore : restore.runOn { d with input := .line u }
        = (setAttributes tty.settings.attributes).runOn { d with input := .line u } := by
      simp [restore, Action.runOn_bind, hinitial]
    rw [hfolded, hrestore]
    exact runOn_setAttributes (d := { d with input := .line u }) htool rfl hu _

end SystemDevice

end Teletype
