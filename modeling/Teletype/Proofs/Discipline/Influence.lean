import Teletype.Proofs.Discipline.Run

/-!
# What input depends on

The discipline echoes while it edits, and what it echoes depends on many flags. What it
hands to the reader, which signals it records and what it remembers depends on few: on the
flags of the input word, on the control characters, and on whether input comes in lines,
with signals and with quoting. Attributes that agree on these are alike to whoever types
(`Attributes.AlikeToInput`).

Each part of a step depends on the attributes through these only, so a step under two sets of
attributes that are alike differs in its echo and in nothing else (`unechoed_step`). The same
holds of a run (`run_eq_of_alike`), and as long as echo does not fail, of what is seen of the
discipline after a chunk (`view_process_eq_of_alike`).
-/

namespace Teletype

namespace Attributes

/-- **Attributes that are alike to input**: they may differ in how output is processed, how
the line is driven, and what is echoed. -/
structure AlikeToInput (a b : Attributes) : Prop where
  /-- The flags of the input word, -/
  input : ∀ f ∈ Flag.inputs, a.flag f = b.flag f
  /-- the control characters, -/
  char : a.char = b.char
  /-- lines, -/
  icanon : a.flag .icanon = b.flag .icanon
  /-- signals -/
  isig : a.flag .isig = b.flag .isig
  /-- and quoting are the same. -/
  iexten : a.flag .iexten = b.flag .iexten

theorem AlikeToInput.isChar {a b : Attributes} (h : a.AlikeToInput b) : a.isChar = b.isChar := by
  funext c byte
  rw [Attributes.isChar, h.char]
  rfl

end Attributes

namespace Discipline

/-- A step but for its echo. -/
def unechoed (r : State × Effect) : State × Effect := (r.1, { r.2 with echo := [] })

section

variable {a b : Attributes}

/-! ## Parts of a step -/

theorem strip_eq (h : a.AlikeToInput b) : strip a = strip b := by
  funext byte
  rw [strip, strip, h.input .istrip (by decide)]

theorem signalOf?_eq (h : a.AlikeToInput b) : signalOf? a = signalOf? b := by
  funext byte
  rw [signalOf?, signalOf?, h.isig, h.isChar]

theorem returnsEndLines_eq (h : a.AlikeToInput b) : returnsEndLines a = returnsEndLines b := by
  rw [returnsEndLines, returnsEndLines, h.input .inormeol (by decide),
    h.input .icrnl (by decide), h.input .igncr (by decide)]

theorem lineEnd_eq_of_alike (h : a.AlikeToInput b) : lineEnd a = lineEnd b := by
  funext skipsLf byte
  rw [lineEnd, lineEnd, returnsEndLines_eq h, h.input .igncr (by decide),
    h.input .inlcr (by decide)]

theorem endsLine_eq (h : a.AlikeToInput b) : endsLine a = endsLine b := by
  funext byte
  rw [endsLine, endsLine, h.isChar]

theorem unechoed_accept (h : a.AlikeToInput b) (s : State) (byte : UInt8) :
    unechoed (accept a s byte) = unechoed (accept b s byte) := by
  rw [accept, accept, h.icanon]
  split <;> rfl

/-- **Editing** is the same, whatever is wiped off the screen. -/
theorem unechoed_edit (h : a.AlikeToInput b) (s : State) (byte : UInt8) :
    unechoed (edit a s byte) = unechoed (edit b s byte) := by
  rw [edit, edit, h.isChar, h.iexten, endsLine_eq h]
  repeat' split
  all_goals rfl

theorem unechoed_ordinary (h : a.AlikeToInput b) (s : State) (byte : UInt8) :
    unechoed (ordinary a s byte) = unechoed (ordinary b s byte) := by
  rw [ordinary, ordinary, lineEnd_eq_of_alike h, h.icanon]
  split
  · rfl
  · split
    · exact unechoed_edit h _ _
    · exact unechoed_accept h _ _

/-- **A step under attributes that are alike** differs in its echo only. -/
theorem unechoed_step (h : a.AlikeToInput b) (s : State) (byte : UInt8) :
    unechoed (step a s byte) = unechoed (step b s byte) := by
  rw [step, step, strip_eq h, signalOf?_eq h]
  split
  · exact unechoed_accept h _ _
  · split
    · rfl
    · exact unechoed_ordinary h _ _

/-! ## Runs -/

/-- **So does a run.** -/
theorem run_eq_of_alike (h : a.AlikeToInput b) (bytes : List UInt8) (s : State) :
    (run a s bytes).1 = (run b s bytes).1
      ∧ (run a s bytes).2.input = (run b s bytes).2.input
      ∧ (run a s bytes).2.signals = (run b s bytes).2.signals := by
  induction bytes generalizing s with
  | nil => exact ⟨rfl, rfl, rfl⟩
  | cons byte rest ih =>
    have hstep := unechoed_step h s byte
    have hstate : (step a s byte).1 = (step b s byte).1 := (congrArg Prod.fst hstep :)
    have hinput : (step a s byte).2.input = (step b s byte).2.input :=
      (congrArg (·.2.input) hstep :)
    have hsignal : (step a s byte).2.signal = (step b s byte).2.signal :=
      (congrArg (·.2.signal) hstep :)
    obtain ⟨hstate', hinput', hsignals'⟩ := ih (step b s byte).1
    rw [run_cons, run_cons, hstate]
    refine ⟨hstate', ?_, ?_⟩
    · exact congrArg₂ (· ++ ·) hinput hinput'
    · exact congrArg₂ (· ++ ·) (congrArg Option.toList hsignal) hsignals'

/-- What is seen afterwards does not depend on what was echoed. -/
theorem View.after_congr (v : View) (s : State) {o p : Outcome} (hinput : o.input = p.input)
    (hsignals : o.signals = p.signals) : v.after s o = v.after s p := by
  rw [View.after, View.after, hinput, hsignals]

/-- **Echo has no influence on input.** Under attributes that are alike to input, and with echo
that does not fail or none, in either case, a chunk puts the same bytes into the queue,
records the same signals and leaves the same behind. -/
theorem view_process_eq_of_alike (h : a.AlikeToInput b) {d e : Discipline}
    (hview : d.view = e.view) (hd : d.NeverRefuses) (he : e.NeverRefuses) (bytes : List UInt8) :
    (process a d bytes).1.view = (process b e bytes).1.view := by
  have hstate : d.state = e.state := congrArg View.state hview
  obtain ⟨hrun, hinput, hsignals⟩ := run_eq_of_alike h bytes d.state
  calc (process a d bytes).1.view
      = d.view.after (run a d.state bytes).1 (run a d.state bytes).2 :=
        view_processFrom a bytes d {} (hd.takes _)
    _ = d.view.after (run b d.state bytes).1 (run b d.state bytes).2 := by
        rw [hrun, View.after_congr _ _ hinput hsignals]
    _ = e.view.after (run b e.state bytes).1 (run b e.state bytes).2 := by rw [hview, hstate]
    _ = (process b e bytes).1.view := (view_processFrom b bytes e {} (he.takes _)).symm

/-- Everything that is echoed switched on for one terminal and off for the other, which has
nowhere to echo either: an interrupt, a word erased, a line, and a quote that is left. -/
theorem view_process_eq_of_alike_silent :
    let a := Attributes.usual
    let b := Attributes.usual.setFlags [.echo, .echoe, .echoke, .echoctl, .opost, .cread] false
    let d : Discipline := { state := { line := [0x61] }, echo := some Sink.endless }
    let e : Discipline := { state := { line := [0x61] } }
    let bytes := [0x20, 0x62, 0x03, 0x17, 0x63, 0x0d, 0x0a, 0x16]
    a.AlikeToInput b ∧ d.view = e.view ∧ d.NeverRefuses ∧ e.NeverRefuses
      ∧ (process a d bytes).1.view = (process b e bytes).1.view
      ∧ (process b e bytes).1.view.stream = [some 0x61, some 0x20, some 0x63, some 0x0a]
      ∧ (process b e bytes).1.view.pending = [.int]
      ∧ (process b e bytes).1.view.state = { quotes := true, skipsLf := false } := by
  intro a b d e bytes
  have h : a.AlikeToInput b := ⟨by decide, rfl, rfl, rfl, rfl⟩
  have hd : d.NeverRefuses := by
    rintro s ⟨⟩ n total
    rfl
  have he : e.NeverRefuses := fun s hs => nomatch hs
  have hview := view_process_eq_of_alike h (d := d) (e := e) rfl hd he bytes
  exact ⟨h, rfl, hd, he, hview, by decide, by decide, by decide⟩

end

end Discipline

end Teletype
