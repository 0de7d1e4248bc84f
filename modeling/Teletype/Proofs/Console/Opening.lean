import Teletype.Proofs.Console.Changes

/-!
# What opening leaves behind

A console is opened in two parts. The first asks for the output mode, and then tries to
have escape sequences interpreted and output read as UTF-8; neither need succeed
(`Console.switched`). The second asks for the input mode and brings it in line with the
attributes, and both have to succeed (`Console.align`). Whoever opens remembers what the
modes were before all that (`ConsoleDevice.initial_of_prepare`).

A failure of the second part ends it there. The input mode is then what it was, but
nothing takes back what the first part did. So a console that could not be opened is as
it was exactly if the first part did not come about, or came to nothing
(`Terminal.modes_eq_iff_of_openConsole`).
-/

namespace Teletype

namespace Console

variable {β : Type} {f : UInt32 → Console → β} {e : TerminalError} {c left : Console}

/-- The console after a call that reads something. -/
def counted (c : Console) : Console := { c with count := c.count + 1 }

/-- The attempt to have escape sequences interpreted. -/
def escapeChange (c : Console) : ConsoleChange :=
  ⟨.setOutputMode, c.modes.output ||| escapeSequences⟩

/-- **The console after the first part** of opening it: escape sequences and UTF-8 have been
asked for. -/
def switched (c : Console) : Console :=
  let c' := c.counted.attempted c.escapeChange
  if c.modes.codePage != utf8 then c'.attempted ⟨.setCodePage, utf8⟩ else c'

/-- **The second part** of opening it: the input mode is read and brought in line. -/
def align (f : UInt32 → Console → β) : Action Console β := do
  let input ← inputMode
  setInputMode (modeFor (attributesFor input) .off input)
  pure (f input (← get))

/-- Where the second part fails, it changes nothing. -/
theorem modes_of_align_error (h : (align f).runOn c = (.error e, left)) : left.modes = c.modes := by
  simp only [align, Action.runOn_bind, runOn_inputMode, runOn_setInputMode_eq] at h
  cases hread : c.fails c.count .inputMode with
  | true =>
    simp only [hread, if_true, Prod.mk.injEq] at h
    rw [← h.2]
  | false =>
    simp only [hread, Bool.false_eq_true, if_false, answerTo] at h
    generalize hx : (⟨.setInputMode, _⟩ : ConsoleChange) = x at h
    cases hrefusal : refusal? { c with count := c.count + 1 } x with
    | none =>
      rw [hrefusal] at h
      cases congrArg Prod.fst h
    | some e' =>
      rw [hrefusal] at h
      rw [← (Prod.mk.inj h).2]
      exact modes_attempted_of_refused (Option.isSome_of_eq_some hrefusal)

/-! ## What the first part switches -/

/-- **Whether escape sequences are turned on**: the console takes them, and did not
before. -/
def TurnsOnEscapes (c : Console) : Prop :=
  c.fails (c.count + 1) .setOutputMode = false ∧ c.interprets = true
    ∧ c.modes.output ||| escapeSequences ≠ c.modes.output

/-- **Whether UTF-8 is turned on**: the console takes it, and did not have it before. -/
def TurnsOnUtf8 (c : Console) : Prop :=
  c.fails (c.count + 2) .setCodePage = false ∧ c.modes.codePage ≠ utf8

theorem input_switched (c : Console) : c.switched.modes.input = c.modes.input := by
  have hescape : (c.counted.attempted c.escapeChange).modes.input = c.modes.input :=
    input_attempted _ (by simp [escapeChange])
  unfold switched
  dsimp only
  split
  · exact (input_attempted _ (by simp)).trans hescape
  · exact hescape

/-- An output mode that holds escape sequences is refused by a console that does not
interpret them. -/
theorem refusal?_escapeChange (c : Console) :
    c.counted.refusal? c.escapeChange = none
      ↔ c.fails (c.count + 1) .setOutputMode = false ∧ c.interprets = true := by
  have hbit : (c.modes.output ||| escapeSequences) &&& escapeSequences = escapeSequences := by
    apply UInt32.eq_of_toBitVec_eq
    ext i hi
    simp only [UInt32.toBitVec_and, UInt32.toBitVec_or, BitVec.getElem_and, BitVec.getElem_or]
    grind
  have hasked : (escapeSequences != 0) = true := by decide
  simp only [refusal?, counted, escapeChange, hbit, hasked, decide_true, Bool.true_and]
  cases c.fails (c.count + 1) .setOutputMode <;> cases c.interprets <;> simp

/-- **The output mode is switched exactly if escape sequences are turned on.** -/
theorem output_switched (c : Console) :
    c.switched.modes.output = c.modes.output ↔ ¬ c.TurnsOnEscapes := by
  have hpage : c.switched.modes.output
      = (c.counted.attempted c.escapeChange).modes.output := by
    unfold switched
    dsimp only
    split
    · exact output_attempted _ (by simp)
    · rfl
  rw [hpage, TurnsOnEscapes, ← and_assoc, ← refusal?_escapeChange]
  cases hrefusal : c.counted.refusal? c.escapeChange with
  | none =>
    rw [modes_attempted_of_ok (answerTo_eq_ok_iff.mpr hrefusal)]
    show c.modes.output ||| escapeSequences = c.modes.output ↔ _
    simp
  | some e =>
    rw [modes_attempted_of_refused (Option.isSome_of_eq_some hrefusal)]
    simp [counted]

/-- The code page is asked for in the third call. -/
theorem refusal?_utf8 (c : Console) :
    (c.counted.attempted c.escapeChange).refusal? ⟨.setCodePage, utf8⟩ = none
      ↔ c.fails (c.count + 2) .setCodePage = false := by
  simp only [refusal?, attempted, counted, reduceCtorEq, decide_false, Bool.false_and,
    Bool.false_eq_true, if_false]
  cases c.fails (c.count + 2) .setCodePage <;> simp

/-- **The code page is switched exactly if UTF-8 is turned on.** -/
theorem codePage_switched (c : Console) :
    c.switched.modes.codePage = c.modes.codePage ↔ ¬ c.TurnsOnUtf8 := by
  have hescape : (c.counted.attempted c.escapeChange).modes.codePage = c.modes.codePage :=
    codePage_attempted _ (by simp [escapeChange])
  unfold switched TurnsOnUtf8
  rw [← refusal?_utf8]
  dsimp only
  split
  · next hother =>
    have hother : utf8 ≠ c.modes.codePage := fun h => by simp [← h] at hother
    cases hrefusal : (c.counted.attempted c.escapeChange).refusal? ⟨.setCodePage, utf8⟩ with
    | none =>
      rw [modes_attempted_of_ok (answerTo_eq_ok_iff.mpr hrefusal)]
      show utf8 = c.modes.codePage ↔ _
      simp [hother, hother.symm]
    | some e =>
      rw [modes_attempted_of_refused (Option.isSome_of_eq_some hrefusal), hescape]
      simp
  · next hsame =>
    have hsame : c.modes.codePage = utf8 := by simpa using hsame
    rw [hescape]
    simp [hsame]

/-- **When nothing is switched.** -/
theorem switched_modes_eq_iff (c : Console) :
    c.switched.modes = c.modes ↔ ¬ c.TurnsOnEscapes ∧ ¬ c.TurnsOnUtf8 := by
  rw [← output_switched, ← codePage_switched, ConsoleModes.ext_iff]
  exact and_iff_right c.input_switched

end Console

namespace ConsoleDevice

open Console

variable {describe : String → Description} {sink : Sink} {console left : Console}
  {type : String} {d : ConsoleDevice} {e : TerminalError}

/-- **The device put together** from what was read and the console there is in the end. -/
def assembled (describe : String → Description) (sink : Sink) (console : Console)
    (input : UInt32) (last : Console) : String × ConsoleDevice :=
  let type := typeOf (console.counted.answerTo console.escapeChange).toOption.isSome
  (type,
    { console := last
      initial := { console.modes with input }
      description := describe type
      attributes := attributesFor input
      discipline := { echo := some sink } })

/-- **Preparing a console is the one part after the other**, if its output mode can be
read. -/
theorem runOn_prepare (h : console.fails console.count .outputMode = false) :
    (prepare describe sink).runOn console
      = (align (assembled describe sink console)).runOn console.switched := by
  have hpage : (console.counted.attempted console.escapeChange).modes.codePage
      = console.modes.codePage := codePage_attempted _ (by simp [escapeChange])
  have hcounted : { console with count := console.count + 1 } = console.counted := rfl
  have hescape : (⟨.setOutputMode, console.modes.output ||| escapeSequences⟩ : ConsoleChange)
      = console.escapeChange := rfl
  simp only [prepare, Action.runOn_bind, runOn_outputMode, h, Bool.false_eq_true, if_false,
    Action.runOn_attempt, runOn_setOutputMode, Action.runOn_get, hcounted, hescape, hpage]
  unfold switched
  dsimp only
  split
  · rw [Action.runOn_bind, Action.runOn_attempt, runOn_setCodePage]
    rfl
  · rfl

/-- If its output mode cannot be read, it is left alone. -/
theorem runOn_prepare_of_refused (h : console.fails console.count .outputMode = true) :
    (prepare describe sink).runOn console
      = (.error (.device (.consoleFailed ConsoleOperation.outputMode.name)), console.counted) := by
  simp only [prepare, Action.runOn_bind, runOn_outputMode, h, if_true]
  rfl

/-- **What was at first is remembered**, and no pump is at work. -/
theorem initial_of_prepare (h : (prepare describe sink).runOn console = (.ok (type, d), left)) :
    d.initial = console.modes ∧ d.pump = {} := by
  cases hread : console.fails console.count .outputMode with
  | true =>
    rw [runOn_prepare_of_refused hread] at h
    exact absurd (congrArg Prod.fst h) nofun
  | false =>
    rw [runOn_prepare hread] at h
    obtain ⟨hd, -⟩ := runOn_align h
    cases hd
    exact ⟨ConsoleModes.ext console.input_switched rfl rfl, rfl⟩

/-- **What a failure leaves behind**: all that had been switched by then. -/
theorem modes_of_prepare_error (h : (prepare describe sink).runOn console = (.error e, left)) :
    left.modes = if console.fails console.count .outputMode then console.modes
      else console.switched.modes := by
  cases hread : console.fails console.count .outputMode with
  | true =>
    rw [runOn_prepare_of_refused hread] at h
    rw [← (Prod.mk.inj h).2, if_pos rfl]
    rfl
  | false =>
    rw [runOn_prepare hread] at h
    rw [modes_of_align_error h, if_neg Bool.false_ne_true]

end ConsoleDevice

namespace Terminal

variable {programs : Programs} {config : Config} {registry : Registry Unit} {name : String}
  {sink : Sink} {console left : Console} {e : TerminalError}

/-- **What a failed open leaves behind.** The input mode is what it was. The modes are what
they were exactly if the output mode could not even be read, or neither escape sequences nor
UTF-8 were turned on. -/
theorem modes_eq_iff_of_openConsole
    (h : (openConsole programs config registry name sink).runOn console = (.error e, left)) :
    left.modes.input = console.modes.input
      ∧ (left.modes = console.modes ↔ console.fails console.count .outputMode = true
          ∨ ¬ console.TurnsOnEscapes ∧ ¬ console.TurnsOnUtf8) := by
  have hprepare : ∃ describe,
      (ConsoleDevice.prepare describe sink).runOn console = (.error e, left) := by
    rw [openConsole, Action.runOn_bind] at h
    split at h
    · exact absurd (congrArg Prod.fst h) nofun
    · next e' left' hfailed =>
      cases h
      exact ⟨_, hfailed⟩
  obtain ⟨describe, hprepare⟩ := hprepare
  rw [ConsoleDevice.modes_of_prepare_error hprepare]
  cases console.fails console.count .outputMode with
  | true => simp
  | false => simp [console.input_switched, console.switched_modes_eq_iff]

/-- A console whose input mode cannot be read. -/
def unreadable : Console :=
  { modes := ⟨0xe7, 3, 437⟩
    size := ⟨120, 30⟩
    cursor := ⟨7, 3⟩
    fails := fun _ operation => operation == .inputMode }

/-- A console that takes no change at all is left as it was. -/
theorem modes_eq_iff_of_openConsole_untouched :
    let console := { unreadable with fails := fun _ operation => operation != .outputMode }
    ∃ e left,
      (openConsole .none { type := "ansi" } {} "console" .endless).runOn console = (.error e, left)
        ∧ (left.modes = console.modes ↔ console.fails console.count .outputMode = true
          ∨ ¬ console.TurnsOnEscapes ∧ ¬ console.TurnsOnUtf8)
        ∧ left.modes = console.modes := by
  intro console
  have hopen : ∃ e left, (openConsole .none { type := "ansi" } {} "console" .endless).runOn console
      = (.error e, left) := ⟨_, _, rfl⟩
  obtain ⟨e, left, hopen⟩ := hopen
  have hiff := (modes_eq_iff_of_openConsole hopen).2
  have hescapes : ¬ console.TurnsOnEscapes := fun h => absurd h.1 (by decide)
  have hutf8 : ¬ console.TurnsOnUtf8 := fun h => absurd h.1 (by decide)
  exact ⟨e, left, hopen, hiff, hiff.mpr (.inr ⟨hescapes, hutf8⟩)⟩

/-- **A failed open that leaves traces.** The input mode cannot be read; escape sequences are
interpreted and output is read as UTF-8 from then on, though nothing refused to be put
back. -/
theorem openConsole_unreadable : ∃ e left,
    (openConsole .none { type := "ansi" } {} "console" .endless).runOn unreadable = (.error e, left)
      ∧ left.modes = ⟨0xe7, 7, 65001⟩ ∧ left.modes ≠ unreadable.modes :=
  ⟨_, _, rfl, rfl, by decide⟩

end Terminal

end Teletype
