import Teletype.Proofs.Console.InputMode

/-!
# Changes of a console

Three things can be changed on a console, and each change goes the same way: it is
remembered, it is refused or not, and if it is not the value is in force. So there is
one description of an attempt (`Console.attempted`), and each of the three operations is
an instance of it.

Putting everything back is three attempts, whatever becomes of them, and then a report
on the first that failed (`Console.runOn_restore`). Each of the three that succeeds has put
back what it was to put back (`Console.putBack_spec`), since none of them touches what
another one is about.
-/

namespace Teletype

/-- The modes once a change is in force. -/
def ConsoleModes.changed (m : ConsoleModes) (x : ConsoleChange) : ConsoleModes :=
  match x.operation with
  | .setInputMode => { m with input := x.value }
  | .setOutputMode => { m with output := x.value }
  | .setCodePage => { m with codePage := x.value }
  | _ => m

namespace Console

variable {c : Console} {x : ConsoleChange}

/-- Why a change is refused, if it is. -/
def refusal? (c : Console) (x : ConsoleChange) : Option TerminalError :=
  if c.fails c.count x.operation then some (.device (.consoleFailed x.operation.name))
  else if x.operation = .setOutputMode && x.value &&& escapeSequences != 0 && !c.interprets then
    some (.device .noVirtualTerminal)
  else none

/-- What a console answers to an attempt. -/
def answerTo (c : Console) (x : ConsoleChange) : Except TerminalError Unit :=
  match c.refusal? x with
  | some e => .error e
  | none => .ok ()

/-- **A console after an attempt** to change something. -/
def attempted (c : Console) (x : ConsoleChange) : Console :=
  { c with
    changes := c.changes ++ [x]
    count := c.count + 1
    modes := if (c.refusal? x).isSome then c.modes else c.modes.changed x }

theorem answerTo_eq_ok_iff : c.answerTo x = .ok () ↔ c.refusal? x = none := by
  unfold answerTo
  cases c.refusal? x with
  | none => simp only
  | some e => simp only [reduceCtorEq]

/-- **What is granted is in force.** -/
theorem modes_attempted_of_ok (h : c.answerTo x = .ok ()) :
    (c.attempted x).modes = c.modes.changed x := by
  rw [attempted, answerTo_eq_ok_iff.mp h]
  rfl

/-- What is refused changes nothing. -/
theorem modes_attempted_of_refused (h : (c.refusal? x).isSome = true) :
    (c.attempted x).modes = c.modes := if_pos h

/-- An attempt touches the input mode only if that is what it is about. -/
theorem input_attempted (c : Console) (h : x.operation ≠ .setInputMode) :
    (c.attempted x).modes.input = c.modes.input := by
  unfold attempted ConsoleModes.changed
  dsimp only
  split
  · rfl
  · split <;> first | rfl | contradiction

/-- Likewise the output mode. -/
theorem output_attempted (c : Console) (h : x.operation ≠ .setOutputMode) :
    (c.attempted x).modes.output = c.modes.output := by
  unfold attempted ConsoleModes.changed
  dsimp only
  split
  · rfl
  · split <;> first | rfl | contradiction

/-- Likewise the code page. -/
theorem codePage_attempted (c : Console) (h : x.operation ≠ .setCodePage) :
    (c.attempted x).modes.codePage = c.modes.codePage := by
  unfold attempted ConsoleModes.changed
  dsimp only
  split
  · rfl
  · split <;> first | rfl | contradiction

theorem runOn_change (c : Console) (operation : ConsoleOperation) (value : UInt32) :
    (change operation value).runOn c
      = (if c.fails c.count operation then .error (.device (.consoleFailed operation.name))
          else .ok (),
        { c with changes := c.changes ++ [⟨operation, value⟩], count := c.count + 1 }) := by
  simp only [change, Action.runOn_bind, Action.runOn_modify, runOn_call]

/-- **Changing the input mode is an attempt.** -/
theorem runOn_setInputMode_eq (c : Console) (mode : UInt32) :
    (setInputMode mode).runOn c
      = (c.answerTo ⟨.setInputMode, mode⟩, c.attempted ⟨.setInputMode, mode⟩) := by
  simp only [setInputMode, Action.runOn_bind, runOn_change, answerTo, attempted, refusal?]
  cases c.fails c.count .setInputMode <;> rfl

/-- **Changing the output mode is an attempt.** -/
theorem runOn_setOutputMode (c : Console) (mode : UInt32) :
    (setOutputMode mode).runOn c
      = (c.answerTo ⟨.setOutputMode, mode⟩, c.attempted ⟨.setOutputMode, mode⟩) := by
  simp only [setOutputMode, Action.runOn_bind, runOn_change, answerTo, attempted, refusal?,
    decide_true, Bool.true_and]
  cases c.fails c.count .setOutputMode with
  | true => rfl
  | false =>
    simp only [Bool.false_eq_true, if_false, Action.runOn_get]
    by_cases h : (mode &&& escapeSequences != 0 && !c.interprets) = true
    · simp only [if_pos h]
      rfl
    · simp only [if_neg h]
      rfl

/-- **Changing the code page is an attempt.** -/
theorem runOn_setCodePage (c : Console) (page : UInt32) :
    (setCodePage page).runOn c
      = (c.answerTo ⟨.setCodePage, page⟩, c.attempted ⟨.setCodePage, page⟩) := by
  simp only [setCodePage, Action.runOn_bind, runOn_change, answerTo, attempted, refusal?]
  cases c.fails c.count .setCodePage <;> rfl

/-! ## Putting everything back -/

/-- **What became of each attempt** to put something back. -/
structure PutBack where
  /-- Of the input mode. -/
  input : Except TerminalError Unit
  /-- Of the output mode. -/
  output : Except TerminalError Unit
  /-- Of the code page. -/
  codePage : Except TerminalError Unit

/-- The first failure of the three, if there is one. -/
def PutBack.result (p : PutBack) : Except TerminalError Unit := do
  p.input
  p.output
  p.codePage

/-- **Everything put back**, as far as possible. The code page is only changed if it is
another one. -/
def putBack (c : Console) (initial : ConsoleModes) : PutBack × Console :=
  let (input, c) := (setInputMode initial.input).runOn c
  let (output, c) := (setOutputMode initial.output).runOn c
  let (codePage, c) :=
    if c.modes.codePage != initial.codePage then (setCodePage initial.codePage).runOn c
    else (.ok (), c)
  ({ input, output, codePage }, c)

/-- **Restoring is putting everything back**, and then a report on the first failure. -/
theorem runOn_restore (c : Console) (initial : ConsoleModes) :
    (restore initial).runOn c = ((c.putBack initial).1.result, (c.putBack initial).2) := by
  simp only [restore, putBack, Action.runOn_bind, Action.runOn_attempt, Action.runOn_get]
  generalize (setInputMode initial.input).runOn c = first
  obtain ⟨input, c⟩ := first
  generalize (setOutputMode initial.output).runOn c = second
  obtain ⟨output, c⟩ := second
  dsimp only
  split
  all_goals
    simp only [Action.runOn_bind, Action.runOn_attempt, Action.runOn_pure, PutBack.result]
    cases input <;> cases output <;> rfl

/-- The console once the two modes have been attempted, and the code page has not. -/
def modesAttempted (c : Console) (initial : ConsoleModes) : Console :=
  (c.attempted ⟨.setInputMode, initial.input⟩).attempted ⟨.setOutputMode, initial.output⟩

/-- **What each attempt to put something back comes to**: if it succeeded, that is what
there was at first, whatever became of the other two. -/
theorem putBack_spec (c : Console) (initial : ConsoleModes) :
    ((c.putBack initial).1.input = .ok () → (c.putBack initial).2.modes.input = initial.input)
    ∧ ((c.putBack initial).1.output = .ok () →
        (c.putBack initial).2.modes.output = initial.output)
    ∧ ((c.putBack initial).1.codePage = .ok () →
        (c.putBack initial).2.modes.codePage = initial.codePage) := by
  have hinput : c.answerTo ⟨.setInputMode, initial.input⟩ = .ok () →
      (c.modesAttempted initial).modes.input = initial.input := fun h => by
    rw [modesAttempted, input_attempted _ (by simp), modes_attempted_of_ok h]
    rfl
  have houtput : (c.attempted ⟨.setInputMode, initial.input⟩).answerTo
      ⟨.setOutputMode, initial.output⟩ = .ok () →
      (c.modesAttempted initial).modes.output = initial.output := fun h => by
    rw [modesAttempted, modes_attempted_of_ok h]
    rfl
  simp only [putBack, runOn_setInputMode_eq, runOn_setOutputMode, runOn_setCodePage]
  show (_ → _) ∧ (_ → _) ∧ (_ → _)
  split
  · refine ⟨fun h => ?_, fun h => ?_, fun h => ?_⟩
    · exact (input_attempted _ (by simp)).trans (hinput h)
    · exact (output_attempted _ (by simp)).trans (houtput h)
    · have hgranted := modes_attempted_of_ok h
      exact (congrArg ConsoleModes.codePage hgranted :)
  · next hsame => exact ⟨hinput, houtput, fun _ => by simpa using hsame⟩

end Console

end Teletype
