import Teletype.Proofs.Template.Token

/-!
# Templates as trees

The text of a template is flat, but what it means is structured: tokens, and
conditionals whose conditions and branches are templates again. `Tree` is that
structure. `Tree.text` writes it out as a flat text, and `Tree.eval` evaluates
it the way one would expect, by recursion on the tree: of a conditional it
evaluates conditions one after the other until one holds, then that branch, and
nothing else.

The run over the flat text knows none of this. When a condition fails it skips
to behind the next `%e` or the closing `%;`, and when a branch is done it skips
to behind the `%;`, counting the conditionals it passes on the way. The main
result, `expand?_text`, is that the two agree, on every tree and every list of
parameters, in what is written and in whether a number gets out of range.

## How the two are brought together

Everything is stated with an arbitrary text behind the tree. A skip passes over
the text of a tree as if it were not there (`Tree.skipBranch_text`), because the
text opens as many conditionals as it closes; what is left of a conditional
behind a branch, `Branches`, closes one more than it opens. So a skip that
starts behind a branch ends exactly where the structure says it should: behind
the whole conditional (`Branches.skipBranch_close`), or in front of the
alternatives (`Branches.skipBranch_entry`).
-/

namespace Teletype.Template

mutual

/-- **A template as a tree.** -/
inductive Tree where
  /-- The empty template. -/
  | done
  /-- A token and the rest. -/
  | token (t : Token) (next : Tree)
  /-- A conditional and the rest: `%?`, a condition, `%t`, a branch, and what
  there is if the condition fails. -/
  | conditional (condition branch : Tree) (more : Branches) (next : Tree)

/-- **What there is of a conditional behind a branch**: what is done if no
condition has held so far. -/
inductive Branches where
  /-- Nothing, `%;`. -/
  | done
  /-- A last branch, `%e` and `%;` around it. -/
  | otherwise (branch : Tree)
  /-- Another condition behind `%e`, with its branch behind `%t`. -/
  | test (condition branch : Tree) (more : Branches)

end

/-! ## The flat text -/

mutual

/-- **The flat text of a tree.** -/
def Tree.text : Tree → List UInt8
  | .done => []
  | .token t next => t.text ++ next.text
  | .conditional condition branch more next =>
    0x25 :: 0x3f :: (condition.text ++ 0x25 :: 0x74 :: (branch.text ++ (more.text ++ next.text)))

/-- The flat text of what follows a branch, up to the `%;` that closes the
conditional. -/
def Branches.text : Branches → List UInt8
  | .done => [0x25, 0x3b]
  | .otherwise branch => 0x25 :: 0x65 :: (branch.text ++ [0x25, 0x3b])
  | .test condition branch more =>
    0x25 :: 0x65 :: (condition.text ++ 0x25 :: 0x74 :: (branch.text ++ more.text))

end

/-- The flat text of what follows a branch as a failed condition enters it: behind
the first `%e`, or behind the `%;` when there is nothing else. -/
def Branches.entry : Branches → List UInt8
  | .done => []
  | .otherwise branch => branch.text ++ [0x25, 0x3b]
  | .test condition branch more =>
    condition.text ++ 0x25 :: 0x74 :: (branch.text ++ more.text)

/-! ## Evaluation -/

mutual

/-- **The value of a tree** in a state: the state it leaves, or nothing when a
number gets out of range in a part that is evaluated. -/
def Tree.eval : Tree → State → Option State
  | .done, st => some st
  | .token t next, st => do
    let st ← t.op.exec? st
    next.eval st
  | .conditional condition branch more next, st => do
    let st ← condition.eval st
    let st ← (if st.top.toInt = 0 then more.eval st.drop else branch.eval st.drop)
    next.eval st

/-- The value of what there is if no condition has held so far. -/
def Branches.eval : Branches → State → Option State
  | .done, st => some st
  | .otherwise branch, st => branch.eval st
  | .test condition branch more, st => do
    let st ← condition.eval st
    if st.top.toInt = 0 then more.eval st.drop else branch.eval st.drop

end

/-- **The expansion of a tree** with parameters: what its evaluation writes. -/
def Tree.expand? (t : Tree) (params : List Param) : Option (List UInt8) :=
  (t.eval (State.start params)).map State.out

/-! ## What the skip makes of a tree -/

/-- Where a skip goes on behind a `%;`: at the level below, or not at all when it
has been outside all conditionals. -/
def leave (toElse : Bool) : Nat → List UInt8 → List UInt8
  | 0, rest => rest
  | level + 1, rest => skipBranch toElse level rest

theorem skipBranch_if (toElse : Bool) (level : Nat) (rest : List UInt8) :
    skipBranch toElse level (0x25 :: 0x3f :: rest) = skipBranch toElse (level + 1) rest := by
  rw [skipBranch.eq_def]
  rfl

theorem skipBranch_fi (toElse : Bool) (level : Nat) (rest : List UInt8) :
    skipBranch toElse level (0x25 :: 0x3b :: rest) = leave toElse level rest := by
  rw [skipBranch.eq_def]
  cases level <;> rfl

/-- A `%e` ends the skip only outside all conditionals, and only if it may. -/
theorem skipBranch_else {toElse : Bool} {level : Nat} (h : toElse = false ∨ level ≠ 0)
    (rest : List UInt8) :
    skipBranch toElse level (0x25 :: 0x65 :: rest) = skipBranch toElse level rest := by
  have hstay : ((0x65 : UInt8) == 0x65 && level == 0 && toElse) = false := by
    rcases h with rfl | h
    · exact Bool.and_false _
    · rw [beq_eq_false_iff_ne.2 h]
      rfl
  rw [skipBranch.eq_def]
  simp only [hstay]
  rfl

mutual

/-- **A skip passes over a tree**, which opens as many conditionals as it closes. -/
theorem Tree.skipBranch_text (toElse : Bool) (level : Nat) (t : Tree) (rest : List UInt8) :
    skipBranch toElse level (t.text ++ rest) = skipBranch toElse level rest := by
  match t with
  | .done => rfl
  | .token t next =>
    rw [Tree.text, List.append_assoc, t.skipBranch_text, Tree.skipBranch_text]
  | .conditional condition branch more next =>
    rw [Tree.text]
    simp only [List.cons_append, List.append_assoc]
    rw [skipBranch_if, Tree.skipBranch_text,
      skipBranch_percent toElse (level + 1) (by decide), Tree.skipBranch_text,
      Branches.skipBranch_close (.inr (Nat.succ_ne_zero level))]
    exact Tree.skipBranch_text toElse level next rest

/-- **A skip passes over what follows a branch**, and is then at the level below,
unless it may end on the way. -/
theorem Branches.skipBranch_close {toElse : Bool} {level : Nat}
    (h : toElse = false ∨ level ≠ 0) (more : Branches) (rest : List UInt8) :
    skipBranch toElse level (more.text ++ rest) = leave toElse level rest := by
  match more with
  | .done => exact skipBranch_fi toElse level rest
  | .otherwise branch =>
    rw [Branches.text]
    simp only [List.cons_append, List.append_assoc, List.nil_append]
    rw [skipBranch_else h, Tree.skipBranch_text]
    exact skipBranch_fi toElse level rest
  | .test condition branch more =>
    rw [Branches.text]
    simp only [List.cons_append, List.append_assoc]
    rw [skipBranch_else h, Tree.skipBranch_text, skipBranch_percent toElse level (by decide),
      Tree.skipBranch_text]
    exact Branches.skipBranch_close h more rest

end

/-- **A skip behind a failed condition enters what follows the branch**, wherever
that is. -/
theorem Branches.skipBranch_entry (more : Branches) (rest : List UInt8) :
    skipBranch true 0 (more.text ++ rest) = more.entry ++ rest := by
  cases more with
  | done => exact skipBranch_fi true 0 rest
  | otherwise branch =>
    rw [Branches.text, List.cons_append, List.cons_append, skipBranch.eq_def]
    rfl
  | test condition branch more =>
    rw [Branches.text, List.cons_append, List.cons_append, skipBranch.eq_def]
    rfl

/-! ## What the run makes of a tree -/

/-- A run does what the piece in front says and goes on where that leads. -/
theorem run_of_piece {b : UInt8} {bytes rest : List UInt8} {op : Op}
    (h : piece b bytes = (op, rest)) (st : State) :
    run st (b :: bytes) = (op.exec? st).bind fun after => run after (op.next st rest) := by
  rw [run, h]
  cases op.exec? st <;> rfl

/-- A token never moves the run anywhere but behind itself. -/
theorem Token.next_op (t : Token) (st : State) (rest : List UInt8) :
    t.op.next st rest = rest := by
  cases t <;> rfl

/-- **A run does what a token says** and goes on behind it. -/
theorem Token.run_text (t : Token) (st : State) (rest : List UInt8) :
    run st (t.text ++ rest) = (t.op.exec? st).bind fun after => run after rest := by
  obtain ⟨b, bytes, heq, hpiece⟩ := t.piece_text
  rw [heq, List.cons_append, run_of_piece (hpiece rest)]
  simp only [t.next_op]

theorem run_if (st : State) (rest : List UInt8) : run st (0x25 :: 0x3f :: rest) = run st rest :=
  run_of_piece (show piece 0x25 (0x3f :: rest) = (.nothing, rest) from rfl) st

theorem run_fi (st : State) (rest : List UInt8) : run st (0x25 :: 0x3b :: rest) = run st rest :=
  run_of_piece (show piece 0x25 (0x3b :: rest) = (.nothing, rest) from rfl) st

theorem run_else (st : State) (rest : List UInt8) :
    run st (0x25 :: 0x65 :: rest) = run st (skipBranch false 0 rest) :=
  run_of_piece (show piece 0x25 (0x65 :: rest) = (.otherwise, rest) from rfl) st

theorem run_then (st : State) (rest : List UInt8) :
    run st (0x25 :: 0x74 :: rest)
      = run st.drop (if st.top.toInt = 0 then skipBranch true 0 rest else rest) :=
  run_of_piece (show piece 0x25 (0x74 :: rest) = (.branch, rest) from rfl) st

/-- **A run that arrives behind a branch** leaves the conditional. -/
theorem Branches.run_text (more : Branches) (st : State) (rest : List UInt8) :
    run st (more.text ++ rest) = run st rest := by
  cases more with
  | done => exact run_fi st rest
  | otherwise branch =>
    -- behind the `%e` the skip goes on as it would have from the `%e` on
    have hskip : skipBranch false 0 (branch.text ++ [0x25, 0x3b] ++ rest) = rest := by
      rw [← skipBranch_else (.inl rfl)]
      exact (Branches.otherwise branch).skipBranch_close (.inl rfl) rest
    rw [Branches.text, List.cons_append, List.cons_append, run_else, hskip]
  | test condition branch more =>
    have hskip : skipBranch false 0
        (condition.text ++ 0x25 :: 0x74 :: (branch.text ++ more.text) ++ rest) = rest := by
      rw [← skipBranch_else (.inl rfl)]
      exact (Branches.test condition branch more).skipBranch_close (.inl rfl) rest
    rw [Branches.text, List.cons_append, List.cons_append, run_else, hskip]

/-- **A run that arrives behind a condition** evaluates the branch or what there is
besides, whichever the condition says, given that it evaluates each of them. -/
theorem run_chosen {branch : Tree} {more : Branches}
    (hbranch : ∀ st rest, run st (branch.text ++ rest)
      = (branch.eval st).bind fun after => run after rest)
    (hmore : ∀ st rest, run st (more.entry ++ rest)
      = (more.eval st).bind fun after => run after rest)
    (st : State) (rest : List UInt8) :
    run st (0x25 :: 0x74 :: (branch.text ++ (more.text ++ rest)))
      = (if st.top.toInt = 0 then more.eval st.drop else branch.eval st.drop).bind
          fun after => run after rest := by
  rw [run_then]
  split
  · rw [Tree.skipBranch_text, Branches.skipBranch_entry, hmore]
  · rw [hbranch]
    simp only [Branches.run_text]

mutual

/-- **A run over the text of a tree evaluates the tree** and goes on behind it. -/
theorem Tree.run_text (t : Tree) (st : State) (rest : List UInt8) :
    run st (t.text ++ rest) = (t.eval st).bind fun after => run after rest := by
  match t with
  | .done => rfl
  | .token t next =>
    rw [Tree.text, List.append_assoc, t.run_text, Tree.eval, Option.bind_eq_bind,
      Option.bind_assoc]
    exact congrArg (Option.bind _) (funext fun after => Tree.run_text next after rest)
  | .conditional condition branch more next =>
    rw [Tree.text]
    simp only [List.cons_append, List.append_assoc]
    rw [run_if, Tree.run_text condition, Tree.eval, Option.bind_eq_bind, Option.bind_assoc]
    refine congrArg (Option.bind _) (funext fun after => ?_)
    rw [run_chosen (Tree.run_text branch) (Branches.run_entry more), Option.bind_assoc]
    exact congrArg (Option.bind _) (funext fun after => Tree.run_text next after rest)

/-- **A run that enters what follows a branch evaluates it** and goes on behind the
conditional. -/
theorem Branches.run_entry (more : Branches) (st : State) (rest : List UInt8) :
    run st (more.entry ++ rest) = (more.eval st).bind fun after => run after rest := by
  match more with
  | .done => rfl
  | .otherwise branch =>
    rw [Branches.entry, List.append_assoc, Tree.run_text branch, Branches.eval]
    exact congrArg (Option.bind _) (funext fun after => run_fi after rest)
  | .test condition branch more =>
    rw [Branches.entry]
    simp only [List.cons_append, List.append_assoc]
    rw [Tree.run_text condition, Branches.eval, Option.bind_eq_bind, Option.bind_assoc]
    refine congrArg (Option.bind _) (funext fun after => ?_)
    exact run_chosen (Tree.run_text branch) (Branches.run_entry more) after rest

end

/-- A percent sign between quotes, in the branch of a conditional. -/
example : Tree.text
    (.conditional (.token (.parameter 0) .done)
      (.token (.character 0x25) (.token .emitTop .done))
      (.otherwise (.token (.parameter 1) (.token .emitTop .done))) .done)
    = Text.bytesOf "%?%p1%t%'%'%c%e%p2%c%;" := rfl

end Teletype.Template
