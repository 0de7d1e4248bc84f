import Teletype.Template.Expand

/-!
# Expanding a template from a position

`run` cuts a template into pieces and throws away what it has cut off. What it stands for
is a scan: the template stays where it is, and a position moves over it. Loops within the
scan move the position over padding, over the digits of an octal number, over the flags and
the counts of a conversion, to the end of a constant and to the end of a branch. Several of
them may leave it one past the end, and an unknown conversion moves it back.

Here the scan is written out, with everything that can go wrong with it. A byte is asked
for at a position, and there may be none; a part of the template is cut out between two
positions, and they may be the wrong way round; a position in front of the first is asked
for. Nothing bounds the outermost loop, which takes one turn for each piece: `Comes` says
where it comes to, and that it ends is something to be proved.

What becomes of a sum that does not fit depends on how the program was built: it is a
fault, or the sum wraps around. The scan takes the choice as an argument.
-/

namespace Teletype.Template

/-- **What stops a scan** before it is done. -/
inductive Fault where
  /-- There is no such byte. -/
  | index
  /-- A sum or a difference does not fit. -/
  | overflow
  /-- A quotient does not fit. -/
  | division
  /-- A width is too great to be filled up to. -/
  | fill
  deriving DecidableEq

/-- What becomes of a sum that does not fit. -/
inductive Arithmetic where
  /-- It is a fault. -/
  | checked
  /-- It wraps around. -/
  | wrapping
  deriving DecidableEq

/-- One more digit at the end of a count. -/
def Arithmetic.pushCount (a : Arithmetic) (value : Nat) (b : UInt8) : Except Fault Nat :=
  let next := value * 10 + (b - 0x30).toNat
  if next ≤ Conversion.greatestCount then pure next
  else
    match a with
    | .checked => throw .overflow
    | .wrapping => pure (next % (Conversion.greatestCount + 1))

/-- The parameter one greater, the least number being one greater than the greatest. -/
def wrappingSucc : Param → Param
  | .int n => .int (n + 1)
  | .text s => .text s

/-- **The first two parameters counted from one.** -/
def Arithmetic.countFromOne (a : Arithmetic) (st : State) : Except Fault State :=
  match a with
  | .checked =>
    match st.countFromOne? with
    | some after => pure after
    | none => throw .overflow
  | .wrapping =>
    pure { st with
      params := fun i => if i.val < 2 then wrappingSucc (st.params i) else st.params i }

namespace Cursor

/-! ## Looking at bytes -/

/-- The byte at a position. -/
def byteAt (bytes : Array UInt8) (i : Nat) : Except Fault UInt8 :=
  match bytes[i]? with
  | some b => pure b
  | none => throw .index

/-- The bytes between two positions. -/
def slice (bytes : Array UInt8) (start stop : Nat) : Except Fault (List UInt8) :=
  if start ≤ stop ∧ stop ≤ bytes.size then pure ((bytes.toList.drop start).take (stop - start))
  else throw .index

/-- The position in front of a position. -/
def before : Nat → Except Fault Nat
  | 0 => throw .overflow
  | i + 1 => pure i

/-- The position of the next mark, or that of the end. -/
def skipTo (bytes : Array UInt8) (mark : UInt8) (i : Nat) : Except Fault Nat := do
  if _h : i < bytes.size then
    if (← byteAt bytes i) != mark then skipTo bytes mark (i + 1) else pure i
  else pure i
termination_by bytes.size - i

/-! ## Reading pieces

Each of these returns what it has read together with the position behind it. -/

/-- Further octal digits of a number that has some already, up to three together. -/
def octalAt (bytes : Array UInt8) (count value i : Nat) : Nat × Nat :=
  if count < 3 then
    match bytes[i]?.bind octalDigit? with
    | some d => octalAt bytes (count + 1) (value * 8 + d) (i + 1)
    | none => (value, i)
  else (value, i)
termination_by 3 - count

/-- What a backslash stands for, at the position behind it. -/
def escapeAt (bytes : Array UInt8) (i : Nat) : UInt8 × Nat :=
  match bytes[i]? with
  | none => (0x5c, i)
  | some b =>
    match octalDigit? b with
    | some d => let (value, i) := octalAt bytes 1 d (i + 1); (octalByte value, i)
    | none => (namedEscape b, i + 1)

/-- A byte that is there is within the text. -/
theorem lt_size_of_getElem? {bytes : Array UInt8} {i : Nat} {b : UInt8} (h : bytes[i]? = some b) :
    i < bytes.size :=
  (Array.getElem?_eq_some_iff.1 h).1

/-- The flags of a conversion. -/
def flagsAt (bytes : Array UInt8) (c : Conversion) (i : Nat) : Conversion × Nat :=
  match h : bytes[i]? with
  | none => (c, i)
  | some b =>
    have := lt_size_of_getElem? h
    if b == 0x2d then flagsAt bytes { c with left := true } (i + 1)
    else if b == 0x2b then flagsAt bytes { c with plus := true } (i + 1)
    else if b == 0x20 then flagsAt bytes { c with space := true } (i + 1)
    else if b == 0x23 then flagsAt bytes { c with alternate := true } (i + 1)
    else (c, i)
termination_by bytes.size - i

/-- A run of decimal digits continuing a number. -/
def countAt (a : Arithmetic) (bytes : Array UInt8) (value i : Nat) : Except Fault (Nat × Nat) :=
  match h : bytes[i]? with
  | none => pure (value, i)
  | some b =>
    have := lt_size_of_getElem? h
    if 0x30 ≤ b && b ≤ 0x39 then do
      let value ← a.pushCount value b
      countAt a bytes value (i + 1)
    else pure (value, i)
termination_by bytes.size - i

/-- A precision, if a point starts one. -/
def precisionAt (a : Arithmetic) (bytes : Array UInt8) (i : Nat) :
    Except Fault (Option Nat × Nat) := do
  if bytes[i]? = some 0x2e then
    let (value, i) ← countAt a bytes 0 (i + 1)
    pure (some value, i)
  else pure (none, i)

/-- All but the letter of a conversion. -/
def countsAt (a : Arithmetic) (bytes : Array UInt8) (start : Nat) :
    Except Fault (Conversion × Nat) := do
  let (c, i) := flagsAt bytes {} (if bytes[start]? = some 0x3a then start + 1 else start)
  let (width, i) ← countAt a bytes 0 i
  let (precision, i) ← precisionAt a bytes i
  pure ({ c with width, precision }, i)

/-- **A conversion**, or an unknown operator, of which only the first byte is passed over. -/
def conversionAt (a : Arithmetic) (bytes : Array UInt8) (start : Nat) :
    Except Fault (Op × Nat) := do
  let (c, i) ← countsAt a bytes start
  match bytes[i]?.bind Letter.ofByte? with
  | some letter => pure (.convert { c with letter }, i + 1)
  | none => pure (.nothing, start + 1)

/-- The operator that a byte behind a percent sign starts, at the position behind the byte. -/
def operatorAt (a : Arithmetic) (bytes : Array UInt8) (b : UInt8) (i : Nat) :
    Except Fault (Op × Nat) := do
  if b == 0x70 then
    match bytes[i]? with
    | none => pure (.nothing, i)
    | some d =>
      let n := (d - 0x31).toNat
      pure (if h : n < 9 then .push ⟨n, h⟩ else .nothing, i + 1)
  else if b == 0x50 || b == 0x67 then
    match bytes[i]? with
    | none => pure (.nothing, i)
    | some name =>
      pure (if isVariable name then (if b == 0x50 then .store name else .load name) else .nothing,
        i + 1)
  else if b == 0x27 then
    match bytes[i]? with
    | none => pure (.nothing, i)
    | some c =>
      pure (.constant (Int64.ofNat c.toNat), if bytes[i + 1]? = some 0x27 then i + 2 else i + 1)
  else if b == 0x7b then
    let stop ← skipTo bytes 0x7d i
    let digits ← slice bytes i stop
    pure (.constant (constantOf digits), stop + 1)
  else
    match simpleOp? b with
    | some op => pure (op, i)
    | none => conversionAt a bytes (← before i)

/-- **The piece at a position.** -/
def pieceAt (a : Arithmetic) (bytes : Array UInt8) (i : Nat) : Except Fault (Op × Nat) := do
  let b ← byteAt bytes i
  let i := i + 1
  if b == 0x5c then
    let (byte, i) := escapeAt bytes i
    pure (.emit byte, i)
  else if b == 0x5e && i < bytes.size then
    let c ← byteAt bytes i
    pure (.emit (caretByte c), i + 1)
  else if b == 0x24 && bytes[i]? = some 0x3c then
    let i ← skipTo bytes 0x3e i
    pure (.nothing, i + 1)
  else if b == 0x25 && i < bytes.size then
    let op ← byteAt bytes i
    operatorAt a bytes op (i + 1)
  else pure (.emit b, i)

/-- **The position behind the current branch.** -/
def branchEnd (bytes : Array UInt8) (toElse : Bool) (level i : Nat) : Except Fault Nat := do
  if _h : i < bytes.size then
    if (← byteAt bytes i) != 0x25 then branchEnd bytes toElse level (i + 1)
    else
      match bytes[i + 1]? with
      | none => branchEnd bytes toElse level (i + 2)
      | some c =>
        if c == 0x3f then branchEnd bytes toElse (level + 1) (i + 2)
        else if c == 0x3b then
          if level == 0 then pure (i + 2) else branchEnd bytes toElse (level - 1) (i + 2)
        else if c == 0x65 && level == 0 && toElse then pure (i + 2)
        else branchEnd bytes toElse level (i + 2)
  else pure i
termination_by bytes.size - i

/-! ## Running -/

/-- What is wrong when an operator has no effect. -/
def fault : Op → Fault
  | .binary _ => .division
  | .convert _ => .fill
  | _ => .overflow

/-- **One operator's effect.** -/
def exec (a : Arithmetic) (op : Op) (st : State) : Except Fault State :=
  match op with
  | .oneBased => a.countFromOne st
  | op =>
    match op.exec? st with
    | some after => pure after
    | none => throw (fault op)

/-- **One turn of the scan**: the state after the piece at a position, and the position that
the scan goes on at. -/
def turn (a : Arithmetic) (bytes : Array UInt8) (i : Nat) (st : State) :
    Except Fault (State × Nat) := do
  let (op, i) ← pieceAt a bytes i
  let after ← exec a op st
  match op with
  | .branch =>
    if st.top.toInt = 0 then
      let i ← branchEnd bytes true 0 i
      pure (after, i)
    else pure (after, i)
  | .otherwise =>
    let i ← branchEnd bytes false 0 i
    pure (after, i)
  | _ => pure (after, i)

/-- **How a scan ends** that goes on from a position: in a state, or in a fault. -/
inductive Ends (a : Arithmetic) (bytes : Array UInt8) :
    Nat → State → Except Fault State → Prop where
  /-- The position is past the end. -/
  | done {i : Nat} {st : State} : bytes.size ≤ i → Ends a bytes i st (.ok st)
  /-- A turn ends in a fault. -/
  | fault {i : Nat} {st : State} {f : Fault} :
    i < bytes.size → turn a bytes i st = .error f → Ends a bytes i st (.error f)
  /-- The scan goes on where a turn comes to. -/
  | turn {i j : Nat} {st after : State} {r : Except Fault State} :
    i < bytes.size → turn a bytes i st = .ok (after, j) → Ends a bytes j after r →
      Ends a bytes i st r

/-- **What the expansion of a template comes to**: bytes, or a fault. -/
inductive Expands (a : Arithmetic) (template : List UInt8) (params : List Param) :
    Except Fault (List UInt8) → Prop where
  /-- The scan starts at the first byte, and what it has written counts. -/
  | intro {r : Except Fault State} :
    Ends a template.toArray 0 (State.start params) r → Expands a template params (r.map State.out)

/-- **Where a scan comes to** on its way, and in which state. -/
inductive Comes (a : Arithmetic) (template : List UInt8) (params : List Param) :
    Nat → State → Prop where
  /-- It starts at the first byte. -/
  | start : Comes a template params 0 (State.start params)
  /-- It takes a turn. -/
  | turn {i j : Nat} {st after : State} :
    Comes a template params i st → i < template.length →
      turn a template.toArray i st = .ok (after, j) → Comes a template params j after

end Cursor

end Teletype.Template
