import Teletype.Template.Conversion
import Teletype.Template.Escape
import Teletype.Text.Blank
import Teletype.Text.Numeral

/-!
# Expanding a template

A template is a flat text: literal bytes, escapes, padding marks, and
operators that a percent sign introduces. Expanding it runs once from left to
right over a stack of values and two sets of 26 variables, and collects the
bytes it writes.

Conditionals have no structure of their own in the text. `%t` drops the value
on top and, if it is zero, skips to just behind the `%e` or the `%;` that
closes the branch; `%e` skips to just behind the `%;`. Skipping keeps count of
nested conditionals and looks at nothing else.

## Numbers out of range

Sums, differences and products wrap around. Four other things fail, and with
them the whole expansion: dividing the least number by minus one, counting the
greatest parameter from one, reading a width or a precision of more than 64
bits, and filling up to a width of more than 16. What a run skips cannot fail.
-/

namespace Teletype.Template

/-! ## Operators -/

/-- An operator with two operands. -/
inductive BinaryOp where
  | add | sub | mul | div | mod | and | or | xor | eq | gt | lt | both | either
  deriving DecidableEq

namespace BinaryOp

/-- The operator a byte stands for. -/
def ofByte? (b : UInt8) : Option BinaryOp :=
  if b == 0x2b then some add
  else if b == 0x2d then some sub
  else if b == 0x2a then some mul
  else if b == 0x2f then some div
  else if b == 0x6d then some mod
  else if b == 0x26 then some and
  else if b == 0x7c then some or
  else if b == 0x5e then some xor
  else if b == 0x3d then some eq
  else if b == 0x3e then some gt
  else if b == 0x3c then some lt
  else if b == 0x41 then some both
  else if b == 0x4f then some either
  else none

/-- A truth value as a number. -/
def truth (b : Bool) : Int64 := if b then 1 else 0

/-- The quotient and the remainder that fail: the least number by minus one. -/
def overflows (a b : Int64) : Bool := a == Int64.minValue && b == -1

/-- **An operator's value**, or nothing when a division overflows. Dividing by
zero gives zero, and the other operations wrap. -/
def value? (op : BinaryOp) (a b : Int64) : Option Int64 :=
  match op with
  | add => some (a + b)
  | sub => some (a - b)
  | mul => some (a * b)
  | div => if b = 0 then some 0 else if overflows a b then none else some (a / b)
  | mod => if b = 0 then some 0 else if overflows a b then none else some (a % b)
  | and => some (a &&& b)
  | or => some (a ||| b)
  | xor => some (a ^^^ b)
  | eq => some (truth (a == b))
  | gt => some (truth (b < a))
  | lt => some (truth (a < b))
  | both => some (truth (a != 0 && b != 0))
  | either => some (truth (a != 0 || b != 0))

end BinaryOp

/-- **What a piece of a template does** when the run reaches it. -/
inductive Op where
  /-- Write a byte. -/
  | emit (b : UInt8)
  /-- Do nothing: padding, and operators that are unknown or cut short. -/
  | nothing
  /-- Fail: a conversion whose counts cannot be read. -/
  | unreadable
  /-- `%c`: write the top of the stack as a byte. -/
  | emitTop
  /-- `%p1` to `%p9`: push a parameter. -/
  | push (i : Fin 9)
  /-- `%P`: pop into a variable. -/
  | store (name : UInt8)
  /-- `%g`: push a variable. -/
  | load (name : UInt8)
  /-- A constant, given as a character or in decimal. -/
  | constant (n : Int64)
  /-- `%l`: replace the top by its length. -/
  | length
  /-- `%i`: count the first two parameters from one. -/
  | oneBased
  /-- An operator with two operands. -/
  | binary (op : BinaryOp)
  /-- `%!`: logical negation of the top. -/
  | not
  /-- `%~`: bitwise complement of the top. -/
  | complement
  /-- A conversion of the top. -/
  | convert (c : Conversion)
  /-- `%t`: leave the branch unless the top holds. -/
  | branch
  /-- `%e`: the branch taken ends here. -/
  | otherwise

/-! ## Cutting a template into pieces -/

/-- A variable has a letter for a name. -/
def isVariable (b : UInt8) : Bool := (0x61 ≤ b && b ≤ 0x7a) || (0x41 ≤ b && b ≤ 0x5a)

/-- The number between the braces of a constant; anything but a number in
range counts as zero. -/
def constantOf (bytes : List UInt8) : Int64 :=
  match (Text.decode? bytes).bind fun cs => Text.int64? (Text.trim cs) with
  | some n => Int64.ofInt n
  | none => 0

/-- The text up to a mark, and what follows the mark. -/
def upTo (mark : UInt8) (bytes : List UInt8) : List UInt8 × List UInt8 :=
  (bytes.takeWhile (· != mark), (bytes.dropWhile (· != mark)).drop 1)

/-- A closing quote, if one is there, is passed over. -/
def skipQuote : List UInt8 → List UInt8
  | [] => []
  | b :: rest => if b == 0x27 then rest else b :: rest

/-- The operators that are a single byte. -/
def simpleOp? (b : UInt8) : Option Op :=
  if b == 0x25 then some (.emit 0x25)
  else if b == 0x63 then some .emitTop
  else if b == 0x6c then some .length
  else if b == 0x69 then some .oneBased
  else if b == 0x21 then some .not
  else if b == 0x7e then some .complement
  else if b == 0x3f || b == 0x3b then some .nothing
  else if b == 0x74 then some .branch
  else if b == 0x65 then some .otherwise
  else (BinaryOp.ofByte? b).map .binary

/-- A conversion whose first byte is `b`, or an unknown operator, and what follows
it. Counts that cannot be read fail whatever letter comes after them. -/
def conversion (b : UInt8) (rest : List UInt8) : Op × List UInt8 :=
  let (c, left) := Conversion.readCounts (b :: rest)
  if !c.isReadable then (.unreadable, rest)
  else
    match c.readLetter? left with
    | some (c, left) => (.convert c, left)
    | none => (.nothing, rest)

/-- The operator a percent sign and the byte `b` start, and what follows it. -/
def operator (b : UInt8) (rest : List UInt8) : Op × List UInt8 :=
  if b == 0x70 then
    match rest with
    | [] => (.nothing, [])
    | d :: rest =>
      let i := (d - 0x31).toNat
      (if h : i < 9 then .push ⟨i, h⟩ else .nothing, rest)
  else if b == 0x50 || b == 0x67 then
    match rest with
    | [] => (.nothing, [])
    | name :: rest =>
      (if isVariable name then (if b == 0x50 then .store name else .load name) else .nothing,
        rest)
  else if b == 0x27 then
    match rest with
    | [] => (.nothing, [])
    | c :: rest => (.constant (Int64.ofNat c.toNat), skipQuote rest)
  else if b == 0x7b then
    let (digits, left) := upTo 0x7d rest
    (.constant (constantOf digits), left)
  else
    match simpleOp? b with
    | some op => (op, rest)
    | none => conversion b rest

/-- **The piece that starts with the byte `b`**, and what follows it. -/
def piece (b : UInt8) (rest : List UInt8) : Op × List UInt8 :=
  if b == 0x5c then
    let (byte, left) := escape rest
    (.emit byte, left)
  else if b == 0x5e then
    match rest with
    | [] => (.emit b, [])
    | c :: rest => (.emit (caretByte c), rest)
  else if b == 0x24 then
    match rest with
    | [] => (.emit b, [])
    | c :: left => if c == 0x3c then (.nothing, (upTo 0x3e rest).2) else (.emit b, c :: left)
  else if b == 0x25 then
    match rest with
    | [] => (.emit b, [])
    | op :: rest => operator op rest
  else (.emit b, rest)

theorem length_upTo (mark : UInt8) (bytes : List UInt8) :
    (upTo mark bytes).2.length ≤ bytes.length := by
  have h : (bytes.dropWhile (· != mark)).length ≤ bytes.length :=
    (List.dropWhile_sublist _).length_le
  simp only [upTo, List.length_drop]
  omega

theorem length_skipQuote (bytes : List UInt8) : (skipQuote bytes).length ≤ bytes.length := by
  cases bytes with
  | nil => exact Nat.le_refl _
  | cons b rest =>
    simp only [skipQuote]
    split
    · exact Nat.le_succ _
    · exact Nat.le_refl _

theorem length_conversion (b : UInt8) (rest : List UInt8) :
    (conversion b rest).2.length ≤ rest.length := by
  simp only [conversion]
  split
  · exact Nat.le_refl _
  · split
    · rename_i h
      exact Nat.le_of_lt_succ
        (Nat.lt_of_lt_of_le (Conversion.length_readLetter? h) (Conversion.length_readCounts _))
    · exact Nat.le_refl _

theorem length_operator (b : UInt8) (rest : List UInt8) :
    (operator b rest).2.length ≤ rest.length := by
  unfold operator
  split
  · cases rest with
    | nil => exact Nat.le_refl _
    | cons d rest => exact Nat.le_succ _
  · split
    · cases rest with
      | nil => exact Nat.le_refl _
      | cons d rest => exact Nat.le_succ _
    · split
      · cases rest with
        | nil => exact Nat.le_refl _
        | cons c rest => exact Nat.le_trans (length_skipQuote rest) (Nat.le_succ _)
      · split
        · exact length_upTo ..
        · split
          · exact Nat.le_refl _
          · exact length_conversion ..

/-- What follows a piece is no longer than what followed its first byte. -/
theorem length_piece (b : UInt8) (rest : List UInt8) :
    (piece b rest).2.length ≤ rest.length := by
  unfold piece
  split
  · exact length_escape rest
  · split
    · cases rest with
      | nil => exact Nat.le_refl _
      | cons c rest => exact Nat.le_succ _
    · split
      · cases rest with
        | nil => exact Nat.le_refl _
        | cons c left =>
          dsimp only
          split
          · exact length_upTo ..
          · exact Nat.le_refl _
      · split
        · cases rest with
          | nil => exact Nat.le_refl _
          | cons op rest => exact Nat.le_trans (length_operator op rest) (Nat.le_succ _)
        · exact Nat.le_refl _

/-! ## Skipping a branch -/

/-- **What follows the current branch**: the text behind the `%;` that closes
it, or behind its `%e` when the skip may end there. The count says how many
conditionals have been opened and not closed on the way. A branch that is
never closed reaches to the end. -/
def skipBranch (toElse : Bool) : Nat → List UInt8 → List UInt8
  | _, [] => []
  | _, [_] => []
  | level, b :: c :: rest =>
    if b != 0x25 then skipBranch toElse level (c :: rest)
    else if c == 0x3f then skipBranch toElse (level + 1) rest
    else if c == 0x3b then
      match level with
      | 0 => rest
      | level + 1 => skipBranch toElse level rest
    else if c == 0x65 && level == 0 && toElse then rest
    else skipBranch toElse level rest

theorem length_skipBranch (toElse : Bool) (level : Nat) (bytes : List UInt8) :
    (skipBranch toElse level bytes).length ≤ bytes.length := by
  fun_induction skipBranch toElse level bytes <;> simp_all <;> omega

/-! ## Running -/

/-- **The state of a run.** -/
structure State where
  /-- The nine parameters, those not given being zero. -/
  params : Fin 9 → Param
  /-- The stack, its top first. An empty stack yields zeros. -/
  stack : List Param := []
  /-- The variables, by the letter that names them. -/
  vars : UInt8 → Int64 := fun _ => 0
  /-- What has been written. -/
  out : List UInt8 := []

namespace State

/-- The state a run starts from. -/
def start (params : List Param) : State := { params := fun i => params.getD i (.int 0) }

/-- The top of the stack; zero when there is none. -/
def top (st : State) : Param := st.stack.headD (.int 0)

/-- The state without the top of its stack. -/
def drop (st : State) : State := { st with stack := st.stack.tail }

/-- The state with a value pushed. -/
def push (st : State) (v : Param) : State := { st with stack := v :: st.stack }

/-- The state with a number pushed. -/
def pushInt (st : State) (n : Int64) : State := st.push (.int n)

/-- The state with bytes written. -/
def write (st : State) (bytes : List UInt8) : State := { st with out := st.out ++ bytes }

end State

/-- **The first two parameters counted from one**, unless one of them is the greatest
number. -/
def State.countFromOne? (st : State) : Option State := do
  let first ← (st.params 0).succ?
  let second ← (st.params 1).succ?
  pure { st with params := fun i => if i = 0 then first else if i = 1 then second else st.params i }

/-- **One operator's effect**, or nothing when a number gets out of range. The two that
end branches only look at the stack here; what they skip is the run's business. -/
def Op.exec? (op : Op) (st : State) : Option State :=
  match op with
  | emit b => some (st.write [b])
  | nothing => some st
  | unreadable => none
  | emitTop => some (st.drop.write [st.top.toInt.toUInt64.toUInt8])
  | .push i => some (st.push (st.params i))
  | store name =>
    some { st.drop with vars := fun x => if x = name then st.top.toInt else st.vars x }
  | load name => some (st.pushInt (st.vars name))
  | constant n => some (st.pushInt n)
  | length => some (st.drop.pushInt st.top.byteLength)
  | oneBased => st.countFromOne?
  | binary op =>
    (op.value? st.drop.top.toInt st.top.toInt).map fun n => st.drop.drop.pushInt n
  | not => some (st.drop.pushInt (BinaryOp.truth (st.top.toInt == 0)))
  | complement => some (st.drop.pushInt (~~~st.top.toInt))
  | convert c => (c.render? st.top).map fun cs => st.drop.write (Text.utf8 cs)
  | branch => some st.drop
  | otherwise => some st

/-- Where the run goes on after an operator that ends in front of `rest`. -/
def Op.next (op : Op) (st : State) (rest : List UInt8) : List UInt8 :=
  match op with
  | branch => if st.top.toInt = 0 then skipBranch true 0 rest else rest
  | otherwise => skipBranch false 0 rest
  | _ => rest

theorem Op.length_next (op : Op) (st : State) (rest : List UInt8) :
    (op.next st rest).length ≤ rest.length := by
  unfold next
  split
  · split
    · exact length_skipBranch ..
    · exact Nat.le_refl _
  · exact length_skipBranch ..
  · exact Nat.le_refl _

/-- **A run over a template**: the final state, or nothing when a number gets out of
range on the way. -/
def run (st : State) : List UInt8 → Option State
  | [] => some st
  | b :: bytes =>
    match (piece b bytes).1.exec? st with
    | none => none
    | some after => run after ((piece b bytes).1.next st (piece b bytes).2)
termination_by bytes => bytes.length
decreasing_by
  exact Nat.lt_succ_of_le (Nat.le_trans (Op.length_next ..) (length_piece ..))

/-- **The expansion of a template** with parameters, or nothing when a number gets out
of range. -/
def expand? (template : List UInt8) (params : List Param) : Option (List UInt8) :=
  (run (State.start params) template).map State.out

/-- The expansion of a template given as a string. -/
def render? (template : String) (params : List Param) : Option (List UInt8) :=
  expand? (Text.bytesOf template) params

end Teletype.Template
