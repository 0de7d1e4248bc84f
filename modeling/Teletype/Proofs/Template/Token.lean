import Teletype.Proofs.Template.Format

/-!
# The tokens of the template language

A token is the least thing a template is built from: a literal byte, an escape,
a padding mark, an operator, a constant, a conversion. `Token.text` is how it is
written and `Token.op` what it does. The signs that give a template its
structure, `%?`, `%t`, `%e` and `%;`, are not tokens: `Tree` has them.

Two scanners go over the text of a template. The run cuts a piece off the front
and does what it says; the skip looks for percent signs and for the byte behind
each. They do not agree on where a token starts – in the constant `%'%'` the
skip sees two operators where the run sees one token – and nothing here makes
them agree. What matters is that each of them, started in front of a token,
stops right behind it: `Token.piece_text` for the run and
`Token.skipBranch_text` for the skip. Both hold whatever comes after, so no
token can reach into the next.
-/

namespace Teletype.Template

/-- Whether a byte stands for itself: it starts no operator, escape or padding. -/
def isLiteral (b : UInt8) : Bool := b != 0x25 && b != 0x5c && b != 0x5e && b != 0x24

/-- **A token of the template language.** -/
inductive Token where
  /-- A byte that stands for itself. -/
  | literal (b : UInt8) (plain : isLiteral b = true)
  /-- A backslash and a byte that is neither an octal digit nor a percent sign. -/
  | escape (b : UInt8) (named : octalDigit? b = none) (plain : b ≠ 0x25)
  /-- A backslash and three octal digits. -/
  | octal (first second third : Fin 8)
  /-- A caret and a byte other than the percent sign. -/
  | caret (b : UInt8) (plain : b ≠ 0x25)
  /-- Padding, `$<..>`. -/
  | padding (content : List UInt8) (plain : ∀ b ∈ content, b ≠ 0x25 ∧ b ≠ 0x3e)
  /-- `%%` -/
  | percent
  /-- `%c` -/
  | emitTop
  /-- `%p1` to `%p9` -/
  | parameter (i : Fin 9)
  /-- `%P` and a letter. -/
  | store (name : UInt8) (letter : isVariable name = true)
  /-- `%g` and a letter. -/
  | load (name : UInt8) (letter : isVariable name = true)
  /-- `%'c'`, with any byte between the quotes. -/
  | character (c : UInt8)
  /-- `%{n}` -/
  | constant (n : Constant)
  /-- `%l` -/
  | length
  /-- `%i` -/
  | oneBased
  /-- An operator with two operands. -/
  | binary (op : BinaryOp)
  /-- `%!` -/
  | not
  /-- `%~` -/
  | complement
  /-- A conversion. -/
  | convert (f : Format)

/-- An operator with two operands as it is written. -/
def BinaryOp.byte : BinaryOp → UInt8
  | add => 0x2b
  | sub => 0x2d
  | mul => 0x2a
  | div => 0x2f
  | mod => 0x6d
  | and => 0x26
  | or => 0x7c
  | xor => 0x5e
  | eq => 0x3d
  | gt => 0x3e
  | lt => 0x3c
  | both => 0x41
  | either => 0x4f

/-- An octal digit as it is written. -/
def octalChar (d : Fin 8) : UInt8 := 0x30 + UInt8.ofNat d

namespace Token

/-- **A token as it is written.** -/
def text : Token → List UInt8
  | literal b _ => [b]
  | escape b _ _ => [0x5c, b]
  | octal first second third => [0x5c, octalChar first, octalChar second, octalChar third]
  | caret b _ => [0x5e, b]
  | padding content _ => 0x24 :: 0x3c :: (content ++ [0x3e])
  | percent => [0x25, 0x25]
  | emitTop => [0x25, 0x63]
  | parameter i => [0x25, 0x70, 0x31 + UInt8.ofNat i]
  | store name _ => [0x25, 0x50, name]
  | load name _ => [0x25, 0x67, name]
  | character c => [0x25, 0x27, c, 0x27]
  | constant n => 0x25 :: 0x7b :: (n.bytes ++ [0x7d])
  | length => [0x25, 0x6c]
  | oneBased => [0x25, 0x69]
  | binary op => [0x25, op.byte]
  | not => [0x25, 0x21]
  | complement => [0x25, 0x7e]
  | convert f => 0x25 :: f.text

/-- **What a token does.** -/
def op : Token → Op
  | literal b _ => .emit b
  | escape b _ _ => .emit (namedEscape b)
  | octal first second third => .emit (octalByte (64 * first + 8 * second + third))
  | caret b _ => .emit (caretByte b)
  | padding _ _ => .nothing
  | percent => .emit 0x25
  | emitTop => .emitTop
  | parameter i => .push i
  | store name _ => .store name
  | load name _ => .load name
  | character c => .constant (Int64.ofNat c.toNat)
  | constant n => .constant (Int64.ofInt n.value)
  | length => .length
  | oneBased => .oneBased
  | binary op => .binary op
  | not => .not
  | complement => .complement
  | convert f => .convert f.conversion

/-! ## The run cuts a token off whole -/

/-- Three octal digits are read as their number. -/
theorem escape_octal (first second third : Fin 8) (rest : List UInt8) :
    Template.escape (octalChar first :: octalChar second :: octalChar third :: rest)
      = (octalByte (64 * first + 8 * second + third), rest) := by
  have hdigit : ∀ d : Fin 8, octalDigit? (octalChar d) = some d.val := by decide
  simp only [Template.escape, Template.octal, hdigit]
  rw [show (first.val * 8 + second.val) * 8 + third.val
    = 64 * first.val + 8 * second.val + third.val from by omega]

/-- What stands in front of the first mark, and what stands behind it. -/
theorem upTo_append {mark : UInt8} {content : List UInt8} (h : ∀ b ∈ content, b ≠ mark)
    (rest : List UInt8) : upTo mark (content ++ mark :: rest) = (content, rest) := by
  have hall : ∀ b ∈ content, (b != mark) = true := fun b hb => bne_iff_ne.2 (h b hb)
  rw [upTo, List.takeWhile_append_of_pos hall, List.dropWhile_append_of_pos hall]
  simp

/-- A byte that stands for itself is a piece of its own. -/
theorem piece_literal {b : UInt8} (h : isLiteral b = true) (rest : List UInt8) :
    piece b rest = (.emit b, rest) := by
  simp only [isLiteral, Bool.and_eq_true, bne_iff_ne, ne_eq] at h
  obtain ⟨⟨⟨h₁, h₂⟩, h₃⟩, h₄⟩ := h
  simp only [piece, beq_iff_eq, h₁, h₂, h₃, h₄, if_false]

/-- A percent sign and an operator. -/
theorem piece_percent (b : UInt8) (rest : List UInt8) :
    piece 0x25 (b :: rest) = operator b rest := rfl

/-- **The piece in front of a token is the token**, whatever follows it. -/
theorem piece_text (t : Token) :
    ∃ b bytes, t.text = b :: bytes ∧ ∀ rest, piece b (bytes ++ rest) = (t.op, rest) := by
  cases t with
  | literal b plain => exact ⟨b, [], rfl, piece_literal plain⟩
  | escape b named plain =>
    refine ⟨0x5c, [b], rfl, fun rest => ?_⟩
    simp only [piece, beq_self_eq_true, if_true, List.cons_append, List.nil_append,
      Template.escape, named, op]
  | octal first second third =>
    refine ⟨0x5c, _, rfl, fun rest => ?_⟩
    simp only [piece, beq_self_eq_true, if_true, List.cons_append, List.nil_append,
      escape_octal, op]
  | caret b plain => exact ⟨0x5e, [b], rfl, fun rest => rfl⟩
  | padding content plain =>
    refine ⟨0x24, _, rfl, fun rest => ?_⟩
    -- the run looks for the end behind the dollar sign, so the `<` is passed over too
    have hne : ∀ b ∈ 0x3c :: content, b ≠ (0x3e : UInt8) := by
      intro b hb
      rcases List.mem_cons.1 hb with rfl | hb
      · decide
      · exact (plain b hb).2
    show (Op.nothing, (upTo 0x3e (0x3c :: (content ++ [0x3e]) ++ rest)).2) = _
    rw [List.cons_append, List.append_assoc, ← List.cons_append, List.singleton_append,
      upTo_append hne]
    rfl
  | percent => exact ⟨0x25, _, rfl, fun rest => rfl⟩
  | emitTop => exact ⟨0x25, _, rfl, fun rest => rfl⟩
  | parameter i =>
    refine ⟨0x25, _, rfl, fun rest => ?_⟩
    have hi : (0x31 + UInt8.ofNat i - 0x31).toNat = i.val := by
      revert i
      decide
    simp only [List.cons_append, List.nil_append, piece_percent, operator, beq_self_eq_true,
      if_true, hi, i.isLt, dif_pos, Fin.eta, op]
  | store name letter =>
    refine ⟨0x25, _, rfl, fun rest => ?_⟩
    simp only [List.cons_append, List.nil_append, piece_percent]
    show (if isVariable name then Op.store name else Op.nothing, rest) = _
    rw [letter]
    rfl
  | load name letter =>
    refine ⟨0x25, _, rfl, fun rest => ?_⟩
    simp only [List.cons_append, List.nil_append, piece_percent]
    show (if isVariable name then Op.load name else Op.nothing, rest) = _
    rw [letter]
    rfl
  | character c => exact ⟨0x25, _, rfl, fun rest => rfl⟩
  | constant n =>
    refine ⟨0x25, _, rfl, fun rest => ?_⟩
    rw [List.cons_append, piece_percent, List.append_assoc, List.singleton_append]
    show (Op.constant (constantOf (upTo 0x7d _).1), (upTo 0x7d _).2) = _
    rw [upTo_append fun b hb => (Constant.ne_of_mem_bytes hb).2, n.constantOf_bytes]
    rfl
  | length => exact ⟨0x25, _, rfl, fun rest => rfl⟩
  | oneBased => exact ⟨0x25, _, rfl, fun rest => rfl⟩
  | binary op => cases op <;> exact ⟨0x25, _, rfl, fun rest => rfl⟩
  | not => exact ⟨0x25, _, rfl, fun rest => rfl⟩
  | complement => exact ⟨0x25, _, rfl, fun rest => rfl⟩
  | convert f =>
    obtain ⟨b, bytes, heq, hread⟩ := f.operator_text
    refine ⟨0x25, b :: bytes, by rw [text, heq], fun rest => ?_⟩
    rw [List.cons_append, piece_percent, hread]
    rfl

end Token

/-! ## The skip passes over a token -/

section Skip

variable (toElse : Bool) (level : Nat)

/-- A byte that is no percent sign is passed over. -/
theorem skipBranch_of_ne {b : UInt8} (h : b ≠ 0x25) (rest : List UInt8) :
    skipBranch toElse level (b :: rest) = skipBranch toElse level rest := by
  cases rest with
  | nil => rw [skipBranch, skipBranch]
  | cons c rest => rw [skipBranch.eq_def]; exact if_pos (bne_iff_ne.2 h)

/-- Bytes without a percent sign among them are passed over. -/
theorem skipBranch_of_forall_ne {content : List UInt8} (h : ∀ b ∈ content, b ≠ 0x25)
    (rest : List UInt8) :
    skipBranch toElse level (content ++ rest) = skipBranch toElse level rest := by
  induction content with
  | nil => rfl
  | cons b content ih =>
    rw [List.cons_append, skipBranch_of_ne toElse level (h b (List.mem_cons_self ..)),
      ih fun c hc => h c (List.mem_cons_of_mem _ hc)]

/-- Whether the skip takes notice of a byte behind a percent sign. -/
def isStructural (b : UInt8) : Bool := b == 0x3f || b == 0x3b || b == 0x65

/-- A percent sign and a byte without a part in the structure are passed over
together, even if that byte is a percent sign. -/
theorem skipBranch_percent {c : UInt8} (h : isStructural c = false) (rest : List UInt8) :
    skipBranch toElse level (0x25 :: c :: rest) = skipBranch toElse level rest := by
  simp only [isStructural, Bool.or_eq_false_iff] at h
  obtain ⟨⟨h₁, h₂⟩, h₃⟩ := h
  rw [skipBranch.eq_def]
  simp only [h₁, h₂, h₃, bne_self_eq_false, Bool.false_and, Bool.false_eq_true, if_false]

/-- No conversion opens with a byte that has a part in the structure. -/
theorem isStructural_of_opens {b : UInt8} (h : Format.opens b = true) :
    isStructural b = false := by
  have hsimple : ∀ c : UInt8, isStructural c = true → (simpleOp? c).isNone = false := by
    intro c hc
    simp only [isStructural, Bool.or_eq_true, beq_iff_eq] at hc
    rcases hc with (rfl | rfl) | rfl <;> rfl
  simp only [Format.opens, Bool.and_eq_true] at h
  cases hs : isStructural b with
  | false => rfl
  | true => exact absurd ((hsimple b hs).symm.trans h.2) Bool.false_ne_true

/-- **The skip stops right behind a token** that it starts in front of, and takes
no notice of anything in it. -/
theorem Token.skipBranch_text (t : Token) (rest : List UInt8) :
    skipBranch toElse level (t.text ++ rest) = skipBranch toElse level rest := by
  cases t with
  | literal b plain =>
    simp only [isLiteral, Bool.and_eq_true, bne_iff_ne, ne_eq] at plain
    exact skipBranch_of_ne toElse level plain.1.1.1 rest
  | escape b named plain =>
    exact @skipBranch_of_forall_ne toElse level [0x5c, b] (by simpa using plain) rest
  | octal first second third =>
    have hne : ∀ d : Fin 8, octalChar d ≠ 0x25 := by decide
    refine skipBranch_of_forall_ne toElse level (fun b hb => ?_) rest
    simp only [text, List.mem_cons, List.not_mem_nil, or_false] at hb
    rcases hb with rfl | rfl | rfl | rfl
    · decide
    · exact hne first
    · exact hne second
    · exact hne third
  | caret b plain =>
    exact @skipBranch_of_forall_ne toElse level [0x5e, b] (by simpa using plain) rest
  | padding content plain =>
    refine skipBranch_of_forall_ne toElse level (fun b hb => ?_) rest
    simp only [text, List.mem_cons, List.mem_append, List.not_mem_nil, or_false] at hb
    rcases hb with rfl | rfl | hb | rfl
    · decide
    · decide
    · exact (plain b hb).1
    · decide
  | percent => exact skipBranch_percent toElse level (by decide) rest
  | emitTop => exact skipBranch_percent toElse level (by decide) rest
  | parameter i =>
    have hne : ∀ i : Fin 9, 0x31 + UInt8.ofNat i ≠ 0x25 := by decide
    exact (skipBranch_percent toElse level (by decide) _).trans
      (skipBranch_of_ne toElse level (hne i) rest)
  | store name letter =>
    have hne : name ≠ 0x25 := by rintro rfl; exact absurd letter (by decide)
    exact (skipBranch_percent toElse level (by decide) _).trans
      (skipBranch_of_ne toElse level hne rest)
  | load name letter =>
    have hne : name ≠ 0x25 := by rintro rfl; exact absurd letter (by decide)
    exact (skipBranch_percent toElse level (by decide) _).trans
      (skipBranch_of_ne toElse level hne rest)
  | character c =>
    refine (skipBranch_percent toElse level (by decide) (c :: 0x27 :: rest)).trans ?_
    -- a percent sign between the quotes pairs up with the closing quote
    by_cases hc : c = 0x25
    · rw [hc]
      exact skipBranch_percent toElse level (by decide) rest
    · exact (skipBranch_of_ne toElse level hc _).trans
        (skipBranch_of_ne toElse level (by decide) rest)
  | constant n =>
    refine (skipBranch_percent toElse level (by decide) _).trans ?_
    refine skipBranch_of_forall_ne toElse level (fun b hb => ?_) rest
    rcases List.mem_append.1 hb with hb | hb
    · exact (Constant.ne_of_mem_bytes hb).1
    · rw [List.mem_singleton.1 hb]; decide
  | length => exact skipBranch_percent toElse level (by decide) rest
  | oneBased => exact skipBranch_percent toElse level (by decide) rest
  | binary op =>
    exact skipBranch_percent toElse level (by cases op <;> decide) rest
  | not => exact skipBranch_percent toElse level (by decide) rest
  | complement => exact skipBranch_percent toElse level (by decide) rest
  | convert f =>
    obtain ⟨b, bytes, heq, hopens⟩ := f.text_head
    have hplain : ∀ c ∈ bytes, c ≠ 0x25 := fun c hc =>
      Format.ne_percent_of_mem_text (heq ▸ List.mem_cons_of_mem _ hc)
    rw [text, heq, List.cons_append, List.cons_append,
      skipBranch_percent toElse level (isStructural_of_opens hopens),
      skipBranch_of_forall_ne toElse level hplain]

end Skip

end Teletype.Template
