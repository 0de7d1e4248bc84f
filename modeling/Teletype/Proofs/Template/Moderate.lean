import Teletype.Proofs.Template.Cursor
import Teletype.Proofs.Template.Token

/-!
# Templates whose widths can be filled up to

A width of more than 16 bits cannot be filled up to, and a count of more than 64 cannot be
read. `Moderate` says of a template that it has neither.

Which numbers of a template are widths and precisions is not to be seen from its text alone:
in `%%99999d` there is none. It depends on where a run may come to, and that is what `Place`
says, whatever the run holds on its stack. That all numbers are small, wherever the text is
cut, is more than is asked for, and can be seen from the text (`moderate_of_readCount`).
-/

namespace Teletype.Template

/-! ## Pieces that can be without effect -/

/-- Whether an operator can be without effect where sums wrap around. -/
def Op.mayFail : Op → Bool
  | .binary _ | .convert _ | .unreadable => true
  | _ => false

theorem BinaryOp.eq_byte_of_ofByte? {b : UInt8} {op : BinaryOp} (h : ofByte? b = some op) :
    b = op.byte := by
  revert h
  fun_cases ofByte? b
  all_goals
    rintro ⟨⟩
    try exact beq_iff_eq.1 (by assumption)

/-- Among the operators of a single byte, those with two operands can be without effect. -/
theorem exists_binary_of_simpleOp? {b : UInt8} {op : Op} (h : simpleOp? b = some op)
    (hfail : op.mayFail = true) : ∃ o : BinaryOp, b = o.byte ∧ op = .binary o := by
  revert h
  fun_cases simpleOp? b
  case case10 =>
    intro h
    obtain ⟨o, ho, rfl⟩ := Option.map_eq_some_iff.1 h
    exact ⟨o, BinaryOp.eq_byte_of_ofByte? ho, rfl⟩
  all_goals
    rintro ⟨⟩
    exact absurd hfail Bool.false_ne_true

/-- Of the other operators, the conversions can. -/
theorem operator_of_mayFail {b : UInt8} {rest : List UInt8}
    (h : (operator b rest).1.mayFail = true) :
    (Format.opens b = true ∧ operator b rest = conversion b rest)
      ∨ ∃ o : BinaryOp, b = o.byte ∧ operator b rest = (.binary o, rest) := by
  revert h
  fun_cases operator b rest
  case case8 op hop =>
    intro h
    obtain ⟨o, hb, rfl⟩ := exists_binary_of_simpleOp? hop h
    exact .inr ⟨o, hb, rfl⟩
  case case9 hparam hvar hchar hconst hsimple =>
    refine fun _ => .inl ⟨?_, rfl⟩
    simp only [Bool.or_eq_true, not_or] at hvar
    simp only [Format.opens, bne, hparam, hvar.1, hvar.2, hchar, hconst, hsimple,
      Option.isNone_none]
    rfl
  case case2 | case4 =>
    dsimp only
    repeat' split
    all_goals exact fun h => absurd h Bool.false_ne_true
  all_goals exact fun h => absurd h Bool.false_ne_true

/-- **What can be without effect** stands behind a percent sign: a conversion, or an operator
with two operands. -/
theorem piece_of_mayFail {b : UInt8} {rest : List UInt8} (h : (piece b rest).1.mayFail = true) :
    ∃ c left, b = 0x25 ∧ rest = c :: left
      ∧ ((Format.opens c = true ∧ piece b rest = conversion c left)
        ∨ ∃ o : BinaryOp, c = o.byte ∧ piece b rest = (.binary o, left)) := by
  revert h
  fun_cases piece b rest
  case case8 hb c left =>
    exact fun h => ⟨c, left, beq_iff_eq.1 hb, rfl, operator_of_mayFail h⟩
  all_goals exact fun h => absurd h Bool.false_ne_true

/-- **What a conversion is read as.** -/
theorem conversion_cases (b : UInt8) (rest : List UInt8) :
    ((Conversion.readCounts (b :: rest)).1.isReadable = false
        ∧ conversion b rest = (.unreadable, rest))
      ∨ (∃ c left, (Conversion.readCounts (b :: rest)).1.readLetter?
          (Conversion.readCounts (b :: rest)).2 = some (c, left)
        ∧ conversion b rest = (.convert c, left))
      ∨ conversion b rest = (.nothing, rest) := by
  unfold conversion
  dsimp only
  split
  · rename_i hreadable
    exact .inl ⟨by simpa using hreadable, rfl⟩
  · split
    · rename_i c left hletter
      exact .inr (.inl ⟨c, left, hletter, rfl⟩)
    · exact .inr (.inr rfl)

/-- **Where an operator with two operands stands.** -/
theorem piece_eq_binary_iff {b : UInt8} {rest : List UInt8} {o : BinaryOp} :
    (piece b rest).1 = .binary o ↔ b = 0x25 ∧ rest.head? = some o.byte := by
  constructor
  · intro h
    have hfail : (piece b rest).1.mayFail = true := by
      rw [h]
      rfl
    obtain ⟨c, left, hb, rfl, ⟨-, heq⟩ | ⟨o', rfl, heq⟩⟩ := piece_of_mayFail hfail
    · rw [heq] at h
      obtain ⟨-, hop⟩ | ⟨_, _, -, hop⟩ | hop := conversion_cases c left
      all_goals
        rw [hop] at h
        cases h
    · rw [heq] at h
      cases h
      exact ⟨hb, rfl⟩
  · rintro ⟨rfl, hhead⟩
    obtain ⟨left, rfl⟩ := List.head?_eq_some_iff.1 hhead
    cases o <;> rfl

/-- Where a conversion stands. -/
theorem of_piece_eq_convert {b : UInt8} {rest : List UInt8} {c : Conversion}
    (h : (piece b rest).1 = .convert c) :
    ∃ d left end', b = 0x25 ∧ rest = d :: left ∧ Format.opens d = true
      ∧ (Conversion.readCounts (d :: left)).1.readLetter? (Conversion.readCounts (d :: left)).2
        = some (c, end') := by
  have hfail : (piece b rest).1.mayFail = true := by
    rw [h]
    rfl
  obtain ⟨d, left, hb, hrest, ⟨hopens, heq⟩ | ⟨o, -, heq⟩⟩ := piece_of_mayFail hfail
  · rw [heq] at h
    obtain ⟨-, hop⟩ | ⟨c', end', hletter, hop⟩ | hop := conversion_cases d left
    all_goals
      rw [hop] at h
      cases h
    exact ⟨d, left, end', hb, hrest, hopens, hletter⟩
  · rw [heq] at h
    cases h

/-- Where a conversion stands whose counts cannot be read. -/
theorem of_piece_eq_unreadable {b : UInt8} {rest : List UInt8}
    (h : (piece b rest).1 = .unreadable) :
    ∃ d left, b = 0x25 ∧ rest = d :: left ∧ Format.opens d = true
      ∧ (Conversion.readCounts (d :: left)).1.isReadable = false ∧ (piece b rest).2 = left := by
  have hfail : (piece b rest).1.mayFail = true := by
    rw [h]
    rfl
  obtain ⟨d, left, hb, hrest, ⟨hopens, heq⟩ | ⟨o, -, heq⟩⟩ := piece_of_mayFail hfail
  · rw [heq] at h ⊢
    obtain ⟨hreadable, hop⟩ | ⟨_, _, -, hop⟩ | hop := conversion_cases d left
    all_goals
      rw [hop] at h
      cases h
    rw [hop]
    exact ⟨d, left, hb, hrest, hopens, hreadable, rfl⟩
  · rw [heq] at h
    cases h

/-! ## Numbers that can be filled up to -/

/-- **What a run over a template may have in front of it**, whatever is on its stack. -/
inductive Place (template : List UInt8) : List UInt8 → Prop where
  /-- It starts with the whole template. -/
  | start : Place template template
  /-- It goes on behind a piece. -/
  | next {b : UInt8} {rest : List UInt8} (st : State) :
    Place template (b :: rest) → Place template ((piece b rest).1.next st (piece b rest).2)

/-- **A template whose widths and precisions can all be filled up to.** Only conversions have
them, and only where a run may come to. -/
def Moderate (template : List UInt8) : Prop :=
  ∀ ⦃b : UInt8⦄ ⦃rest left : List UInt8⦄ ⦃c : Conversion⦄, Place template (0x25 :: b :: rest) →
    Format.opens b = true →
      (Conversion.readCounts (b :: rest)).1.readLetter? (Conversion.readCounts (b :: rest)).2
          = some (c, left) →
        c.width ≤ Conversion.greatestFill ∧ c.precision.getD 0 ≤ Conversion.greatestFill

/-- A letter leaves the counts as they are. -/
theorem Conversion.counts_of_readLetter? {c d : Conversion} {bytes left : List UInt8}
    (h : c.readLetter? bytes = some (d, left)) : d.width = c.width ∧ d.precision = c.precision := by
  cases bytes with
  | nil => simp [readLetter?] at h
  | cons b bytes =>
    obtain ⟨letter, -, heq⟩ := Option.map_eq_some_iff.1 h
    cases heq
    exact ⟨rfl, rfl⟩

theorem Cursor.exists_readLetter?_of_not {b : UInt8} {rest : List UInt8}
    (h : ¬ LacksLetter b rest) :
    ∃ c left, (Conversion.readCounts (b :: rest)).1.readLetter?
      (Conversion.readCounts (b :: rest)).2 = some (c, left) := by
  unfold LacksLetter at h
  cases hrest : (Conversion.readCounts (b :: rest)).2 with
  | nil =>
    rw [hrest] at h
    exact absurd rfl h
  | cons l left =>
    rw [hrest, List.head?_cons, Option.bind_some] at h
    obtain ⟨letter, hletter⟩ := Option.ne_none_iff_exists'.1 h
    rw [Conversion.readLetter?, hletter]
    exact ⟨_, _, rfl⟩

/-- What can be filled up to can be read. -/
theorem Conversion.isReadable_of_le {c : Conversion} (hwidth : c.width ≤ greatestFill)
    (hprecision : c.precision.getD 0 ≤ greatestFill) : c.isReadable = true := by
  have hle : greatestFill ≤ greatestCount := by decide
  simp [isReadable, Nat.le_trans hwidth hle, Nat.le_trans hprecision hle]

namespace Moderate

variable {template rest : List UInt8} {b : UInt8}

/-- Conversions can be filled up to. -/
theorem width_le (h : Moderate template) (hplace : Place template (b :: rest)) {c : Conversion}
    (hop : (piece b rest).1 = .convert c) : c.width ≤ Conversion.greatestFill := by
  obtain ⟨d, left, end', rfl, rfl, hopens, hletter⟩ := of_piece_eq_convert hop
  exact (h hplace hopens hletter).1

/-- Counts that cannot be read belong to unknown operators. -/
theorem lacksLetter (h : Moderate template) (hplace : Place template (b :: rest))
    (hop : (piece b rest).1 = .unreadable) :
    ∀ c left, rest = c :: left → Cursor.LacksLetter c left := by
  obtain ⟨d, left, rfl, rfl, hopens, hreadable, -⟩ := of_piece_eq_unreadable hop
  rintro _ _ ⟨⟩
  refine Classical.byContradiction fun hletter => ?_
  obtain ⟨c, end', hread⟩ := Cursor.exists_readLetter?_of_not hletter
  have hle := h hplace hopens hread
  -- the letter would complete a conversion with counts of 16 bits, which can be read
  rw [(Conversion.counts_of_readLetter? hread).1, (Conversion.counts_of_readLetter? hread).2] at hle
  rw [Conversion.isReadable_of_le hle.1 hle.2] at hreadable
  cases hreadable

end Moderate

namespace Cursor

variable {template : List UInt8} {bytes : Array UInt8} {i : Nat} {b : UInt8} {rest : List UInt8}

/-! ## Small numbers

That every run of digits in a template spells a number of 16 bits, wherever it is cut, is more
than is asked for, and can be seen from the text. -/

/-- What follows a piece lies ahead of a position. -/
theorem exists_ahead_piece (h : ahead bytes i = b :: rest) :
    ∃ j, ahead bytes j = (piece b rest).2 := by
  by_cases hop : (piece b rest).1 = .unreadable
  · obtain ⟨d, left, -, rfl, -, -, hleft⟩ := of_piece_eq_unreadable hop
    exact ⟨i + 1 + 1, ((of_ahead_cons (of_ahead_cons h).2.2).2.2).trans hleft.symm⟩
  · obtain ⟨j, -, hj⟩ := (pieceAt_reads .checked h).readable hop
    exact ⟨j, hj⟩

/-- So does what the run goes on with. -/
theorem exists_ahead_next (bytes : Array UInt8) (op : Op) (st : State) (i : Nat) :
    ∃ j, ahead bytes j = op.next st (ahead bytes i) := by
  unfold Op.next
  split
  · split
    · obtain ⟨j, -, hj⟩ := branchEnd_eq bytes true 0 i
      exact ⟨j, hj⟩
    · exact ⟨i, rfl⟩
  · obtain ⟨j, -, hj⟩ := branchEnd_eq bytes false 0 i
    exact ⟨j, hj⟩
  · exact ⟨i, rfl⟩

/-- What a run may have in front of it lies ahead of a position. -/
theorem exists_ahead_of_place {text : List UInt8} (h : Place template text) :
    ∃ i, ahead template.toArray i = text := by
  induction h with
  | start => exact ⟨0, rfl⟩
  | next st _ ih =>
    obtain ⟨i, hi⟩ := ih
    obtain ⟨j, hj⟩ := exists_ahead_piece hi
    exact hj ▸ exists_ahead_next _ _ st j

/-- The width and the precision of a conversion are numbers that start at a position each. -/
theorem exists_ahead_counts (bytes : Array UInt8) (i : Nat) :
    ∃ j k, (Conversion.readCounts (ahead bytes i)).1.width
          = (Conversion.readCount 0 (ahead bytes j)).1
        ∧ (Conversion.readCounts (ahead bytes i)).1.precision.getD 0
          ≤ (Conversion.readCount 0 (ahead bytes k)).1 := by
  obtain ⟨j, -, hj⟩ := flagsAt_yields bytes {} (if bytes[i]? = some 0x3a then i + 1 else i)
  rw [ahead_skip, ← skipColon_eq] at hj
  obtain ⟨_, k, -, hk⟩ := (countAt_reads .wrapping bytes (Nat.zero_le _) j).wrapping rfl
  refine ⟨j, k + 1, ?_, ?_⟩
  · rw [hj]
    rfl
  · show (Conversion.readPrecision (Conversion.readCount 0 (({} : Conversion).readFlags
      (Conversion.skipColon (ahead bytes i))).2).2).1.getD 0 ≤ _
    rw [← hj]
    dsimp only at hk
    rw [← hk]
    cases h : ahead bytes k with
    | nil => exact Nat.zero_le _
    | cons b rest =>
      rw [(of_ahead_cons h).2.2, Conversion.readPrecision]
      split
      · exact Nat.le_refl _
      · exact Nat.zero_le _

/-- **A template without great numbers is moderate.** -/
theorem moderate_of_readCount
    (h : ∀ i < template.length,
      (Conversion.readCount 0 (template.drop i)).1 ≤ Conversion.greatestFill) :
    Moderate template := by
  have hle : ∀ i,
      (Conversion.readCount 0 (ahead template.toArray i)).1 ≤ Conversion.greatestFill := by
    intro i
    by_cases hi : i < template.length
    · exact h i hi
    · have hnil : ahead template.toArray i = [] := List.drop_eq_nil_of_le (Nat.not_lt.1 hi)
      rw [hnil]
      exact Nat.zero_le _
  intro b rest left c hplace _ hletter
  obtain ⟨i, hi⟩ := exists_ahead_of_place hplace
  obtain ⟨j, k, hwidth, hprecision⟩ := exists_ahead_counts template.toArray (i + 1)
  rw [(of_ahead_cons hi).2.2] at hwidth hprecision
  rw [(Conversion.counts_of_readLetter? hletter).1, (Conversion.counts_of_readLetter? hletter).2]
  exact ⟨hwidth ▸ hle j, Nat.le_trans hprecision (hle k)⟩

end Cursor

end Teletype.Template
