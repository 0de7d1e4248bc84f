import Mathlib.Data.Nat.Bitwise
import Teletype.Console.MouseRecord
import Teletype.Proofs.Report.Field

/-!
# Mouse records read back as events

A console tells of the mouse in records, a terminal in reports, and a program reads events. A
record says which buttons are held; a report has one number for the button, for motion, for the
wheel and for the keys held; and an event says what happened to which button, for which the
event before has to be known. `MouseRecord.event` goes from a record to its event directly. The
report of a record is read back as that event (`MouseRecord.read_report`).

The number of a report keeps what goes into it apart: two bits for the button, three for the
keys, one for motion and one for the wheel. Its two ends agree on each of them, which is a
matter of few cases, whatever the record (`MouseRecord.action_code`,
`MouseRecord.modifiersOf_code`).
-/

namespace Teletype

/-- Whether an event leaves a button held: it is a press or a drag of that button. -/
def MouseEvent.holds (e : MouseEvent) (b : MouseButton) : Bool := e.isHeld && e.button == b

namespace MouseRecord

variable {r : MouseRecord} {tracking : Tracking} {bytes : List UInt8}

/-! ## The event of a record -/

/-- How far the wheel was turned, to the user if negative. -/
def wheelDelta (r : MouseRecord) : Int16 := (r.buttons >>> 16).toUInt16.toInt16

/-- The buttons of a mouse, left, middle and right, each with the bit by which a console tells
that it is held. -/
def buttonBits : List (MouseButton × Nat) := [(.first, 0), (.second, 2), (.third, 1)]

/-- **The first button held**, from left to right. -/
def firstHeld? (r : MouseRecord) : Option MouseButton :=
  (buttonBits.find? fun p => r.buttons.toNat.testBit p.2).map Prod.fst

/-- **What happened to which button.** A button that is held has been pressed, unless it was
moved or was held before; when none is held, the one that was held before has been let go. -/
def happened (r : MouseRecord) (last : MouseEvent) : MouseKind × MouseButton :=
  if r.isWheel then (.wheel, if r.wheelDelta < 0 then .wheelDown else .wheelUp)
  else
    match r.firstHeld? with
    | some b => (if r.isMoved || last.holds b then .dragged else .pressed, b)
    | none => if last.isHeld then (.released, last.button) else (.moved, .none)

/-- **The event of a record**, given the event before. -/
def event (r : MouseRecord) (last : MouseEvent) : MouseEvent where
  kind := (r.happened last).1
  button := (r.happened last).2
  modifiers := HeldKeys.modifiers r.held
  x := max r.x.toInt 0
  y := max r.y.toInt 0

/-! ## What a record says of the buttons -/

/-- A bit of a word is set if the mask of that bit leaves something. -/
theorem and_two_pow_bne_zero (w : UInt32) {i : Nat} (hi : i < 32) :
    (w &&& UInt32.ofNat (2 ^ i) != 0) = w.toNat.testBit i := by
  have hpow : 2 ^ i < 2 ^ 32 := Nat.pow_lt_pow_right (by decide) hi
  rw [Bool.eq_iff_iff, bne_iff_ne, ne_eq, ← UInt32.toNat_inj, UInt32.toNat_and,
    UInt32.toNat_ofNat', Nat.mod_eq_of_lt hpow, Nat.and_two_pow]
  cases w.toNat.testBit i <;> simp

/-- A button is among those held if its bit is set in the lower half of the word. -/
theorem pressed_and_bne_zero (r : MouseRecord) {i : Nat} (hi : i < 16) :
    (r.pressed &&& UInt32.ofNat (2 ^ i) != 0) = r.buttons.toNat.testBit i := by
  have hlow : (0xffff : UInt32) &&& UInt32.ofNat (2 ^ i) = UInt32.ofNat (2 ^ i) := by
    revert i
    decide
  rw [pressed, UInt32.and_assoc, hlow, and_two_pow_bne_zero _ (by omega)]

/-- **The sign of the wheel** is the uppermost bit of the word. -/
theorem wheelDelta_neg_iff (r : MouseRecord) :
    r.wheelDelta < 0 ↔ r.buttons.toNat.testBit 31 = true := by
  rw [wheelDelta, Int16.lt_iff_toBitVec_slt, Int16.toBitVec_zero, BitVec.slt_zero_eq_msb,
    BitVec.msb_eq_getLsbD_last, UInt16.toBitVec_toInt16, UInt32.toBitVec_toUInt16,
    BitVec.getLsbD_setWidth, UInt32.toBitVec_shiftRight, BitVec.ushiftRight_eq',
    BitVec.getLsbD_ushiftRight]
  rfl

/-- The number of a button in a report, or of none. -/
def numberOf : Option MouseButton → Nat
  | some .first => 0
  | some .second => 1
  | some .third => 2
  | _ => 3

/-- The number of a wheel that was turned. -/
theorem buttonCode_of_wheel (h : r.isWheel = true) :
    r.buttonCode = 64 + (decide (r.wheelDelta < 0)).toNat := by
  have hsign : (r.buttons &&& 0x80000000 != 0) = decide (r.wheelDelta < 0) := by
    rw [show (0x80000000 : UInt32) = UInt32.ofNat (2 ^ 31) from rfl,
      and_two_pow_bne_zero _ (by decide), Bool.eq_iff_iff, decide_eq_true_iff, wheelDelta_neg_iff]
  rw [buttonCode, if_pos h, hsign]
  cases decide (r.wheelDelta < 0) <;> rfl

/-- Otherwise it is that of the first button held. -/
theorem buttonCode_of_not_wheel (h : r.isWheel = false) :
    r.buttonCode = numberOf r.firstHeld? := by
  have hbit : ∀ i < 16, (r.pressed &&& UInt32.ofNat (2 ^ i) != 0) = r.buttons.toNat.testBit i :=
    fun i hi => r.pressed_and_bne_zero hi
  have hleft : (r.pressed &&& 0x01 != 0) = r.buttons.toNat.testBit 0 := hbit 0 (by decide)
  have hmiddle : (r.pressed &&& 0x04 != 0) = r.buttons.toNat.testBit 2 := hbit 2 (by decide)
  have hright : (r.pressed &&& 0x02 != 0) = r.buttons.toNat.testBit 1 := hbit 1 (by decide)
  rw [buttonCode, h, hleft, hmiddle, hright, firstHeld?, buttonBits]
  cases hl : r.buttons.toNat.testBit 0 <;> cases hm : r.buttons.toNat.testBit 2 <;>
    cases hr : r.buttons.toNat.testBit 1 <;> simp [hl, hm, hr, numberOf]

theorem firstHeld?_eq_some {b : MouseButton} (h : r.firstHeld? = some b) :
    b = .first ∨ b = .second ∨ b = .third := by
  obtain ⟨⟨_, i⟩, hfind, rfl⟩ := Option.map_eq_some_iff.1 h
  have hmem := List.mem_of_find?_eq_some hfind
  simp only [buttonBits, List.mem_cons, Prod.mk.injEq, List.not_mem_nil, or_false] at hmem
  exact hmem.imp And.left (Or.imp And.left And.left)

/-! ## The number of a report -/

/-- **What goes into a number stays apart**: a small number for the button, the wheel, motion,
and the keys held. -/
theorem testBit_number (low : Nat) (hlow : low < 4) (wheel motion : Bool) (m : Modifiers) :
    let code := low + 64 * wheel.toNat + 32 * motion.toNat + 4 * m.bits
    code.testBit 6 = wheel ∧ code.testBit 5 = motion ∧ code.testBit 0 = low.testBit 0
      ∧ code % 4 = low ∧ MouseEvent.modifiersOf code = m ∧ code < 128 := by
  obtain ⟨shift, alt, control⟩ := m
  revert low wheel motion shift alt control
  decide

/-- The two bits of a number that are for the button, or for the sign of the wheel. -/
def lowBits (r : MouseRecord) : Nat :=
  if r.isWheel then (decide (r.wheelDelta < 0)).toNat else numberOf r.firstHeld?

theorem lowBits_lt (r : MouseRecord) : r.lowBits < 4 := by
  unfold lowBits
  split
  · cases decide (r.wheelDelta < 0) <;> decide
  · unfold numberOf
    split <;> decide

/-- The number of a record, by what goes into it. A wheel that is turned does not count as
moved. -/
theorem code_eq (r : MouseRecord) :
    r.code = r.lowBits + 64 * r.isWheel.toNat + 32 * (r.isMoved && !r.isWheel).toNat
      + 4 * (HeldKeys.modifiers r.held).bits := by
  rw [code, lowBits]
  cases h : r.isWheel with
  | true =>
    rw [buttonCode_of_wheel h, if_pos rfl, Bool.not_true, Bool.and_false]
    simp only [Bool.false_eq_true, if_false, Bool.toNat_true, Bool.toNat_false]
    omega
  | false =>
    rw [buttonCode_of_not_wheel h, if_neg Bool.false_ne_true, Bool.not_false, Bool.and_true]
    cases r.isMoved <;> rfl

theorem code_lt (r : MouseRecord) : r.code < 128 := by
  rw [code_eq]
  exact (testBit_number _ r.lowBits_lt _ _ _).2.2.2.2.2

/-- **The keys held are read back.** -/
theorem modifiersOf_code (r : MouseRecord) :
    MouseEvent.modifiersOf r.code = HeldKeys.modifiers r.held := by
  rw [code_eq]
  exact (testBit_number _ r.lowBits_lt _ _ _).2.2.2.2.1

/-- The button is read back, when there is no wheel. -/
theorem buttonOf_code (h : r.isWheel = false) :
    MouseEvent.buttonOf r.code = r.firstHeld?.getD .none := by
  have hmod : r.code % 4 = numberOf r.firstHeld? := by
    rw [code_eq, (testBit_number _ r.lowBits_lt _ _ _).2.2.2.1, lowBits, h]
    rfl
  rw [MouseEvent.buttonOf, hmod]
  cases hb : r.firstHeld? with
  | none => rfl
  | some b => rcases firstHeld?_eq_some hb with rfl | rfl | rfl <;> rfl

/-- **What happened is read back**, and to which button. -/
theorem action_code (r : MouseRecord) (last : MouseEvent) :
    MouseEvent.action r.code last = r.happened last := by
  obtain ⟨hwheel, hmotion, hsign, -, -, -⟩ := testBit_number _ r.lowBits_lt r.isWheel
    (r.isMoved && !r.isWheel) (HeldKeys.modifiers r.held)
  rw [← code_eq] at hwheel hmotion hsign
  rw [MouseEvent.action, happened, hwheel]
  cases h : r.isWheel with
  | true =>
    have hlow : r.lowBits.testBit 0 = decide (r.wheelDelta < 0) := by
      rw [lowBits, h, if_pos rfl]
      cases decide (r.wheelDelta < 0) <;> rfl
    rw [if_pos rfl, if_pos rfl, hsign, hlow]
    simp only [decide_eq_true_eq]
  | false =>
    rw [h, Bool.not_false, Bool.and_true] at hmotion
    rw [if_neg Bool.false_ne_true, if_neg Bool.false_ne_true, buttonOf_code h, hmotion]
    cases hb : r.firstHeld? with
    | none => rfl
    | some b =>
      have hholds : (last.button == b && last.isHeld) = last.holds b := Bool.and_comm ..
      rcases firstHeld?_eq_some hb with rfl | rfl | rfl <;>
        simp only [Option.getD_some, hholds] <;> split <;> rfl

/-! ## The report of a record -/

/-- A number that a report can hold is that of a character. -/
theorem toNat_ofNat_of_lt {n : Nat} (h : n < 0xd800) : (Char.ofNat n).toNat = n :=
  MouseReport.toNat_ofNat_of_isValidChar (.inl h)

/-- **The report of a record is read back as the event of the record**, with whatever event
before and whatever follows: the three bytes that announce a report, and then just those that
one reading takes. -/
theorem read_report (h : r.report? tracking = some bytes) (last : MouseEvent)
    (rest : List UInt8) (failure : Option TerminalError) :
    ∃ body, bytes = [0x1b, 0x5b, 0x4d] ++ body
      ∧ (MouseReport.read Supply.next last).runOn ⟨body ++ rest, failure⟩
          = (.ok (some (r.event last)), ⟨rest, failure⟩) := by
  rw [report?] at h
  split at h
  · refine ⟨Text.utf8 [Char.ofNat (32 + r.code), Char.ofNat (33 + r.x.toInt.toNat),
      Char.ofNat (33 + r.y.toInt.toNat)], (Option.some.inj h).symm, ?_⟩
    have hx : r.x.toInt < 2 ^ 15 := r.x.toInt_lt
    have hy : r.y.toInt < 2 ^ 15 := r.y.toInt_lt
    have hcode := r.code_lt
    rw [MouseReport.runOn_read, toNat_ofNat_of_lt (by omega), toNat_ofNat_of_lt (by omega),
      toNat_ofNat_of_lt (by omega), Nat.add_sub_cancel_left, MouseEvent.decode, action_code,
      modifiersOf_code, event]
    congr 5 <;> omega
  · cases h

/-- The middle button dragged far to the right with Control held, as the bits of the record
say, after an event that left it held. -/
theorem read_report_dragged :
    let r : MouseRecord := ⟨1000, -3, 0x0006, 0x0001, 0x0008⟩
    let last : MouseEvent := { kind := .pressed, button := .second, x := 998 }
    r.report? .button = some [0x1b, 0x5b, 0x4d, 0x51, 0xd0, 0x89, 0x21]
      ∧ r.event last
        = { kind := .dragged, button := .second, modifiers := { control := true }, x := 1000 }
      ∧ ∃ body, [0x1b, 0x5b, 0x4d, 0x51, 0xd0, 0x89, 0x21] = [0x1b, 0x5b, 0x4d] ++ body
        ∧ (MouseReport.read Supply.next last).runOn ⟨body ++ [0x71], none⟩
            = (.ok (some (r.event last)), ⟨[0x71], none⟩) := by
  intro r last
  have hreport : r.report? .button = some [0x1b, 0x5b, 0x4d, 0x51, 0xd0, 0x89, 0x21] := by
    decide
  exact ⟨hreport, by decide, read_report hreport last [0x71] none⟩

end MouseRecord

end Teletype
