import Teletype.Proofs.Report.Field
import Teletype.Proofs.Text

/-!
# Mouse reports in decimal

A terminal has two ways to report what the mouse does. One is three characters, and the number
of each is 32 more than what it means; coordinates count from one. The other is three numerals
and a letter. What the numbers mean is the same, so the same event is read from both
(`MouseReport.decimal?_eq_read`).

They differ in how a button is let go. Three characters say only that no button is held any
more, by the number that stands for none, and which one it was is known from the event before.
The letter `m` says it too, but with the number of the button. So both say the same of a button
that the event before left held (`MouseReport.releaseOf_eq_decode`).
-/

namespace Teletype.MouseReport

open Text

/-! ## Reading three numerals -/

/-- **A report in decimal**: three numerals with semicolons between them, and a letter. -/
def decimalReport (code x y : Nat) (letter : UInt8) : List UInt8 :=
  utf8 (decimal code) ++ 0x3b :: (utf8 (decimal x) ++ 0x3b :: utf8 (decimal y)) ++ [letter]

theorem pieces_of_not_mem {bytes : List UInt8} (h : 0x3b ∉ bytes) : pieces bytes = [bytes] := by
  induction bytes with
  | nil => rfl
  | cons b bytes ih =>
    obtain ⟨hb, hbytes⟩ := not_or.1 (mt List.mem_cons.2 h)
    rw [pieces, if_neg (by simpa using Ne.symm hb), ih hbytes]

/-- A semicolon ends a piece. -/
theorem pieces_append {bytes : List UInt8} (h : 0x3b ∉ bytes) (rest : List UInt8) :
    pieces (bytes ++ 0x3b :: rest) = bytes :: pieces rest := by
  induction bytes with
  | nil => rfl
  | cons b bytes ih =>
    obtain ⟨hb, hbytes⟩ := not_or.1 (mt List.mem_cons.2 h)
    rw [List.cons_append, pieces, if_neg (by simpa using Ne.symm hb), ih hbytes]

/-- The bytes of a numeral are its digits. -/
theorem utf8_decimal (n : Nat) :
    utf8 (decimal n) = (decimal n).map fun c => UInt8.ofNat c.toNat :=
  utf8_of_ascii fun c hc => by
    have hdigit := toNat_of_isDigit (isDigit_of_mem_decimal hc)
    omega

/-- So no semicolon is among them. -/
theorem semicolon_notMem_utf8_decimal (n : Nat) : 0x3b ∉ utf8 (decimal n) := by
  rw [utf8_decimal, List.mem_map]
  rintro ⟨c, hc, heq⟩
  have hdigit := toNat_of_isDigit (isDigit_of_mem_decimal hc)
  have hnat := congrArg UInt8.toNat heq
  rw [UInt8.toNat_ofNat', show (0x3b : UInt8).toNat = 59 from rfl] at hnat
  omega

/-- **A numeral in a report is read as its number.** -/
theorem number?_utf8_decimal {n : Nat} (h : n ≤ 9223372036854775807) :
    number? (utf8 (decimal n)) = some (n : Int) := by
  have hchar : ∀ c ∈ decimal n, Char.ofNat (UInt8.ofNat c.toNat).toNat = c := fun c hc => by
    have hdigit := toNat_of_isDigit (isDigit_of_mem_decimal hc)
    rw [UInt8.toNat_ofNat', Nat.mod_eq_of_lt (by omega), Char.ofNat_toNat]
  have hchars : (utf8 (decimal n)).map (fun b => Char.ofNat b.toNat) = decimal n := by
    rw [utf8_decimal, List.map_map]
    exact (List.map_congr_left hchar).trans (List.map_id _)
  rw [number?, hchars, int64?_decimal h]

/-- **The parts of a report in decimal** are the three numbers and the letter. -/
theorem parts?_decimalReport {code x y : Nat} {letter : UInt8}
    (hcode : code ≤ 9223372036854775807) (hx : x ≤ 9223372036854775807)
    (hy : y ≤ 9223372036854775807) (hletter : letter = 0x4d ∨ letter = 0x6d) :
    parts? (decimalReport code x y letter) = some (code, (x : Int), (y : Int), letter) := by
  have hpieces : pieces (decimalReport code x y letter).dropLast
      = [utf8 (decimal code), utf8 (decimal x), utf8 (decimal y)] := by
    rw [decimalReport, List.dropLast_concat, pieces_append (semicolon_notMem_utf8_decimal code),
      pieces_append (semicolon_notMem_utf8_decimal x),
      pieces_of_not_mem (semicolon_notMem_utf8_decimal y)]
  have hlast : (decimalReport code x y letter).getLast? = some letter := List.getLast?_concat
  have hknown : (letter != 0x4d && letter != 0x6d) = false := by
    rcases hletter with rfl | rfl <;> rfl
  rw [parts?, hlast, Option.bind_eq_bind, Option.bind_some, hknown, if_neg Bool.false_ne_true,
    hpieces]
  simp [number?_utf8_decimal, hcode, hx, hy]

/-- A coordinate counts from one, and in a report of reasonable size does not wrap around. -/
theorem coordinate?_of_lt {n : Nat} (h : n < 2147483648) :
    coordinate? (n : Int) = some ((n : Int) - 1) := by
  have hleast : (n : Int) ≠ Int64.minValue.toInt := by
    show (n : Int) ≠ -9223372036854775808
    omega
  rw [coordinate?, if_neg hleast, Int.bmod_eq_of_le (by omega) (by omega)]

/-- **The event of a report in decimal** is that of its letter, its code and its place. -/
theorem decimal?_decimalReport {code x y : Nat} {letter : UInt8} (hcode : code < 2147483648)
    (hx : x < 2147483648) (hy : y < 2147483648) (hletter : letter = 0x4d ∨ letter = 0x6d)
    (last : MouseEvent) :
    decimal? (decimalReport code x y letter) last
      = some (some (eventOf letter code (x - 1) (y - 1) last)) := by
  rw [decimal?, parts?_decimalReport (by omega) (by omega) (by omega) hletter, Option.map_some]
  simp only [coordinate?_of_lt hx, coordinate?_of_lt hy, Option.bind_eq_bind, Option.bind_some,
    Option.pure_def]

/-! ## Reading three characters -/

/-- **A report in three characters**, each 32 more than what it means. -/
def characterReport (code x y : Nat) : List UInt8 :=
  utf8 [Char.ofNat (code + 32), Char.ofNat (x + 32), Char.ofNat (y + 32)]

/-- **A report in three characters is read as the event of its code and its place**, and
nothing behind it is touched. -/
theorem runOn_read_characterReport {code x y : Nat} (hcode : (code + 32).isValidChar)
    (hx : (x + 32).isValidChar) (hy : (y + 32).isValidChar) (rest : List UInt8)
    (failure : Option TerminalError) (last : MouseEvent) :
    (read Supply.next last).runOn ⟨characterReport code x y ++ rest, failure⟩
      = (.ok (some (MouseEvent.decode code (x - 1) (y - 1) last)), ⟨rest, failure⟩) := by
  rw [characterReport, runOn_read, toNat_ofNat_of_isValidChar hcode,
    toNat_ofNat_of_isValidChar hx, toNat_ofNat_of_isValidChar hy, Nat.add_sub_cancel]
  congr 4 <;> omega

/-! ## Both alike -/

/-- The number of no button, with the other bits as they are. -/
theorem or_three (code : Nat) : code ||| 3 = 4 * (code / 4) + 3 := by
  have hdiv : (code ||| 3) / 2 ^ 2 = code / 2 ^ 2 ||| 3 / 2 ^ 2 := Nat.or_div_two_pow
  have hmod : (code ||| 3) % 2 ^ 2 = code % 2 ^ 2 ||| 3 % 2 ^ 2 := Nat.or_mod_two_pow
  have hlow : ∀ low < 4, low ||| 3 = 3 := by decide
  rw [show 3 / 2 ^ 2 = 0 from rfl, Nat.or_zero] at hdiv
  rw [show 3 % 2 ^ 2 = 3 from rfl, hlow (code % 2 ^ 2) (Nat.mod_lt code (by decide))] at hmod
  omega

/-- What can be reported of a button can be reported of none. -/
theorem isValidChar_or_three {code : Nat} (h : (code + 32).isValidChar) :
    ((code ||| 3) + 32).isValidChar := by
  unfold Nat.isValidChar at h ⊢
  rw [or_three]
  omega

theorem testBit_or_three {i : Nat} (h : 2 ≤ i) (code : Nat) :
    (code ||| 3).testBit i = code.testBit i := by
  have hthree : (3 : Nat).testBit i = false :=
    Nat.testBit_lt_two_pow (Nat.lt_of_lt_of_le (by decide) (Nat.pow_le_pow_right (by decide) h))
  rw [Nat.testBit_or, hthree, Bool.or_false]

/-- **Letting go is said alike** by naming the button and by naming none, if the event before
left that button held. -/
theorem releaseOf_eq_decode {code : Nat} {last : MouseEvent} (hwheel : code.testBit 6 = false)
    (hheld : last.isHeld = true) (hlast : last.button = MouseEvent.buttonOf code) (x y : Int) :
    releaseOf code x y last = MouseEvent.decode (code ||| 3) x y last := by
  have hnone : MouseEvent.buttonOf (code ||| 3) = .none := by
    rw [MouseEvent.buttonOf, or_three, show (4 * (code / 4) + 3) % 4 = 3 by omega]
    rfl
  have haction : MouseEvent.action (code ||| 3) last = (.released, last.button) := by
    rw [MouseEvent.action, testBit_or_three (by decide), hwheel, if_neg Bool.false_ne_true, hnone]
    dsimp only
    rw [if_pos hheld]
  rw [releaseOf, MouseEvent.decode, haction, hlast]
  -- the letter brings the same button along
  cases MouseEvent.buttonOf code <;> rfl

/-- **A report in decimal and one in three characters are read alike.** The same numbers give
the same event, of which the reader of characters takes just their bytes. And so they do for a
button that is let go, if the event before left it held: then one names the button and the
other names none. -/
theorem decimal?_eq_read {code x y : Nat} (hcode : (code + 32).isValidChar)
    (hx : (x + 32).isValidChar) (hy : (y + 32).isValidChar) (last : MouseEvent)
    (rest : List UInt8) (failure : Option TerminalError) :
    (∃ e, decimal? (decimalReport code x y 0x4d) last = some (some e)
        ∧ (read Supply.next last).runOn ⟨characterReport code x y ++ rest, failure⟩
            = (.ok (some e), ⟨rest, failure⟩))
      ∧ (code.testBit 6 = false → last.isHeld = true → last.button = MouseEvent.buttonOf code →
          ∃ e, decimal? (decimalReport code x y 0x6d) last = some (some e)
            ∧ (read Supply.next last).runOn ⟨characterReport (code ||| 3) x y ++ rest, failure⟩
                = (.ok (some e), ⟨rest, failure⟩)) := by
  have hsmall : ∀ {n : Nat}, (n + 32).isValidChar → n < 2147483648 := fun h => by
    unfold Nat.isValidChar at h
    omega
  refine ⟨⟨MouseEvent.decode code (x - 1) (y - 1) last, ?_, ?_⟩,
    fun hwheel hheld hlast =>
      ⟨MouseEvent.decode (code ||| 3) (x - 1) (y - 1) last, ?_, ?_⟩⟩
  · rw [decimal?_decimalReport (hsmall hcode) (hsmall hx) (hsmall hy) (.inl rfl)]
    rfl
  · exact runOn_read_characterReport hcode hx hy rest failure last
  · rw [decimal?_decimalReport (hsmall hcode) (hsmall hx) (hsmall hy) (.inr rfl), eventOf, hwheel,
      ← releaseOf_eq_decode hwheel hheld hlast]
    rfl
  · exact runOn_read_characterReport (isValidChar_or_three hcode) hx hy rest failure last

/-- The middle button with Shift and Control, far to the right in the first row, in four bytes;
and let go there, by its number and by that of none. -/
theorem decimal?_eq_read_farRight :
    let last : MouseEvent := { kind := .dragged, button := .second, x := 8 }
    decimalReport 21 1000000 1 0x6d
        = [0x32, 0x31, 0x3b, 0x31, 0x30, 0x30, 0x30, 0x30, 0x30, 0x30, 0x3b, 0x31, 0x6d]
      ∧ characterReport 23 1000000 1 = [0x37, 0xf3, 0xb4, 0x89, 0xa0, 0x21]
      ∧ (∃ e, decimal? (decimalReport 21 1000000 1 0x4d) last = some (some e)
          ∧ (read Supply.next last).runOn ⟨characterReport 21 1000000 1 ++ [0x71], none⟩
              = (.ok (some e), ⟨[0x71], none⟩))
      ∧ ∃ e, decimal? (decimalReport 21 1000000 1 0x6d) last = some (some e)
          ∧ (read Supply.next last).runOn ⟨characterReport 23 1000000 1 ++ [0x71], none⟩
              = (.ok (some e), ⟨[0x71], none⟩) := by
  intro last
  have hcode : (21 + 32).isValidChar := by decide
  have hx : (1000000 + 32).isValidChar := by decide
  have hy : (1 + 32).isValidChar := by decide
  have hboth := decimal?_eq_read hcode hx hy last [0x71] none
  exact ⟨by decide, by decide, hboth.1, hboth.2 (by decide) (by decide) (by decide)⟩

end Teletype.MouseReport
