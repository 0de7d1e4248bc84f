import Teletype.Proofs.Report.Decimal
import Teletype.Proofs.Report.Reading
import Teletype.Proofs.Template.Tree

/-!
# A report rendered from its template

The template of a report is read in two ways. A terminal expands it like any other template,
with the row and the column as parameters, and that is the report. Who waits for the report
scans it once for literal bytes and for places of numbers, and reads the report by these. The
scan knows only a few of the operators. It takes for granted that the row comes first, and
that `%i` makes both numbers one greater, wherever it stands.

For templates in which this is so (`ReportTemplate`) each reading is followed piece by piece:
the expansion writes what the scan expects (`render?_eq`, `scan_text`). What is read then are the
two numerals (`fields?_report`), for no literal byte is a digit and there is one between the
numbers. So **the cursor comes back** (`cursor?_render?`).
-/

namespace Teletype

open Text

/-! ## Templates of reports -/

/-- **A literal** in the template of a report. -/
inductive Ink where
  /-- `\E` -/
  | escape
  /-- `%%` -/
  | percent
  /-- A byte that stands for itself and is no digit. -/
  | plain (b : UInt8) (literal : Template.isLiteral b = true)
      (digitless : ReportShape.isDigit b = false)

namespace Ink

/-- A literal as it is written. -/
def text : Ink → List UInt8
  | escape => [0x5c, 0x45]
  | percent => [0x25, 0x25]
  | plain b _ _ => [b]

/-- **The byte a literal stands for.** -/
def byte : Ink → UInt8
  | escape => 0x1b
  | percent => 0x25
  | plain b _ _ => b

theorem isDigit_byte (i : Ink) : ReportShape.isDigit i.byte = false := by
  cases i with
  | escape => rfl
  | percent => rfl
  | plain b literal digitless => exact digitless

end Ink

/-- **The template of a report**: the row, the column, and literals around them. -/
structure ReportTemplate where
  /-- What stands in front of the place of `%i`. -/
  opening : List Ink
  /-- Whether there is `%i`: the terminal counts from one. -/
  oneBased : Bool
  /-- What stands between there and the row. -/
  front : List Ink
  /-- What stands between the row and the column. -/
  between : List Ink
  /-- There is something there. -/
  between_ne_nil : between ≠ []
  /-- What stands behind the column. -/
  behind : List Ink

namespace ReportTemplate

/-- Literals as they are written. -/
def written (inks : List Ink) : List UInt8 := inks.flatMap Ink.text

/-- A parameter in decimal: `%p1%d`, `%p2%d`. -/
def numeral (digit : UInt8) : List UInt8 := [0x25, 0x70, digit, 0x25, 0x64]

/-- `%i`, if it is there. -/
def mark (oneBased : Bool) : List UInt8 := if oneBased then [0x25, 0x69] else []

/-- **A template as it is written.** -/
def text (t : ReportTemplate) : List UInt8 :=
  written t.opening ++ (mark t.oneBased ++ (written t.front
    ++ (numeral 0x31 ++ (written t.between ++ (numeral 0x32 ++ written t.behind)))))

/-- The number the terminal counts from. -/
def base (t : ReportTemplate) : Nat := if t.oneBased then 1 else 0

theorem base_le_one (t : ReportTemplate) : t.base ≤ 1 := by
  unfold base
  split <;> decide

/-- The bytes that literals stand for. -/
def bytes (inks : List Ink) : List UInt8 := inks.map Ink.byte

/-- **The report of two numbers.** -/
def report (t : ReportTemplate) (row column : Nat) : List UInt8 :=
  bytes t.opening ++ (bytes t.front
    ++ (utf8 (decimal row) ++ (bytes t.between ++ (utf8 (decimal column) ++ bytes t.behind))))

/-- The parts that literals are. -/
def literals (inks : List Ink) : List ReportPart := inks.map fun i => .literal i.byte

/-- **The shape of a report.** -/
def shape (t : ReportTemplate) : ReportShape where
  parts := literals t.opening ++ (literals t.front
    ++ (.number :: (literals t.between ++ (.number :: literals t.behind))))
  oneBased := t.oneBased

theorem written_cons_append (i : Ink) (inks : List Ink) (rest : List UInt8) :
    written (i :: inks) ++ rest = i.text ++ (written inks ++ rest) := by
  rw [written, List.flatMap_cons, List.append_assoc]
  rfl

/-! ## What the scan makes of a template -/

section

open ReportShape

variable {rest : List UInt8} {ps : List ReportPart} {one : Bool}

theorem scan_ink (h : scan rest = some (ps, one)) (i : Ink) :
    scan (i.text ++ rest) = some (.literal i.byte :: ps, one) := by
  cases i with
  | escape => exact congrArg (Option.map _) h
  | percent => exact congrArg (Option.map _) h
  | plain b literal digitless =>
    simp only [Template.isLiteral, Bool.and_eq_true, bne_iff_ne, ne_eq] at literal
    obtain ⟨⟨⟨hpercent, hbackslash⟩, -⟩, -⟩ := literal
    simp [Ink.text, Ink.byte, scan, hpercent, hbackslash, h]

theorem scan_written (h : scan rest = some (ps, one)) (inks : List Ink) :
    scan (written inks ++ rest) = some (literals inks ++ ps, one) := by
  induction inks with
  | nil => exact h
  | cons i inks ih =>
    rw [written_cons_append]
    exact scan_ink ih i

theorem scan_numeral (h : scan rest = some (ps, one)) (digit : UInt8) :
    scan (numeral digit ++ rest) = some (.number :: ps, one) :=
  congrArg (Option.map _) h

theorem scan_mark (h : scan rest = some (ps, false)) (oneBased : Bool) :
    scan (mark oneBased ++ rest) = some (ps, oneBased) := by
  cases oneBased with
  | false => exact h
  | true => exact congrArg (Option.map _) h

/-- **The scan of a template finds its shape.** -/
theorem scan_text (t : ReportTemplate) : scan t.text = some (t.shape.parts, t.shape.oneBased) := by
  have hbehind : scan (written t.behind) = some (literals t.behind, false) := by
    have h := scan_written (show scan [] = some ([], false) from rfl) t.behind
    rwa [List.append_nil, List.append_nil] at h
  have hcolumn := scan_numeral hbehind 0x32
  have hrow := scan_numeral (scan_written hcolumn t.between) 0x31
  exact scan_written (scan_mark (scan_written hrow t.front) t.oneBased) t.opening

theorem count_literals (inks : List Ink) : (literals inks).count .number = 0 := by
  simp [literals, List.count_eq_zero]

/-- **A template is accepted**, and describes its shape. -/
theorem ofTemplate?_eq {template : String} {t : ReportTemplate} (h : bytesOf template = t.text) :
    ofTemplate? template = some t.shape := by
  have hcount : t.shape.parts.count .number = 2 := by simp [shape, count_literals]
  rw [ofTemplate?, h, scan_text]
  exact if_pos hcount

end

/-! ## What the expansion writes -/

section

open Template

variable {st : State} {rest : List UInt8}

theorem run_ink (st : State) (i : Ink) (rest : List UInt8) :
    run st (i.text ++ rest) = run (st.write [i.byte]) rest := by
  cases i with
  | escape => exact run_of_piece (show piece 0x5c (0x45 :: rest) = (.emit 0x1b, rest) from rfl) st
  | percent => exact run_of_piece (show piece 0x25 (0x25 :: rest) = (.emit 0x25, rest) from rfl) st
  | plain b literal digitless => exact run_of_piece (Token.piece_literal literal rest) st

theorem write_write (st : State) (xs ys : List UInt8) :
    (st.write xs).write ys = st.write (xs ++ ys) := by
  rw [State.write, State.write, State.write, List.append_assoc]

theorem run_written (st : State) (inks : List Ink) (rest : List UInt8) :
    run st (written inks ++ rest) = run (st.write (bytes inks)) rest := by
  induction inks generalizing st with
  | nil => exact congrArg (run · rest) (by rw [bytes, List.map_nil, State.write, List.append_nil])
  | cons i inks ih =>
    rw [written_cons_append, run_ink, ih, write_write]
    rfl

/-- **A number in decimal** is its numeral. -/
theorem render?_decimal {n : Nat} (h : n < 2 ^ 63) :
    Conversion.render? {} (.int (Int64.ofNat n)) = some (decimal n) := by
  have hint : (Int64.ofNat n).toInt = n := Int64.toInt_ofNat_of_lt h
  have hsign : ¬ Int64.ofNat n < 0 := by
    rw [Int64.lt_iff_toInt_lt, hint]
    exact Int.not_lt.2 (Int.natCast_nonneg n)
  simp [Conversion.render?, Conversion.body, Conversion.number, Conversion.sign, hsign,
    Conversion.baseMark, Conversion.digits, Conversion.zeroFill, Conversion.pad?, hint, decimal]

theorem run_numeral {i : Fin 9} {n : Nat} (hparam : st.params i = .int (Int64.ofNat n))
    (h : n < 2 ^ 63) {digit : UInt8} (hdigit : digit = 0x31 + UInt8.ofNat i) (rest : List UInt8) :
    run st (numeral digit ++ rest) = run (st.write (utf8 (decimal n))) rest := by
  have hpush : (Token.parameter i).op.exec? st = some (st.push (.int (Int64.ofNat n))) :=
    congrArg (fun v => some (st.push v)) hparam
  have hconvert : (Op.convert {}).exec? (st.push (.int (Int64.ofNat n)))
      = some (st.write (utf8 (decimal n))) := by
    have htop : (st.push (.int (Int64.ofNat n))).top = .int (Int64.ofNat n) := rfl
    rw [Op.exec?, htop, render?_decimal h]
    rfl
  have htext : numeral digit ++ rest = (Token.parameter i).text ++ 0x25 :: 0x64 :: rest := by
    rw [hdigit]
    rfl
  rw [htext, Token.run_text, hpush]
  refine (run_of_piece (show piece 0x25 (0x64 :: rest) = (.convert {}, rest) from rfl) _).trans ?_
  rw [hconvert]
  rfl

/-- A number that is not the greatest has a successor. -/
theorem succ?_ofNat {n : Nat} (h : n + 1 < 2 ^ 63) :
    (Param.int (Int64.ofNat n)).succ? = some (.int (Int64.ofNat (n + 1))) := by
  have hne : Int64.ofNat n ≠ Int64.maxValue := by
    intro heq
    have hint := congrArg Int64.toInt heq
    rw [Int64.toInt_ofNat_of_lt (Nat.lt_of_succ_lt h)] at hint
    have hmax : Int64.maxValue.toInt = 2 ^ 63 - 1 := rfl
    omega
  rw [Param.succ?, if_neg hne, Int64.ofNat_add]
  rfl

/-- **The first two parameters of a run** are two numbers. -/
structure Counts (st : State) (row column : Nat) : Prop where
  row : st.params 0 = .int (Int64.ofNat row)
  column : st.params 1 = .int (Int64.ofNat column)

theorem Counts.write {row column : Nat} (h : Counts st row column) (xs : List UInt8) :
    Counts (st.write xs) row column :=
  ⟨h.row, h.column⟩

theorem Counts.run_row {row column : Nat} (h : Counts st row column) (hrow : row < 2 ^ 63)
    (rest : List UInt8) :
    run st (numeral 0x31 ++ rest) = run (st.write (utf8 (decimal row))) rest :=
  run_numeral h.row hrow rfl rest

theorem Counts.run_column {row column : Nat} (h : Counts st row column)
    (hcolumn : column < 2 ^ 63) (rest : List UInt8) :
    run st (numeral 0x32 ++ rest) = run (st.write (utf8 (decimal column))) rest :=
  run_numeral h.column hcolumn rfl rest

/-- **Counting from one** makes both one greater. -/
theorem Counts.run_mark {row column : Nat} (h : Counts st row column) (hrow : row + 1 < 2 ^ 63)
    (hcolumn : column + 1 < 2 ^ 63) (t : ReportTemplate) (rest : List UInt8) :
    ∃ st', run st (mark t.oneBased ++ rest) = run st' rest
      ∧ Counts st' (row + t.base) (column + t.base) ∧ st'.out = st.out := by
  unfold mark base
  cases t.oneBased with
  | false => exact ⟨st, rfl, h, rfl⟩
  | true =>
    let params : Fin 9 → Param := fun i =>
      if i = 0 then .int (Int64.ofNat (row + 1))
      else if i = 1 then .int (Int64.ofNat (column + 1)) else st.params i
    have hexec : Op.oneBased.exec? st = some { st with params } := by
      rw [Op.exec?, State.countFromOne?, h.row, h.column, succ?_ofNat hrow, succ?_ofNat hcolumn]
      rfl
    refine ⟨{ st with params }, ?_, ⟨rfl, rfl⟩, rfl⟩
    refine (run_of_piece (show piece 0x25 (0x69 :: rest) = (.oneBased, rest) from rfl) st).trans ?_
    rw [hexec]
    rfl

end

/-- **The expansion of a template is the report** of its numbers. -/
theorem render?_eq {template : String} {t : ReportTemplate} (h : bytesOf template = t.text)
    {row column : Nat} (hrow : row + 1 < 2 ^ 63) (hcolumn : column + 1 < 2 ^ 63) :
    Template.render? template [.int (Int64.ofNat row), .int (Int64.ofNat column)]
      = some (t.report (row + t.base) (column + t.base)) := by
  let start := Template.State.start [.int (Int64.ofNat row), .int (Int64.ofNat column)]
  have hcounts : Counts start row column := ⟨rfl, rfl⟩
  obtain ⟨st, hmark, hcounted, hout⟩ := (hcounts.write _).run_mark hrow hcolumn t
    (written t.front
      ++ (numeral 0x31 ++ (written t.between ++ (numeral 0x32 ++ written t.behind))))
  have hbase := t.base_le_one
  have hbehind : ∀ st : Template.State,
      Template.run st (written t.behind) = some (st.write (bytes t.behind)) := by
    intro st
    have hrun := run_written st t.behind []
    rwa [List.append_nil, Template.run] at hrun
  have hrun : Template.run start t.text = some (st.write (bytes t.front
      ++ (utf8 (decimal (row + t.base)) ++ (bytes t.between
        ++ (utf8 (decimal (column + t.base)) ++ bytes t.behind))))) := by
    rw [text, run_written, hmark, run_written, (hcounted.write _).run_row (by omega), run_written,
      (((hcounted.write _).write _).write _).run_column (by omega), hbehind]
    simp only [write_write, List.append_assoc]
  rw [Template.render?, Template.expand?, h]
  refine (congrArg (Option.map Template.State.out) hrun).trans (congrArg some ?_)
  show st.out ++ _ = _
  rw [hout]
  rfl

/-! ## What is read of a report -/

section

open ReportShape

variable {parts : List ReportPart} {rest : List UInt8} {fields : List (List UInt8)}

/-- Literals are taken off the front. -/
theorem fields?_literals (inks : List Ink) (parts : List ReportPart) (rest : List UInt8) :
    fields? (literals inks ++ parts) (bytes inks ++ rest) = fields? parts rest := by
  induction inks with
  | nil => rfl
  | cons i inks ih =>
    show fields? (.literal i.byte :: (literals inks ++ parts)) (i.byte :: (bytes inks ++ rest)) = _
    rw [fields?, if_pos (beq_self_eq_true _), ih]

/-- A numeral is digits. -/
theorem isDigit_of_mem_utf8_decimal {n : Nat} {b : UInt8} (h : b ∈ utf8 (decimal n)) :
    isDigit b = true := by
  rw [MouseReport.utf8_decimal, List.mem_map] at h
  obtain ⟨c, hc, rfl⟩ := h
  have hdigit := Text.toNat_of_isDigit (isDigit_of_mem_decimal hc)
  have hbyte : (UInt8.ofNat c.toNat).toNat = c.toNat := by
    rw [UInt8.toNat_ofNat', Nat.mod_eq_of_lt (by omega)]
  simp only [isDigit, Bool.and_eq_true, decide_eq_true_eq, UInt8.le_iff_toNat_le, hbyte]
  exact hdigit

theorem utf8_decimal_ne_nil (n : Nat) : utf8 (decimal n) ≠ [] := by
  rw [MouseReport.utf8_decimal]
  simpa using decimal_ne_nil n

/-- **A numeral is one field**, if no digit follows. -/
theorem fields?_numeral (n : Nat) (hhead : ∀ c ∈ rest.head?, isDigit c = false)
    (h : fields? parts rest = some fields) :
    fields? (.number :: parts) (utf8 (decimal n) ++ rest) = some (utf8 (decimal n) :: fields) :=
  fields?_digits_append (utf8_decimal_ne_nil n) (fun _ => isDigit_of_mem_utf8_decimal) hhead h

/-- **The fields of a report** are its numerals. -/
theorem fields?_report (t : ReportTemplate) (row column : Nat) :
    fields? t.shape.parts (t.report row column)
      = some [utf8 (decimal row), utf8 (decimal column)] := by
  have hhead : ∀ (inks : List Ink), ∀ c ∈ (bytes inks).head?, isDigit c = false := by
    intro inks c hc
    obtain ⟨i, -, rfl⟩ := List.mem_map.1 (List.mem_of_mem_head? hc)
    exact i.isDigit_byte
  have hbehind : fields? (literals t.behind) (bytes t.behind) = some [] := by
    have hfields := fields?_literals t.behind [] []
    rwa [List.append_nil, List.append_nil] at hfields
  have hcolumn := fields?_numeral column (hhead t.behind) hbehind
  have hbetween : ∀ c ∈ (bytes t.between ++ (utf8 (decimal column) ++ bytes t.behind)).head?,
      isDigit c = false := by
    rw [List.head?_append_of_ne_nil _ (by simpa [bytes] using t.between_ne_nil)]
    exact hhead t.between
  rw [shape, report, fields?_literals, fields?_literals]
  exact fields?_numeral row hbetween ((fields?_literals t.between _ _).trans hcolumn)

/-- A coordinate counted from one or from zero. -/
theorem coordinate_add_sub (n : UInt16) (base : Nat) :
    coordinate (((n.toNat + base : Nat) : Int) - base) = n := by
  have hn := n.toNat_lt
  have hmin : min (((n.toNat + base : Nat) : Int) - base).toNat 65535 = n.toNat := by omega
  rw [coordinate, hmin, UInt16.ofNat_toNat]

/-- **The cursor of a report** is that of its numbers. -/
theorem cursor?_report (t : ReportTemplate) (c : Cursor) :
    t.shape.cursor? (t.report (c.y.toNat + t.base) (c.x.toNat + t.base)) = some c := by
  have hbase := t.base_le_one
  have hnumber : ∀ n : UInt16, number? (utf8 (decimal (n.toNat + t.base)))
      = some ((n.toNat + t.base : Nat) : Int) := fun n =>
    MouseReport.number?_utf8_decimal (by have := n.toNat_lt; omega)
  have hone : (if t.shape.oneBased then 1 else 0 : Int) = t.base := by
    unfold base shape
    split <;> rfl
  rw [cursor?, fields?_report]
  simp only [Option.bind_eq_bind, Option.bind_some, hnumber, hone, coordinate_add_sub]

end

/-- **A cursor comes back.** A string that is the template of a report is accepted. Expanded with a
row and a column of sixteen bits it is a report, and that report tells of the row and the
column. -/
theorem cursor?_render? (t : ReportTemplate) (template : String) (h : bytesOf template = t.text)
    (c : Cursor) :
    ∃ shape report, ReportShape.ofTemplate? template = some shape
      ∧ Template.render? template
          [.int (Int64.ofNat c.y.toNat), .int (Int64.ofNat c.x.toNat)] = some report
      ∧ shape.cursor? report = some c := by
  have hy := c.y.toNat_lt
  have hx := c.x.toNat_lt
  exact ⟨t.shape, _, ofTemplate?_eq h, render?_eq h (by omega) (by omega), cursor?_report t c⟩

/-- The greatest column of the first row, counted from one, with a percent sign and a letter of two
bytes behind it. -/
theorem cursor?_render?_farRight :
    let t : ReportTemplate :=
      { opening := [.escape, .plain 0x5b rfl rfl]
        oneBased := true
        front := []
        between := [.plain 0x3b rfl rfl]
        between_ne_nil := by decide
        behind := [.percent, .plain 0xc3 rfl rfl, .plain 0xa9 rfl rfl] }
    bytesOf "\\E[%i%p1%d;%p2%d%%é" = t.text
      ∧ Template.render? "\\E[%i%p1%d;%p2%d%%é" [.int 0, .int 65535]
        = some (bytesOf "\x1b[1;65536%é")
      ∧ ∃ shape report, ReportShape.ofTemplate? "\\E[%i%p1%d;%p2%d%%é" = some shape
        ∧ Template.render? "\\E[%i%p1%d;%p2%d%%é" [.int 0, .int 65535] = some report
        ∧ shape.cursor? report = some ⟨65535, 0⟩ := by
  intro t
  have htext : bytesOf "\\E[%i%p1%d;%p2%d%%é" = t.text := rfl
  have hreport := @render?_eq _ t htext 0 65535 (by decide) (by decide)
  exact ⟨htext, hreport.trans (by decide), cursor?_render? t _ htext ⟨65535, 0⟩⟩

end ReportTemplate

end Teletype
