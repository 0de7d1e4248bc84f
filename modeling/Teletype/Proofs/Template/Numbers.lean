import Teletype.Proofs.Template.Tree

/-!
# Numbers as conversions write them

A conversion takes a number apart and writes its pieces one after the other: a
sign, a base mark, zeros, digits; and spaces on one side of them all. `Spelling`
says what the first four may be, in terms of what is asked for and of what can be
read back: the digits are those of the magnitude in the base of the letter, there
are enough of them, and there is no leading zero that was not asked for.

The main result, `expand?_number`, is that every conversion of a number writes a
spelling of it, filled up to the width. What needs an induction is the digits
alone. They are written from the last to the first and read from the first to the
last, and `Conversion.digits_induction` is the one induction that every fact about
them goes by.
-/

namespace Teletype.Template

open Text

/-! ## Digits in a base -/

/-- The base a letter writes numbers in. -/
def Letter.radix : Letter → Nat
  | octal => 8
  | hex | upperHex => 16
  | decimal | text => 10

/-- A digit as a letter writes it. -/
def Letter.digit : Letter → Nat → Char
  | upperHex, d => d.digitChar.toUpper
  | _, d => d.digitChar

/-- What a letter can put in front of the digits to tell its base. -/
def Letter.mark : Letter → List Char
  | octal => ['0']
  | hex => ['0', 'x']
  | upperHex => ['0', 'X']
  | decimal | text => []

/-- Whether it has to be written for the digits of a number. In front of octal digits it is
a leading zero, and is written only where there is none; in front of hexadecimal ones it
is left out of zero. -/
def Letter.needsMark (l : Letter) (n : Int64) (digits : List Char) : Bool :=
  match l with
  | octal => digits.head? != some '0'
  | hex | upperHex => n != 0
  | decimal | text => false

theorem Letter.one_lt_radix (l : Letter) : 1 < l.radix := by
  cases l <;> decide

/-- A digit is read as what it was written for. -/
theorem Letter.digitValue?_digit (l : Letter) :
    ∀ d < l.radix, digitValue? (l.digit d) = some d := by
  cases l <;> decide

theorem Letter.digit_ascii (l : Letter) : ∀ d < l.radix, (l.digit d).toNat < 128 := by
  cases l <;> decide

/-- The letters among the digits are small, except behind an `X`, where they are great. -/
theorem Letter.digit_case (l : Letter) :
    ∀ d < l.radix, if l = .upperHex then (l.digit d).isLower = false
      else (l.digit d).isUpper = false := by
  cases l <;> decide

namespace Conversion

/-- A magnitude less than the base is a single digit. -/
theorem digits_of_lt (l : Letter) {n : Nat} (h : n < l.radix) : digits l n = [l.digit n] := by
  cases l with
  | upperHex =>
    rw [digits, Nat.toDigits_of_lt_base (b := 16) h]
    rfl
  | decimal | octal | hex | text => exact Nat.toDigits_of_lt_base h

/-- Any other is written as its quotient by the base, and the remainder behind it. -/
theorem digits_of_le (l : Letter) {n : Nat} (h : l.radix ≤ n) :
    digits l n = digits l (n / l.radix) ++ [l.digit (n % l.radix)] := by
  cases l with
  | upperHex =>
    rw [digits, Nat.toDigits_of_base_le (b := 16) (by decide) h, List.map_append]
    rfl
  | decimal | octal | hex | text => exact Nat.toDigits_of_base_le (by decide) h

/-- **What holds of single digits, and still holds with one more digit behind, holds of
the digits of every magnitude.** -/
theorem digits_induction (l : Letter) {P : Nat → List Char → Prop}
    (single : ∀ d < l.radix, P d [l.digit d])
    (snoc : ∀ n d ds, 0 < n → d < l.radix → P n ds → P (n * l.radix + d) (ds ++ [l.digit d]))
    (n : Nat) : P n (digits l n) := by
  have hradix := l.one_lt_radix
  induction n using Nat.strongRecOn with
  | ind n ih =>
    rcases Nat.lt_or_ge n l.radix with hlt | hle
    · rw [digits_of_lt l hlt]
      exact single n hlt
    · have hquotient : 0 < n / l.radix := Nat.div_pos hle (by omega)
      have hsmaller : n / l.radix < n := Nat.div_lt_self (by omega) hradix
      have hsnoc := snoc (n / l.radix) (n % l.radix) _ hquotient (Nat.mod_lt n (by omega))
        (ih _ hsmaller)
      rwa [Nat.div_add_mod', ← digits_of_le l hle] at hsnoc

/-- There is nothing but digits among the digits. -/
theorem mem_digits {l : Letter} {n : Nat} : ∀ c ∈ digits l n, ∃ d < l.radix, c = l.digit d := by
  refine digits_induction l (P := fun _ ds => ∀ c ∈ ds, ∃ d < l.radix, c = l.digit d) ?_ ?_ n
  · intro d hd c hc
    exact ⟨d, hd, List.mem_singleton.1 hc⟩
  · intro _ d ds _ hd ih c hc
    rcases List.mem_append.1 hc with hc | hc
    · exact ih c hc
    · exact ⟨d, hd, List.mem_singleton.1 hc⟩

theorem digits_ne_nil (l : Letter) (n : Nat) : digits l n ≠ [] :=
  digits_induction l (P := fun _ ds => ds ≠ []) (fun _ _ => List.cons_ne_nil _ _)
    (fun _ _ _ _ _ _ => List.append_ne_nil_of_right_ne_nil _ (List.cons_ne_nil _ _)) n

/-- A digit at the end of a numeral, read. -/
theorem pushDigit?_digit (l : Letter) (value : Nat) {d : Nat} (hd : d < l.radix) :
    pushDigit? l.radix value (l.digit d) = some (value * l.radix + d) := by
  rw [pushDigit?, l.digitValue?_digit d hd]
  exact if_pos hd

/-- **The digits of a magnitude are read as that magnitude.** -/
theorem foldlM_digits (l : Letter) (n : Nat) :
    (digits l n).foldlM (pushDigit? l.radix) 0 = some n := by
  refine digits_induction l (P := fun n ds => ds.foldlM (pushDigit? l.radix) 0 = some n) ?_ ?_ n
  · intro d hd
    rw [List.foldlM_cons, pushDigit?_digit l 0 hd, Nat.zero_mul, Nat.zero_add]
    rfl
  · intro n d ds _ hd ih
    rw [List.foldlM_append, ih]
    show [l.digit d].foldlM (pushDigit? l.radix) n = _
    rw [List.foldlM_cons, pushDigit?_digit l n hd]
    rfl

/-- **Only zero starts with a zero.** -/
theorem eq_zero_of_head?_digits {l : Letter} {n : Nat} (h : (digits l n).head? = some '0') :
    n = 0 := by
  refine digits_induction l
    (P := fun n ds => ds ≠ [] ∧ (ds.head? = some '0' → n = 0)) ?_ ?_ n |>.2 h
  · intro d hd
    refine ⟨List.cons_ne_nil _ _, fun hhead => ?_⟩
    have hvalue := l.digitValue?_digit d hd
    rw [Option.some.inj hhead] at hvalue
    exact (Option.some.inj hvalue).symm
  · intro n d ds hn _ ⟨hne, ih⟩
    obtain ⟨c, tail, rfl⟩ := List.exists_cons_of_ne_nil hne
    exact ⟨List.cons_ne_nil _ _, fun hhead => absurd (ih hhead) (Nat.ne_of_gt hn)⟩

/-! ## Zeros in front -/

/-- Zeros in front do not change what is read. -/
theorem digits?_zeroFill (l : Letter) (count n : Nat) :
    digits? l.radix (zeroFill count (digits l n)) = some n := by
  have hzero : pushDigit? l.radix 0 '0' = some 0 := by cases l <;> rfl
  have hzeros : ∀ k,
      (List.replicate k '0' ++ digits l n).foldlM (pushDigit? l.radix) 0 = some n := by
    intro k
    induction k with
    | zero => exact foldlM_digits l n
    | succ k ih =>
      rw [List.replicate_succ, List.cons_append, List.foldlM_cons, hzero]
      exact ih
  unfold zeroFill digits?
  split
  · exact absurd (List.append_eq_nil_iff.1 ‹_›).2 (digits_ne_nil l n)
  · exact hzeros _

theorem length_zeroFill (count : Nat) (ds : List Char) :
    (zeroFill count ds).length = max count ds.length := by
  rw [zeroFill, List.length_append, List.length_replicate]
  omega

/-- **A leading zero is one that was asked for**, or the only digit there is. -/
theorem length_of_head?_zeroFill {l : Letter} {count n : Nat}
    (h : (zeroFill count (digits l n)).head? = some '0') :
    (zeroFill count (digits l n)).length = max 1 count := by
  have hlength := length_zeroFill count (digits l n)
  have hpos := List.length_pos_iff.2 (digits_ne_nil l n)
  rcases Nat.lt_or_ge (digits l n).length count with hlt | hle
  · omega
  · -- nothing was filled in, so the zero is the first digit of the magnitude
    have hnone : zeroFill count (digits l n) = digits l n := by
      rw [zeroFill, Nat.sub_eq_zero_of_le hle]
      rfl
    rw [hnone] at h
    have hone : (digits l n).length = 1 := by
      rw [eq_zero_of_head?_digits h, digits_of_lt l (Nat.lt_trans Nat.zero_lt_one l.one_lt_radix)]
      rfl
    omega

/-- There is nothing but digits among them either. -/
theorem mem_zeroFill {l : Letter} {count n : Nat} {c : Char}
    (h : c ∈ zeroFill count (digits l n)) : ∃ d < l.radix, c = l.digit d := by
  rcases List.mem_append.1 h with h | h
  · refine ⟨0, Nat.lt_trans Nat.zero_lt_one l.one_lt_radix, ?_⟩
    rw [List.eq_of_mem_replicate h]
    cases l <;> rfl
  · exact mem_digits c h

/-! ## Filling up to the width -/

/-- **A text of ASCII characters is filled with as many spaces as are missing**, if the
width can be filled up to. -/
theorem pad?_of_ascii {c : Conversion} (hwidth : c.width ≤ greatestFill) {cs : List Char}
    (h : ∀ x ∈ cs, x.toNat < 128) :
    c.pad? cs = some (if c.left then cs ++ List.replicate (c.width - cs.length) ' '
      else List.replicate (c.width - cs.length) ' ' ++ cs) := by
  have hlength : (utf8 cs).length = cs.length := by rw [utf8_of_ascii h, List.length_map]
  unfold pad?
  rw [hlength]
  split
  · rw [Nat.sub_eq_zero_of_le ‹_›, List.replicate_zero, List.append_nil, List.nil_append, ite_self]
  · rw [if_neg (Nat.not_lt.2 hwidth)]

end Conversion

/-! ## Spellings -/

/-- **What a conversion may write for a number**, up to the spaces around it. -/
structure Spelling (f : Format) (n : Int64) where
  /-- A sign, perhaps. -/
  sign : List Char
  /-- A base mark, perhaps. -/
  mark : List Char
  /-- The digits, zeros in front included. -/
  digits : List Char
  /-- There is at most one sign. -/
  sign_mem : sign ∈ [[], ['-'], ['+'], [' ']]
  /-- Negative numbers have a minus sign and no others have. -/
  sign_minus : sign = ['-'] ↔ n < 0
  /-- A plus sign is one that was asked for, of decimal numbers. -/
  sign_plus : sign = ['+'] ↔ 0 ≤ n ∧ f.letter = .decimal ∧ .plus ∈ f.marks
  /-- A space in place of a sign likewise, where no plus sign was asked for. -/
  sign_space : sign = [' '] ↔ 0 ≤ n ∧ f.letter = .decimal ∧ .space ∈ f.marks ∧ .plus ∉ f.marks
  /-- The base mark is that of the letter. -/
  mark_mem : mark ∈ [[], f.letter.mark]
  /-- It is one that was asked for, and that there is need for. -/
  mark_ne_nil : mark ≠ [] ↔ .alternate ∈ f.marks ∧ f.letter.needsMark n digits = true
  /-- **The digits are read as the magnitude**, in the base of the letter. -/
  value : digits? f.letter.radix digits = some n.toInt.natAbs
  /-- There are as many as the precision asks for, and at least one. -/
  length_le : max 1 ((f.precision.map Digits.value).getD 0) ≤ digits.length
  /-- There is no leading zero but to get there. -/
  leading_zero : digits.head? = some '0' →
    digits.length = max 1 ((f.precision.map Digits.value).getD 0)
  /-- The letters among the digits are small, except behind an `X`. -/
  letters : ∀ c ∈ digits, if f.letter = .upperHex then c.isLower = false else c.isUpper = false

namespace Spelling

variable {f : Format} {n : Int64}

/-- **The whole of a spelling.** -/
def text (s : Spelling f n) : List Char := s.sign ++ s.mark ++ s.digits

/-- The sign in terms of what is written. -/
theorem sign_conversion (f : Format) (n : Int64) :
    f.conversion.sign n = if n < 0 then ['-']
      else if f.letter = .decimal ∧ .plus ∈ f.marks then ['+']
      else if f.letter = .decimal ∧ .space ∈ f.marks then [' ']
      else [] := by
  simp [Conversion.sign, Format.conversion]

theorem sign_mem_conversion (f : Format) (n : Int64) :
    f.conversion.sign n ∈ [[], ['-'], ['+'], [' ']] := by
  rw [sign_conversion]
  repeat' split
  all_goals simp

theorem sign_eq_minus (f : Format) (n : Int64) : f.conversion.sign n = ['-'] ↔ n < 0 := by
  rw [sign_conversion]
  repeat' split
  all_goals simp_all

theorem sign_eq_plus (f : Format) (n : Int64) :
    f.conversion.sign n = ['+'] ↔ 0 ≤ n ∧ f.letter = .decimal ∧ .plus ∈ f.marks := by
  rw [sign_conversion, ← Int64.not_lt]
  repeat' split
  all_goals simp_all

theorem sign_eq_space (f : Format) (n : Int64) :
    f.conversion.sign n = [' ']
      ↔ 0 ≤ n ∧ f.letter = .decimal ∧ .space ∈ f.marks ∧ .plus ∉ f.marks := by
  rw [sign_conversion, ← Int64.not_lt]
  repeat' split
  all_goals simp_all

/-- The base mark in terms of what is written. -/
theorem baseMark_conversion (f : Format) (n : Int64) (ds : List Char) :
    f.conversion.baseMark n ds
      = if .alternate ∈ f.marks ∧ f.letter.needsMark n ds = true then f.letter.mark else [] := by
  unfold Conversion.baseMark Format.conversion
  by_cases hmark : .alternate ∈ f.marks
  · cases f.letter <;> simp [hmark, Letter.needsMark, Letter.mark]
  · simp [hmark]

theorem baseMark_mem_conversion (f : Format) (n : Int64) (ds : List Char) :
    f.conversion.baseMark n ds ∈ [[], f.letter.mark] := by
  rw [baseMark_conversion]
  split
  · exact List.mem_cons_of_mem _ (List.mem_singleton_self _)
  · exact List.mem_cons_self ..

/-- A letter that needs a mark has one. -/
theorem mark_ne_nil_of_needsMark {l : Letter} {n : Int64} {ds : List Char}
    (h : l.needsMark n ds = true) : l.mark ≠ [] := by
  cases l with
  | octal | hex | upperHex => exact List.cons_ne_nil _ _
  | decimal | text => exact absurd h Bool.false_ne_true

theorem baseMark_ne_nil (f : Format) (n : Int64) (ds : List Char) :
    f.conversion.baseMark n ds ≠ []
      ↔ .alternate ∈ f.marks ∧ f.letter.needsMark n ds = true := by
  rw [baseMark_conversion]
  split
  · exact iff_of_true (mark_ne_nil_of_needsMark ‹_ ∧ _›.2) ‹_›
  · exact iff_of_false (not_not_intro rfl) ‹_›

/-- **The spelling a conversion writes.** -/
def of (f : Format) (n : Int64) : Spelling f n where
  sign := f.conversion.sign n
  mark := f.conversion.baseMark n
    (Conversion.zeroFill (f.conversion.precision.getD 0)
      (Conversion.digits f.letter n.toInt.natAbs))
  digits := Conversion.zeroFill (f.conversion.precision.getD 0)
    (Conversion.digits f.letter n.toInt.natAbs)
  sign_mem := sign_mem_conversion f n
  sign_minus := sign_eq_minus f n
  sign_plus := sign_eq_plus f n
  sign_space := sign_eq_space f n
  mark_mem := baseMark_mem_conversion f n _
  mark_ne_nil := baseMark_ne_nil f n _
  value := Conversion.digits?_zeroFill ..
  length_le := by
    have hpos := List.length_pos_iff.2 (Conversion.digits_ne_nil f.letter n.toInt.natAbs)
    rw [Conversion.length_zeroFill]
    show max 1 (f.conversion.precision.getD 0) ≤ _
    omega
  leading_zero := Conversion.length_of_head?_zeroFill
  letters c hc := by
    obtain ⟨d, hd, rfl⟩ := Conversion.mem_zeroFill hc
    exact f.letter.digit_case d hd

/-- A spelling is an ASCII text. -/
theorem ascii_of (f : Format) (n : Int64) : ∀ c ∈ (of f n).text, c.toNat < 128 := by
  intro c hc
  rcases List.mem_append.1 hc with hc | hc
  · rcases List.mem_append.1 hc with hc | hc
    · have hsign : ∀ s ∈ [[], ['-'], ['+'], [' ']], ∀ c ∈ s, c.toNat < 128 := by simp
      exact hsign _ (of f n).sign_mem c hc
    · have hmark : ∀ l : Letter, ∀ m ∈ [[], l.mark], ∀ c ∈ m, c.toNat < 128 := by
        intro l
        cases l <;> simp [Letter.mark]
      exact hmark _ _ (of f n).mark_mem c hc
  · obtain ⟨d, hd, rfl⟩ := Conversion.mem_zeroFill hc
    exact f.letter.digit_ascii d hd

end Spelling

/-! ## Runs -/

/-- What a conversion of a number looks like before it is filled up. -/
theorem Format.body_conversion {f : Format} (h : f.letter ≠ .text) (v : Param) :
    f.conversion.body v = (Spelling.of f v.toInt).text := by
  have hletter : f.conversion.letter ≠ .text := h
  cases v with
  | int n => exact if_neg hletter
  | text s => exact if_neg hletter

/-- **A run over a conversion writes a spelling of the number on top**, filled up to the
width. -/
theorem Format.run_number {f : Format} (h : f.letter ≠ .text) (st : State) (rest : List UInt8) :
    run st ((Token.convert f).text ++ rest)
      = run (st.drop.write (utf8
          (if .left ∈ f.marks then
            (Spelling.of f st.top.toInt).text
              ++ List.replicate (f.width.value - (Spelling.of f st.top.toInt).text.length) ' '
          else
            List.replicate (f.width.value - (Spelling.of f st.top.toInt).text.length) ' '
              ++ (Spelling.of f st.top.toInt).text))) rest := by
  have hpad := Conversion.pad?_of_ascii (c := f.conversion) f.width_le
    (Spelling.ascii_of f st.top.toInt)
  have hleft : (f.conversion.left = true) = (.left ∈ f.marks) :=
    propext List.contains_iff_mem
  simp only [hleft] at hpad
  rw [Token.run_text]
  show ((f.conversion.render? st.top).map _).bind _ = _
  rw [Conversion.render?, Format.body_conversion h, hpad]
  rfl

/-- **Conversions keep the number.** Whatever the flags, the width and the precision, the
text of a number is a spelling of it and spaces on the side the flags choose, as many
characters together as the greater of the width and the spelling. -/
theorem expand?_number {f : Format} (h : f.letter ≠ .text) (n : Int64) :
    ∃ (s : Spelling f n) (spaces text : List Char),
      expand? ((Token.parameter 0).text ++ (Token.convert f).text) [.int n] = some (utf8 text)
        ∧ text = (if .left ∈ f.marks then s.text ++ spaces else spaces ++ s.text)
        ∧ (∀ c ∈ spaces, c = ' ')
        ∧ text.length = max f.width.value s.text.length := by
  refine ⟨.of f n, List.replicate (f.width.value - (Spelling.of f n).text.length) ' ', _, ?_, rfl,
    fun c => List.eq_of_mem_replicate, ?_⟩
  · have hrun := f.run_number h ((State.start [.int n]).push (.int n)) []
    rw [List.append_nil] at hrun
    rw [expand?, Token.run_text]
    show (run ((State.start [.int n]).push (.int n)) (Token.convert f).text).map State.out = _
    rw [hrun, run]
    rfl
  · split <;> simp only [List.length_append, List.length_replicate] <;> omega

/-- `%:-#30.24o`: in octal with a mark, at least 24 digits, filled on the right. -/
def Format.markedOctal : Format where
  colon := true
  marks := [.left, .alternate]
  colon_of_sign _ := rfl
  width := ⟨['3', '0'], List.all_eq_true.1 rfl⟩
  width_le := by decide
  precision := some ⟨['2', '4'], List.all_eq_true.1 rfl⟩
  precision_le := by decide
  letter := .octal

/-- The least number, whose magnitude is not a number of 64 bits. -/
theorem expand?_number_least :
    Format.markedOctal.letter ≠ .text ∧
      ∃ (s : Spelling Format.markedOctal Int64.minValue) (spaces text : List Char),
        expand? (bytesOf "%p1%:-#30.24o") [.int Int64.minValue] = some (utf8 text)
          ∧ text = s.text ++ spaces
          ∧ (∀ c ∈ spaces, c = ' ')
          ∧ text.length = max 30 s.text.length :=
  ⟨by decide, expand?_number (by decide) Int64.minValue⟩

end Teletype.Template
