import Teletype.Proofs.Text
import Teletype.Template.Expand

/-!
# Conversions and constants as they are written

Two tokens of the template language have an inner grammar. A conversion is a
colon perhaps, flags, a width, a precision and a letter; a constant is a signed
decimal number between braces. Each is a structure here that holds exactly what
is written, together with the bounds that make it meaningful, so that the text
can be produced from it and its meaning computed from it.

The main results say that reading the text gives the meaning back, whatever
comes after it: `Format.operator_text` for conversions and
`Constant.constantOf_bytes` for constants.
-/

namespace Teletype.Template

open Text

/-! ## Runs of digits -/

/-- **A run of decimal digits**, perhaps an empty one. -/
structure Digits where
  /-- The digits, leading zeros included. -/
  chars : List Char
  /-- There is nothing but digits. -/
  isDigit : ∀ c ∈ chars, c.isDigit = true

namespace Digits

/-- The number the digits spell. -/
def value (d : Digits) : Nat := Nat.ofDigitChars 10 d.chars 0

/-- The digits as they are written. -/
def bytes (d : Digits) : List UInt8 := utf8 d.chars

/-- Digits are ASCII characters. -/
theorem ascii (d : Digits) : ∀ c ∈ d.chars, c.toNat < 128 := by
  intro c hc
  have := toNat_of_isDigit (d.isDigit c hc)
  omega

/-- The bytes of digits are the ten from `0` to `9`. -/
theorem mem_bytes {d : Digits} {b : UInt8} (h : b ∈ d.bytes) : ∃ n : Fin 10, b = 48 + UInt8.ofNat n := by
  rw [bytes, utf8_of_ascii d.ascii, List.mem_map] at h
  obtain ⟨c, hc, rfl⟩ := h
  have := toNat_of_isDigit (d.isDigit c hc)
  refine ⟨⟨c.toNat - 48, by omega⟩, ?_⟩
  apply UInt8.toNat_inj.1
  rw [UInt8.toNat_add, UInt8.toNat_ofNat', UInt8.toNat_ofNat']
  show c.toNat % 256 = (48 + (c.toNat - 48) % 256) % 256
  omega

/-- A property of the ten digits holds of every digit that is written. -/
theorem forall_mem_bytes {p : UInt8 → Prop} (hp : ∀ n : Fin 10, p (48 + UInt8.ofNat n))
    (d : Digits) : ∀ b ∈ d.bytes, p b := by
  intro b hb
  obtain ⟨n, rfl⟩ := mem_bytes hb
  exact hp n

end Digits

namespace Conversion

/-! ## Reading counts and flags -/

/-- Whether a byte is a digit, as counts are read. -/
def isCountDigit (b : UInt8) : Bool := 0x30 ≤ b && b ≤ 0x39

/-- A run of digits is read to its end. -/
theorem readCount_utf8 {cs : List Char} (h : ∀ c ∈ cs, c.isDigit = true) (value : Nat)
    (rest : List UInt8) :
    readCount value (utf8 cs ++ rest) = readCount (Nat.ofDigitChars 10 cs value) rest := by
  induction cs generalizing value with
  | nil => rw [Nat.ofDigitChars_nil]; rfl
  | cons c cs ih =>
    have hc := toNat_of_isDigit (h c (List.mem_cons_self ..))
    have hb : (UInt8.ofNat c.toNat).toNat = c.toNat := by
      rw [UInt8.toNat_ofNat']
      omega
    have hdigit : (0x30 ≤ UInt8.ofNat c.toNat && UInt8.ofNat c.toNat ≤ 0x39) = true := by
      simp only [Bool.and_eq_true, decide_eq_true_eq, UInt8.le_iff_toNat_le, hb]
      exact hc
    have hvalue : (UInt8.ofNat c.toNat - 0x30).toNat = c.toNat - 48 := by
      rw [UInt8.toNat_sub_of_le _ _ (by rw [UInt8.le_iff_toNat_le, hb]; exact hc.1), hb]
      rfl
    rw [utf8_cons_of_ascii (by omega), List.cons_append, readCount, if_pos hdigit, hvalue,
      ih (fun d hd => h d (List.mem_cons_of_mem _ hd)), Nat.ofDigitChars_cons, Nat.mul_comm value]
    rfl

/-- A number ends where no digit comes next. -/
theorem readCount_of_not_digit (value : Nat) {b : UInt8} (h : isCountDigit b = false)
    (rest : List UInt8) : readCount value (b :: rest) = (value, b :: rest) := by
  rw [readCount, if_neg]
  rw [← isCountDigit, h]
  exact Bool.false_ne_true

/-- **Digits in front of anything else** are read as the number they spell. -/
theorem readCount_digits (d : Digits) {b : UInt8} (h : isCountDigit b = false)
    (rest : List UInt8) : readCount 0 (d.bytes ++ b :: rest) = (d.value, b :: rest) := by
  rw [Digits.bytes, readCount_utf8 d.isDigit, readCount_of_not_digit _ h]
  rfl

/-- A flag of a conversion. -/
inductive Mark where
  /-- `-`, fill on the right. -/
  | left
  /-- `+`, always a sign. -/
  | plus
  /-- A space in place of a sign. -/
  | space
  /-- `#`, a base mark. -/
  | alternate
  deriving DecidableEq

/-- A flag as it is written. -/
def Mark.byte : Mark → UInt8
  | left => 0x2d
  | plus => 0x2b
  | space => 0x20
  | alternate => 0x23

/-- The conversion with a flag. -/
def mark (c : Conversion) : Mark → Conversion
  | .left => { c with left := true }
  | .plus => { c with plus := true }
  | .space => { c with space := true }
  | .alternate => { c with alternate := true }

/-- Whether a byte is a flag. -/
def isMark (b : UInt8) : Bool := b == 0x2d || b == 0x2b || b == 0x20 || b == 0x23

/-- Flags are read one by one. -/
theorem readFlags_marks (c : Conversion) (marks : List Mark) (rest : List UInt8) :
    c.readFlags (marks.map Mark.byte ++ rest) = (marks.foldl mark c).readFlags rest := by
  induction marks generalizing c with
  | nil => rfl
  | cons m marks ih =>
    rw [List.map_cons, List.cons_append, List.foldl_cons, ← ih]
    cases m <;> rfl

/-- Flags end where no flag comes next. -/
theorem readFlags_of_not_mark (c : Conversion) {b : UInt8} (h : isMark b = false)
    (rest : List UInt8) : c.readFlags (b :: rest) = (c, b :: rest) := by
  simp only [isMark, Bool.or_eq_false_iff] at h
  obtain ⟨⟨⟨h₁, h₂⟩, h₃⟩, h₄⟩ := h
  simp only [readFlags, h₁, h₂, h₃, h₄, Bool.false_eq_true, if_false]

/-- **A flag is on when it was written**, or was on before. -/
theorem foldl_mark (c : Conversion) (marks : List Mark) :
    marks.foldl mark c =
      { c with
        left := c.left || marks.contains .left
        plus := c.plus || marks.contains .plus
        space := c.space || marks.contains .space
        alternate := c.alternate || marks.contains .alternate } := by
  induction marks generalizing c with
  | nil => simp
  | cons m marks ih =>
    rw [List.foldl_cons, ih]
    cases m <;> simp [mark]

end Conversion

/-- A letter as it is written. -/
def Letter.byte : Letter → UInt8
  | decimal => 0x64
  | octal => 0x6f
  | hex => 0x78
  | upperHex => 0x58
  | text => 0x73

/-- A letter is read from its byte. -/
theorem Letter.ofByte?_byte (l : Letter) : Letter.ofByte? l.byte = some l := by
  cases l <;> rfl

/-! ## Conversions -/

/-- **A conversion as it is written** behind the percent sign. -/
structure Format where
  /-- Whether a colon stands in front. -/
  colon : Bool
  /-- The flags, in any order and number. -/
  marks : List Conversion.Mark
  /-- Without a colon the first flag is not one that is an operator of its own. -/
  colon_of_sign : marks.head? = some .left ∨ marks.head? = some .plus → colon = true
  /-- The width; no digits mean none. -/
  width : Digits
  /-- A width can be filled up to. -/
  width_le : width.value ≤ 65535
  /-- What stands behind the point, if there is a point. -/
  precision : Option Digits
  /-- A precision is bounded as a width is. -/
  precision_le : ∀ p ∈ precision, p.value ≤ 65535
  /-- The letter. -/
  letter : Letter

namespace Format

/-- The precision as it is written, with its point. -/
def precisionText (f : Format) : List UInt8 :=
  match f.precision with
  | none => []
  | some p => 0x2e :: p.bytes

/-- All but the colon, in front of what comes after the conversion. -/
def body (f : Format) (rest : List UInt8) : List UInt8 :=
  f.marks.map Conversion.Mark.byte
    ++ (f.width.bytes ++ (f.precisionText ++ f.letter.byte :: rest))

/-- The colon, if there is one. -/
def colonText (f : Format) : List UInt8 := if f.colon then [0x3a] else []

/-- **The text of a conversion.** -/
def text (f : Format) : List UInt8 := f.colonText ++ f.body []

/-- **The meaning of a conversion.** -/
def conversion (f : Format) : Conversion where
  left := f.marks.contains .left
  plus := f.marks.contains .plus
  space := f.marks.contains .space
  alternate := f.marks.contains .alternate
  width := f.width.value
  precision := f.precision.map Digits.value
  letter := f.letter

theorem text_append (f : Format) (rest : List UInt8) :
    f.text ++ rest = f.colonText ++ f.body rest := by
  simp only [text, body, List.append_assoc, List.cons_append, List.nil_append]

/-- The byte in front of a letter or a precision is neither a digit nor a flag. -/
theorem precisionText_append_head (f : Format) (rest : List UInt8) :
    ∃ b bytes, f.precisionText ++ f.letter.byte :: rest = b :: bytes
      ∧ Conversion.isCountDigit b = false ∧ Conversion.isMark b = false := by
  unfold precisionText
  cases f.precision with
  | none => exact ⟨_, _, rfl, by cases f.letter <;> decide, by cases f.letter <;> decide⟩
  | some p => exact ⟨_, _, rfl, by decide, by decide⟩

/-- Behind the flags no flag comes next. -/
theorem width_append_head (f : Format) (rest : List UInt8) :
    ∃ b bytes, f.width.bytes ++ (f.precisionText ++ f.letter.byte :: rest) = b :: bytes
      ∧ Conversion.isMark b = false := by
  cases hw : f.width.bytes with
  | nil =>
    obtain ⟨b, bytes, heq, -, hmark⟩ := f.precisionText_append_head rest
    exact ⟨b, bytes, heq, hmark⟩
  | cons b bytes =>
    refine ⟨b, _, rfl, ?_⟩
    exact f.width.forall_mem_bytes (p := fun b => Conversion.isMark b = false) (by decide) b
      (hw ▸ List.mem_cons_self ..)

/-- **The precision is read back.** -/
theorem readPrecision_precisionText (f : Format) (rest : List UInt8) :
    Conversion.readPrecision (f.precisionText ++ f.letter.byte :: rest)
      = (f.precision.map Digits.value, f.letter.byte :: rest) := by
  have hdigit : Conversion.isCountDigit f.letter.byte = false := by cases f.letter <;> decide
  have hpoint : (f.letter.byte == 0x2e) = false := by cases f.letter <;> decide
  unfold precisionText
  cases f.precision with
  | none =>
    rw [List.nil_append, Conversion.readPrecision, hpoint]
    rfl
  | some p =>
    rw [List.cons_append, Conversion.readPrecision, if_pos (beq_self_eq_true _),
      Conversion.readCount_digits p hdigit]
    rfl

/-- **All but the letter is read back.** -/
theorem readCounts_body (f : Format) (rest : List UInt8) :
    Conversion.readCounts (0x3a :: f.body rest)
      = ({ f.conversion with letter := .decimal }, f.letter.byte :: rest) := by
  obtain ⟨b, bytes, heq, hmark⟩ := f.width_append_head rest
  obtain ⟨b', bytes', heq', hdigit, -⟩ := f.precisionText_append_head rest
  have hflags : ({} : Conversion).readFlags (f.body rest)
      = (f.marks.foldl Conversion.mark {},
        f.width.bytes ++ (f.precisionText ++ f.letter.byte :: rest)) := by
    rw [body, Conversion.readFlags_marks, heq, Conversion.readFlags_of_not_mark _ hmark]
  have hwidth : Conversion.readCount 0
        (f.width.bytes ++ (f.precisionText ++ f.letter.byte :: rest))
      = (f.width.value, f.precisionText ++ f.letter.byte :: rest) := by
    rw [heq', Conversion.readCount_digits _ hdigit]
  simp only [Conversion.readCounts, Conversion.skipColon, beq_self_eq_true, if_true, hflags,
    hwidth, f.readPrecision_precisionText, Conversion.foldl_mark, Bool.false_or]
  rfl

/-- Whether a byte behind a percent sign starts a conversion, no operator having it. -/
def opens (b : UInt8) : Bool :=
  b != 0x70 && b != 0x50 && b != 0x67 && b != 0x27 && b != 0x7b && (simpleOp? b).isNone

/-- A byte that opens a conversion is read as one. -/
theorem operator_of_opens {b : UInt8} (h : opens b = true) (rest : List UInt8) :
    operator b rest = Template.conversion b rest := by
  simp only [opens, Bool.and_eq_true, bne_iff_ne, ne_eq, Option.isNone_iff_eq_none] at h
  obtain ⟨⟨⟨⟨⟨h₁, h₂⟩, h₃⟩, h₄⟩, h₅⟩, h₆⟩ := h
  simp only [operator, h₁, h₂, h₃, h₄, h₅, h₆, beq_iff_eq, Bool.or_eq_true, or_self, if_false]

/-- What comes first behind the colon is no colon, and without a colon it is no
operator either. -/
theorem body_head (f : Format) (rest : List UInt8) :
    ∃ b bytes, f.body rest = b :: bytes ∧ b ≠ 0x3a ∧ (f.colon = false → opens b = true) := by
  unfold body
  cases hm : f.marks with
  | cons m marks =>
    refine ⟨_, _, rfl, by cases m <;> decide, fun hc => ?_⟩
    have hsign := f.colon_of_sign
    rw [hm, List.head?_cons, hc] at hsign
    cases m with
    | left => exact absurd (hsign (.inl rfl)) Bool.false_ne_true
    | plus => exact absurd (hsign (.inr rfl)) Bool.false_ne_true
    | space => decide
    | alternate => decide
  | nil =>
    cases hw : f.width.bytes with
    | cons b bytes =>
      have hb : b ≠ 0x3a ∧ opens b = true :=
        f.width.forall_mem_bytes (p := fun b => b ≠ 0x3a ∧ opens b = true) (by decide) b
          (hw ▸ List.mem_cons_self ..)
      exact ⟨b, _, rfl, hb.1, fun _ => hb.2⟩
    | nil =>
      unfold precisionText
      cases f.precision with
      | none => exact ⟨_, _, rfl, by cases f.letter <;> decide, fun _ => by cases f.letter <;> decide⟩
      | some p => exact ⟨_, _, rfl, by decide, fun _ => by decide⟩

/-- A colon in front makes no difference to what is read. -/
theorem readCounts_text (f : Format) (rest : List UInt8) :
    Conversion.readCounts (f.text ++ rest)
      = ({ f.conversion with letter := .decimal }, f.letter.byte :: rest) := by
  rw [← f.readCounts_body rest, f.text_append]
  cases hc : f.colon with
  | true => rw [colonText, hc]; rfl
  | false =>
    obtain ⟨b, bytes, heq, hne, -⟩ := f.body_head rest
    rw [colonText, hc, heq]
    show Conversion.readCounts (b :: bytes) = Conversion.readCounts (0x3a :: b :: bytes)
    unfold Conversion.readCounts
    rw [show Conversion.skipColon (b :: bytes) = b :: bytes from by
        rw [Conversion.skipColon, beq_eq_false_iff_ne.2 hne]; rfl,
      show Conversion.skipColon (0x3a :: b :: bytes) = b :: bytes from rfl]

/-- The text of a conversion opens one. -/
theorem text_head (f : Format) : ∃ b bytes, f.text = b :: bytes ∧ opens b = true := by
  unfold text colonText
  cases hc : f.colon with
  | true => exact ⟨0x3a, _, rfl, by decide⟩
  | false =>
    obtain ⟨b, bytes, heq, -, hopens⟩ := f.body_head []
    exact ⟨b, bytes, heq, hopens hc⟩

/-- The counts of a conversion as written can be read. -/
theorem isReadable_conversion (f : Format) (l : Letter) :
    { f.conversion with letter := l }.isReadable = true := by
  have hwidth : f.width.value ≤ Conversion.greatestCount :=
    Nat.le_trans f.width_le (by decide)
  have hprecision : (f.precision.map Digits.value).getD 0 ≤ Conversion.greatestCount := by
    cases hp : f.precision with
    | none => exact Nat.zero_le _
    | some p => exact Nat.le_trans (f.precision_le p hp) (by decide)
  simp only [Conversion.isReadable, conversion, Bool.and_eq_true]
  exact ⟨decide_eq_true hwidth, decide_eq_true hprecision⟩

/-- **A conversion is read back from its text**, whatever follows it. -/
theorem operator_text (f : Format) :
    ∃ b bytes, f.text = b :: bytes
      ∧ ∀ rest, operator b (bytes ++ rest) = (.convert f.conversion, rest) := by
  obtain ⟨b, bytes, heq, hopens⟩ := f.text_head
  refine ⟨b, bytes, heq, fun rest => ?_⟩
  have hcounts : Conversion.readCounts (b :: (bytes ++ rest))
      = ({ f.conversion with letter := .decimal }, f.letter.byte :: rest) := by
    rw [← f.readCounts_text rest, heq, List.cons_append]
  have hletter : { f.conversion with letter := .decimal }.readLetter? (f.letter.byte :: rest)
      = some (f.conversion, rest) := by
    rw [Conversion.readLetter?, Letter.ofByte?_byte]
    rfl
  rw [operator_of_opens hopens]
  simp only [Template.conversion, hcounts, f.isReadable_conversion, Bool.not_true,
    Bool.false_eq_true, if_false, hletter]

/-- No percent sign occurs in a conversion behind the one that introduces it. -/
theorem ne_percent_of_mem_text {f : Format} {b : UInt8} (h : b ∈ f.text) : b ≠ 0x25 := by
  have hdigits : ∀ d : Digits, b ∈ d.bytes → b ≠ 0x25 := fun d =>
    d.forall_mem_bytes (p := fun b => b ≠ 0x25) (by decide) b
  simp only [text, body, List.mem_append, List.mem_cons, List.not_mem_nil, or_false] at h
  rcases h with hcolon | hmark | hwidth | hprecision | rfl
  · unfold colonText at hcolon
    split at hcolon
    · rw [List.mem_singleton.1 hcolon]; decide
    · exact absurd hcolon List.not_mem_nil
  · obtain ⟨m, -, rfl⟩ := List.mem_map.1 hmark
    cases m <;> decide
  · exact hdigits _ hwidth
  · unfold precisionText at hprecision
    split at hprecision
    · exact absurd hprecision List.not_mem_nil
    · rcases List.mem_cons.1 hprecision with rfl | hp
      · decide
      · exact hdigits _ hp
  · cases f.letter <;> decide

end Format

/-! ## Constants -/

/-- The sign in front of a decimal number. -/
inductive Sign where
  /-- None. -/
  | none
  /-- A plus sign, which changes nothing. -/
  | plus
  /-- A minus sign. -/
  | minus
  deriving DecidableEq

/-- **A decimal number of 64 bits** as it is written between braces. -/
structure Constant where
  /-- The sign. -/
  sign : Sign
  /-- The digits. -/
  digits : Digits
  /-- There are digits. -/
  digits_ne : digits.chars ≠ []
  /-- A negative number is at least the least one. -/
  least_le : sign = .minus → digits.value ≤ 9223372036854775808
  /-- Any other is at most the greatest one. -/
  le_greatest : sign ≠ .minus → digits.value ≤ 9223372036854775807

namespace Constant

/-- The number a constant stands for. -/
def value (n : Constant) : Int :=
  match n.sign with
  | .minus => -(n.digits.value : Int)
  | _ => n.digits.value

/-- The characters of a constant. -/
def chars (n : Constant) : List Char :=
  match n.sign with
  | .none => n.digits.chars
  | .plus => '+' :: n.digits.chars
  | .minus => '-' :: n.digits.chars

/-- A constant as it is written. -/
def bytes (n : Constant) : List UInt8 := utf8 n.chars

/-- A character of a constant is a sign or a digit. -/
theorem mem_chars {n : Constant} {c : Char} (h : c ∈ n.chars) :
    c = '+' ∨ c = '-' ∨ c.isDigit = true := by
  unfold chars at h
  split at h
  · exact .inr (.inr (n.digits.isDigit c h))
  · exact (List.mem_cons.1 h).imp_right fun hc => .inr (n.digits.isDigit c hc)
  · exact .inr ((List.mem_cons.1 h).imp_right fun hc => n.digits.isDigit c hc)

theorem ascii (n : Constant) : ∀ c ∈ n.chars, c.toNat < 128 := by
  intro c hc
  rcases mem_chars hc with rfl | rfl | hd
  · decide
  · decide
  · have := toNat_of_isDigit hd
    omega

/-- No blank occurs in a constant, so there is nothing to trim. -/
theorem trim_chars (n : Constant) : trim n.chars = n.chars := by
  have hblank : ∀ c ∈ n.chars, isBlank c = false := by
    intro c hc
    rcases mem_chars hc with rfl | rfl | hd
    · decide
    · decide
    · exact isBlank_of_isDigit hd
  exact trim_eq_self_iff.2 ⟨fun c hc => hblank c (List.mem_of_mem_head? hc),
    fun c hc => hblank c (List.mem_of_getLast? hc)⟩

/-- The digits of a constant are read as its number. -/
theorem int64?_chars (n : Constant) : int64? n.chars = some n.value := by
  have hleast := n.least_le
  have hgreatest := n.le_greatest
  unfold int64? chars value
  unfold Digits.value at hleast hgreatest ⊢
  cases hs : n.sign with
  | none =>
    have := hgreatest (by rw [hs]; decide)
    exact integer?_of_isDigit n.digits_ne n.digits.isDigit (by omega) (by omega)
  | plus =>
    have := hgreatest (by rw [hs]; decide)
    exact integer?_plus n.digits_ne n.digits.isDigit (by omega) (by omega)
  | minus =>
    have := hleast hs
    exact integer?_minus n.digits_ne n.digits.isDigit (by omega) (by omega)

/-- **A constant is read back from its bytes.** -/
theorem constantOf_bytes (n : Constant) : constantOf n.bytes = Int64.ofInt n.value := by
  rw [constantOf, bytes, decode?_utf8, Option.bind_some, n.trim_chars,
    n.int64?_chars]

/-- Neither a percent sign nor a closing brace occurs in a constant. -/
theorem ne_of_mem_bytes {n : Constant} {b : UInt8} (h : b ∈ n.bytes) :
    b ≠ 0x25 ∧ b ≠ 0x7d := by
  rw [bytes, utf8_of_ascii n.ascii, List.mem_map] at h
  obtain ⟨c, hc, rfl⟩ := h
  have hne : ∀ k < 128, c.toNat ≠ k → UInt8.ofNat c.toNat ≠ UInt8.ofNat k := by
    intro k hk hck heq
    have hmod := congrArg UInt8.toNat heq
    rw [UInt8.toNat_ofNat', UInt8.toNat_ofNat'] at hmod
    have := n.ascii c hc
    omega
  rcases mem_chars hc with rfl | rfl | hd
  · decide
  · decide
  · have := toNat_of_isDigit hd
    exact ⟨hne 0x25 (by omega) (by omega), hne 0x7d (by omega) (by omega)⟩

end Constant

end Teletype.Template
