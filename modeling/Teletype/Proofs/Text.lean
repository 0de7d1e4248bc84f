import Teletype.Text.Blank
import Teletype.Text.Numeral
import Teletype.Text.Utf8

/-!
# Trimming, bytes and numerals of texts

Templates, descriptions and reports are read back from what was written into
them, and they lean on the same few facts. Trimming is undone by having nothing
to trim, and blanks added at the ends do not change what is left. A text is read
back from its bytes, and those of an ASCII text are its characters one by one.
And a run of decimal digits is read as the number it spells, `Nat.ofDigitChars`,
so that a numeral printed from a number is read as that number.
-/

namespace Teletype.Text

/-! ## Trimming -/

/-- A text that starts with something not blank keeps its start. -/
theorem trimStart_cons {c : Char} (h : isBlank c = false) (cs : List Char) :
    trimStart (c :: cs) = c :: cs := by
  rw [trimStart, List.dropWhile_cons, h]
  rfl

/-- Blanks in front go. -/
theorem trimStart_append {gap : List Char} (h : ∀ c ∈ gap, isBlank c = true)
    (cs : List Char) : trimStart (gap ++ cs) = trimStart cs := by
  induction gap with
  | nil => rfl
  | cons c gap ih =>
    rw [List.cons_append, trimStart, List.dropWhile_cons,
      if_pos (h c (List.mem_cons_self ..))]
    exact ih fun d hd => h d (List.mem_cons_of_mem _ hd)

/-- Trimming the end is trimming the start of the text read backwards. -/
theorem reverse_trimEnd (cs : List Char) : (trimEnd cs).reverse = trimStart cs.reverse := by
  rw [trimEnd, List.reverse_reverse]
  rfl

/-- Blanks behind go. -/
theorem trimEnd_append {gap : List Char} (h : ∀ c ∈ gap, isBlank c = true)
    (cs : List Char) : trimEnd (cs ++ gap) = trimEnd cs := by
  rw [← List.reverse_inj, reverse_trimEnd, reverse_trimEnd, List.reverse_append]
  exact trimStart_append (fun c hc => h c (List.mem_reverse.1 hc)) _

/-- Nothing is left of blanks. -/
theorem trim_blanks {gap : List Char} (h : ∀ c ∈ gap, isBlank c = true) : trim gap = [] := by
  have hs : trimStart gap = [] := by
    have := trimStart_append h []
    rwa [List.append_nil] at this
  rw [trim, hs]
  rfl

/-- What is left after trimming the start starts with something not blank. -/
theorem isBlank_head?_trimStart {cs : List Char} {c : Char}
    (h : (trimStart cs).head? = some c) : isBlank c = false := by
  have := List.head?_dropWhile_not isBlank cs
  rw [show cs.dropWhile isBlank = trimStart cs from rfl, h] at this
  simpa using this

/-- **Trimming leaves a text alone** exactly when neither end is blank. -/
theorem trim_eq_self_iff {cs : List Char} :
    trim cs = cs ↔ (∀ c ∈ cs.head?, isBlank c = false) ∧ ∀ c ∈ cs.getLast?, isBlank c = false := by
  have hstart : ∀ xs : List Char, (∀ c ∈ xs.head?, isBlank c = false) → trimStart xs = xs := by
    intro xs hxs
    cases xs with
    | nil => rfl
    | cons c xs => exact trimStart_cons (hxs c rfl) xs
  constructor
  · intro h
    -- both ends are ends of a trimmed text
    have hs : trimStart cs = cs := by
      refine (List.dropWhile_sublist _).eq_of_length_le ?_
      have hle : (trim cs).length ≤ (trimStart cs).length := by
        rw [trim, ← List.length_reverse, reverse_trimEnd]
        exact Nat.le_trans (List.dropWhile_sublist _).length_le (Nat.le_of_eq List.length_reverse)
      rwa [h] at hle
    refine ⟨fun c hc => isBlank_head?_trimStart (hs ▸ hc), fun c hc => ?_⟩
    have he : trimStart cs.reverse = cs.reverse := by
      rw [← reverse_trimEnd, ← hs, ← trim, h, hs]
    rw [← List.head?_reverse] at hc
    exact isBlank_head?_trimStart (he ▸ hc)
  · rintro ⟨hhead, hlast⟩
    rw [trim, hstart cs hhead, ← List.reverse_inj, reverse_trimEnd]
    exact hstart _ (by rwa [List.head?_reverse])

/-- A text without blanks has nothing to trim. -/
theorem trim_of_forall {cs : List Char} (h : ∀ c ∈ cs, isBlank c = false) : trim cs = cs :=
  trim_eq_self_iff.2 ⟨fun c hc => h c (List.mem_of_mem_head? hc),
    fun c hc => h c (List.mem_of_mem_getLast? hc)⟩

theorem trimEnd_prefix (cs : List Char) : trimEnd cs <+: cs := by
  have hsuffix := List.reverse_prefix.2 (List.dropWhile_suffix (l := cs.reverse) isBlank)
  rwa [List.reverse_reverse] at hsuffix

/-- Trimming once is enough. -/
@[simp] theorem trim_trim (cs : List Char) : trim (trim cs) = trim cs := by
  refine trim_eq_self_iff.2 ⟨fun c hc => ?_, fun c hc => ?_⟩
  · -- the start of what is left is the start of the text without its leading blanks
    obtain ⟨blanks, hblanks⟩ := trimEnd_prefix (trimStart cs)
    refine @isBlank_head?_trimStart cs c ?_
    rw [← hblanks, List.head?_append]
    rw [trim] at hc
    rw [Option.mem_def.1 hc]
    rfl
  · rw [trim, ← List.head?_reverse, reverse_trimEnd] at hc
    exact isBlank_head?_trimStart hc

/-- Blanks on either side of a text do not survive trimming. -/
theorem trim_append_append {before after : List Char}
    (hb : ∀ c ∈ before, isBlank c = true) (ha : ∀ c ∈ after, isBlank c = true)
    {cs : List Char} (h : trim cs = cs) : trim (before ++ cs ++ after) = cs := by
  rw [List.append_assoc, trim, trimStart_append hb]
  cases cs with
  | nil => exact trim_blanks ha
  | cons c cs =>
    have hc : trimStart (c :: cs) = c :: cs := trimStart_cons ((trim_eq_self_iff.1 h).1 c rfl) cs
    rw [List.cons_append, trimStart_cons ((trim_eq_self_iff.1 h).1 c rfl),
      ← List.cons_append, trimEnd_append ha]
    rwa [trim, hc] at h

/-! ## Bytes of texts -/

theorem utf8_append (cs ds : List Char) : utf8 (cs ++ ds) = utf8 cs ++ utf8 ds :=
  List.flatMap_append

/-- The byte of an ASCII character. -/
theorem utf8_cons_of_ascii {c : Char} (h : c.toNat < 128) (cs : List Char) :
    utf8 (c :: cs) = UInt8.ofNat c.toNat :: utf8 cs := by
  have hsize : c.utf8Size = 1 := by
    rw [Char.utf8Size_eq_one_iff, UInt32.le_iff_toNat_le]
    exact Nat.le_of_lt_succ h
  rw [utf8_cons, String.utf8EncodeChar_eq_singleton hsize]
  rfl

/-- The bytes of an ASCII text are its characters. -/
theorem utf8_of_ascii {cs : List Char} (h : ∀ c ∈ cs, c.toNat < 128) :
    utf8 cs = cs.map fun c => UInt8.ofNat c.toNat := by
  induction cs with
  | nil => rfl
  | cons c cs ih =>
    rw [utf8_cons_of_ascii (h c (List.mem_cons_self ..)), List.map_cons,
      ih fun d hd => h d (List.mem_cons_of_mem _ hd)]

/-! ## Reading bytes back -/

deriving instance DecidableEq for Lead

theorem lead_two : ∀ n < 32, 2 ≤ n →
    Lead.of? (UInt8.ofNat (n + 192)) = some ⟨1, 0x80, 0xbf, n⟩ := by
  decide

theorem lead_three : ∀ n < 16, Lead.of? (UInt8.ofNat (n + 224))
      = some ⟨2, if n = 0 then 0xa0 else 0x80, if n = 13 then 0x9f else 0xbf, n⟩ := by
  decide

theorem lead_four : ∀ n < 5, Lead.of? (UInt8.ofNat (n + 240))
      = some ⟨3, if n = 0 then 0x90 else 0x80, if n = 4 then 0x8f else 0xbf, n⟩ := by
  decide

/-- A byte behind the first brings six bits, if it is within the bounds that the first sets. -/
theorem continuation_cons {least greatest : UInt8} (n more bits : Nat) (rest : List UInt8)
    (hleast : least.toNat ≤ n % 64 + 128) (hgreatest : n % 64 + 128 ≤ greatest.toNat) :
    continuation (more + 1) least greatest bits (UInt8.ofNat (n % 64 + 128) :: rest)
      = continuation more 0x80 0xbf (bits * 64 + n % 64) rest := by
  have hbyte : (UInt8.ofNat (n % 64 + 128)).toNat = n % 64 + 128 := by
    rw [UInt8.toNat_ofNat']
    omega
  have hlow : ∀ d < 64, (UInt8.ofNat (d + 128) &&& 0x3f).toNat = d := by decide
  rw [continuation, if_pos, hlow _ (Nat.mod_lt n (by decide))]
  simp only [Bool.and_eq_true, decide_eq_true_eq, UInt8.le_iff_toNat_le, hbyte]
  exact ⟨hleast, hgreatest⟩

/-- Most are. -/
theorem continuation_middle (n more bits : Nat) (rest : List UInt8) :
    continuation (more + 1) 0x80 0xbf bits (UInt8.ofNat (n % 64 + 128) :: rest)
      = continuation more 0x80 0xbf (bits * 64 + n % 64) rest :=
  continuation_cons n more bits rest (Nat.le_add_left ..)
    (Nat.add_le_add_right (Nat.le_of_lt_succ (Nat.mod_lt n (by decide))) 128)

/-- A character of several bytes is read off the front of them. -/
theorem decodeParts_of_lead {b least greatest : UInt8} {more bits : Nat} {rest left : List UInt8}
    {c : Char} (hlead : Lead.of? b = some ⟨more, least, greatest, bits⟩) (hb : 0x80 ≤ b)
    (h : continuation more least greatest bits rest = (some c.toNat, left)) :
    decodeParts (b :: rest) = some c :: decodeParts left := by
  have hnext : nextChar b rest = (some c, left) := by
    rw [nextChar, if_neg (UInt8.not_lt.2 hb), hlead]
    dsimp only
    rw [h, Option.map_some, Char.ofNat_toNat]
  rw [decodeParts, hnext]

/-- **A character is read back from its bytes**, whatever follows them. -/
theorem decodeParts_utf8EncodeChar (c : Char) (rest : List UInt8) :
    decodeParts (String.utf8EncodeChar c ++ rest) = some c :: decodeParts rest := by
  have hc : c.toNat < 0xd800 ∨ 0xdfff < c.toNat ∧ c.toNat < 0x110000 := c.valid
  have hbyte : ∀ {n : Nat}, n < 256 → (UInt8.ofNat n).toNat = n := fun h => by
    rw [UInt8.toNat_ofNat', Nat.mod_eq_of_lt h]
  have hhigh : ∀ {n : Nat}, 128 ≤ n → n < 256 → 0x80 ≤ UInt8.ofNat n := fun h hlt => by
    rw [UInt8.le_iff_toNat_le, hbyte hlt]
    exact h
  unfold String.utf8EncodeChar
  dsimp only
  rw [show c.val.toNat = c.toNat from rfl]
  -- as many bytes as the number needs
  split
  · have hnext : nextChar (UInt8.ofNat c.toNat) rest = (some c, rest) := by
      rw [nextChar, if_pos, hbyte (by omega), Char.ofNat_toNat]
      rw [UInt8.lt_iff_toNat_lt, hbyte (by omega)]
      exact Nat.lt_of_le_of_lt ‹_› (by decide)
    rw [List.singleton_append, decodeParts, hnext]
  · split
    · rw [List.cons_append, List.singleton_append]
      refine decodeParts_of_lead (lead_two _ (by omega) (by omega)) (hhigh (by omega) (by omega)) ?_
      rw [continuation_middle, continuation]
      congr 2
      omega
    · split
      · simp only [List.cons_append, List.nil_append]
        refine decodeParts_of_lead (lead_three _ (by omega)) (hhigh (by omega) (by omega)) ?_
        rw [continuation_cons, continuation_middle, continuation]
        · congr 2
          omega
        · split
          · show 160 ≤ _
            omega
          · exact Nat.le_add_left ..
        · split
          · show _ ≤ 159
            omega
          · show _ ≤ 191
            omega
      · simp only [List.cons_append, List.nil_append]
        refine decodeParts_of_lead (lead_four _ (by omega)) (hhigh (by omega) (by omega)) ?_
        rw [continuation_cons, continuation_middle, continuation_middle, continuation]
        · congr 2
          omega
        · split
          · show 144 ≤ _
            omega
          · exact Nat.le_add_left ..
        · split
          · show _ ≤ 143
            omega
          · show _ ≤ 191
            omega

/-- **A text is read back from its bytes.** -/
theorem decode?_utf8 (cs : List Char) : decode? (utf8 cs) = some cs := by
  have hparts : decodeParts (utf8 cs) = cs.map some := by
    induction cs with
    | nil => rw [utf8_nil, decodeParts, List.map_nil]
    | cons c cs ih => rw [utf8_cons, decodeParts_utf8EncodeChar, ih, List.map_cons]
  have hall : ∀ ds : List Char, (ds.map some).mapM id = some ds := by
    intro ds
    induction ds with
    | nil => rfl
    | cons d ds ih => rw [List.map_cons, List.mapM_cons, ih]; rfl
  rw [decode?, hparts, hall]

/-! ## Numerals -/

/-- A decimal digit is an ASCII character between `0` and `9`. -/
theorem toNat_of_isDigit {c : Char} (h : c.isDigit = true) : 48 ≤ c.toNat ∧ c.toNat ≤ 57 := by
  simp only [Char.isDigit, Bool.and_eq_true, decide_eq_true_eq, ge_iff_le,
    UInt32.le_iff_toNat_le] at h
  exact h

/-- The letters and digits of ASCII are in three blocks. -/
theorem toNat_of_isAlphanum {c : Char} (h : c.isAlphanum = true) :
    (65 ≤ c.toNat ∧ c.toNat ≤ 90) ∨ (97 ≤ c.toNat ∧ c.toNat ≤ 122)
      ∨ (48 ≤ c.toNat ∧ c.toNat ≤ 57) := by
  have hclass : ((c.isUpper || c.isLower) || c.isDigit) = true := h
  rw [Bool.or_eq_true, Bool.or_eq_true] at hclass
  rcases hclass with (hupper | hlower) | hdigit
  · have hbounds : 'A'.val ≤ c.val ∧ c.val ≤ 'Z'.val := of_decide_eq_true hupper
    exact .inl ⟨UInt32.le_iff_toNat_le.1 hbounds.1, UInt32.le_iff_toNat_le.1 hbounds.2⟩
  · have hbounds : (decide ('a'.val ≤ c.val) && decide (c.val ≤ 'z'.val)) = true := hlower
    rw [Bool.and_eq_true, decide_eq_true_eq, decide_eq_true_eq] at hbounds
    exact .inr (.inl ⟨UInt32.le_iff_toNat_le.1 hbounds.1, UInt32.le_iff_toNat_le.1 hbounds.2⟩)
  · exact .inr (.inr (toNat_of_isDigit hdigit))

/-- No letter and no digit is blank. -/
theorem isBlank_of_isAlphanum {c : Char} (h : c.isAlphanum = true) : isBlank c = false := by
  have hc := toNat_of_isAlphanum h
  simp only [isBlank, Bool.or_eq_false_iff, Bool.and_eq_false_iff, decide_eq_false_iff_not,
    beq_eq_false_iff_ne, ne_eq]
  omega

/-- No digit is blank. -/
theorem isBlank_of_isDigit {c : Char} (h : c.isDigit = true) : isBlank c = false :=
  isBlank_of_isAlphanum (by rw [Char.isAlphanum, h, Bool.or_true])

/-- A decimal digit at the end of a numeral. -/
theorem pushDigit?_of_isDigit {c : Char} (h : c.isDigit = true) (value : Nat) :
    pushDigit? 10 value c = some (10 * value + (c.toNat - '0'.toNat)) := by
  have hc := toNat_of_isDigit h
  have hrange : ('0' ≤ c && c ≤ '9') = true := by
    simp only [Bool.and_eq_true, decide_eq_true_eq, Char.le_def, UInt32.le_iff_toNat_le]
    exact hc
  have hlt : c.toNat - '0'.toNat < 10 := by
    show c.toNat - 48 < 10
    omega
  simp only [pushDigit?, digitValue?, hrange, if_true, Option.bind_eq_bind, Option.bind_some,
    hlt, Nat.mul_comm]

/-- **A run of decimal digits is read as the number it spells.** -/
theorem digits?_of_isDigit {cs : List Char} (hne : cs ≠ []) (h : ∀ c ∈ cs, c.isDigit = true) :
    digits? 10 cs = some (Nat.ofDigitChars 10 cs 0) := by
  have hfold : ∀ (ds : List Char) (value : Nat), (∀ c ∈ ds, c.isDigit = true) →
      ds.foldlM (pushDigit? 10) value = some (Nat.ofDigitChars 10 ds value) := by
    intro ds
    induction ds with
    | nil => intro value _; rw [Nat.ofDigitChars_nil]; rfl
    | cons d ds ih =>
      intro value hds
      rw [List.foldlM_cons, pushDigit?_of_isDigit (hds d (List.mem_cons_self ..)),
        Nat.ofDigitChars_cons]
      exact ih _ fun c hc => hds c (List.mem_cons_of_mem _ hc)
  cases cs with
  | nil => exact absurd rfl hne
  | cons c cs => exact hfold (c :: cs) 0 h

/-- A numeral without a sign is an integer of its value. -/
theorem integer?_of_isDigit {cs : List Char} (hne : cs ≠ []) (h : ∀ c ∈ cs, c.isDigit = true)
    {least greatest : Int} (hl : least ≤ Nat.ofDigitChars 10 cs 0)
    (hg : Nat.ofDigitChars 10 cs 0 ≤ greatest) :
    integer? 10 least greatest cs = some (Nat.ofDigitChars 10 cs 0 : Int) := by
  have hplus : ∀ rest, cs ≠ '+' :: rest := by
    rintro rest rfl
    exact absurd (h '+' (List.mem_cons_self ..)) (by decide)
  have hminus : ∀ rest, cs ≠ '-' :: rest := by
    rintro rest rfl
    exact absurd (h '-' (List.mem_cons_self ..)) (by decide)
  unfold integer?
  split
  · exact absurd rfl (hplus _)
  · exact absurd rfl (hminus _)
  · rw [digits?_of_isDigit hne h]
    simp [hl, hg]

/-- A numeral behind a plus sign. -/
theorem integer?_plus {cs : List Char} (hne : cs ≠ []) (h : ∀ c ∈ cs, c.isDigit = true)
    {least greatest : Int} (hl : least ≤ Nat.ofDigitChars 10 cs 0)
    (hg : Nat.ofDigitChars 10 cs 0 ≤ greatest) :
    integer? 10 least greatest ('+' :: cs) = some (Nat.ofDigitChars 10 cs 0 : Int) := by
  simp only [integer?]
  rw [digits?_of_isDigit hne h]
  simp [hl, hg]

/-- A numeral behind a minus sign. -/
theorem integer?_minus {cs : List Char} (hne : cs ≠ []) (h : ∀ c ∈ cs, c.isDigit = true)
    {least greatest : Int} (hl : least ≤ -(Nat.ofDigitChars 10 cs 0 : Int))
    (hg : -(Nat.ofDigitChars 10 cs 0 : Int) ≤ greatest) :
    integer? 10 least greatest ('-' :: cs) = some (-(Nat.ofDigitChars 10 cs 0 : Int)) := by
  simp only [integer?]
  rw [digits?_of_isDigit hne h]
  simp [hl, hg]

/-! ## Numerals of natural numbers -/

theorem isDigit_of_mem_decimal {n : Nat} {c : Char} (h : c ∈ decimal n) : c.isDigit = true :=
  Nat.isDigit_of_mem_toDigits (by decide) (by decide) h

theorem decimal_ne_nil (n : Nat) : decimal n ≠ [] := Nat.toDigits_ne_nil

/-- The numeral of a number spells it. -/
theorem ofDigitChars_decimal (n : Nat) : Nat.ofDigitChars 10 (decimal n) 0 = n :=
  Nat.ofDigitChars_ten_toDigits

/-- **The numeral of a number is read as that number**, if it fits in 64 bits. -/
theorem int64?_decimal {n : Nat} (h : n ≤ 9223372036854775807) :
    int64? (decimal n) = some (n : Int) := by
  have hread : int64? (decimal n) = some (Nat.ofDigitChars 10 (decimal n) 0 : Int) := by
    refine integer?_of_isDigit (decimal_ne_nil n) (fun c => isDigit_of_mem_decimal) ?_ ?_
    · omega
    · rw [ofDigitChars_decimal]
      omega
  rwa [ofDigitChars_decimal] at hread

end Teletype.Text
