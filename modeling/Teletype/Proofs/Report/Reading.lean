import Mathlib.Algebra.Group.Nat.Defs
import Mathlib.Data.List.Basic
import Mathlib.Data.List.Induction
import Teletype.Proofs.Report.Outline
import Teletype.Proofs.Text

/-!
# Reading a report

A reader of numbers that tries one digit more before it settles for those it has, and
goes back when nothing comes of it, can in general read bytes in many ways. Where
the parts can be told apart it never goes back far: what follows a number begins with no
digit, so that the number is the whole run. So the reader finds just the digits that the
words of the shape have there (`fields?_eq_some_iff`).

A number is refused when it does not fit. Eighteen digits always do, and where no run is
longer, bytes tell of a cursor exactly when they are a report (`cursor?_eq_some_iff`).
-/

namespace Teletype

namespace ReportShape

/-- **The number that digits stand for**, in decimal. -/
def value (digits : List UInt8) : Nat :=
  digits.foldl (fun n d => 10 * n + (d.toNat - 0x30)) 0

/-- **Whether bytes are a report of a cursor**: the row is the first number and the
column the second, both brought into range. -/
def Reports (shape : ReportShape) (bytes : List UInt8) (cursor : Cursor) : Prop :=
  ∃ row column, Spells shape.parts bytes [row, column] ∧
    cursor = ⟨coordinate (value column - if shape.oneBased then 1 else 0),
      coordinate (value row - if shape.oneBased then 1 else 0)⟩

section

variable {parts : List ReportPart} {bytes more : List UInt8} {fields : List (List UInt8)}
  {b : UInt8}

/-! ## Reading the numbers -/

/-- Digits in front of something else are the digits of one number. -/
theorem fields?_digits_append {digits : List UInt8} (hne : digits ≠ [])
    (hdigits : ∀ d ∈ digits, isDigit d = true) (hhead : ∀ c ∈ bytes.head?, isDigit c = false)
    (h : fields? parts bytes = some fields) :
    fields? (.number :: parts) (digits ++ bytes) = some (digits :: fields) := by
  induction digits with
  | nil => exact absurd rfl hne
  | cons d digits ih =>
    rw [List.cons_append, fields?, if_pos (hdigits d List.mem_cons_self)]
    by_cases hrest : digits = []
    · -- the number ends here, for it cannot go on
      have hnone : fields? (.number :: parts) bytes = none := by
        cases bytes with
        | nil => rfl
        | cons c bytes => rw [fields?, if_neg (by simp [hhead c rfl])]
      rw [hrest, List.nil_append, hnone, h]
      rfl
    · rw [ih hrest fun e he => hdigits e (List.mem_cons_of_mem d he)]
      rfl

/-- **What is spelled is read.** -/
theorem Spells.fields?_eq (h : Spells parts bytes fields) (hclear : Clear parts) :
    fields? parts bytes = some fields := by
  induction h with
  | nil => rfl
  | literal b _ ih => rw [fields?, if_pos (beq_self_eq_true b), ih hclear.tail]
  | number hne hdigits h ih =>
    exact fields?_digits_append hne hdigits (h.head?_ne hclear.tail hclear.head?_ne)
      (ih hclear.tail)

/-- **What is read is spelled.** -/
theorem spells_of_fields? (h : fields? parts bytes = some fields) :
    Spells parts bytes fields := by
  induction bytes generalizing parts fields with
  | nil =>
    cases parts with
    | nil =>
      obtain rfl : [] = fields := Option.some.inj h
      exact .nil
    | cons part parts => cases part <;> simp [fields?] at h
  | cons b bytes ih =>
    cases parts with
    | nil => simp [fields?] at h
    | cons part parts =>
      cases part with
      | literal c =>
        rw [fields?] at h
        split at h
        · next hc => exact beq_iff_eq.1 hc ▸ .literal b (ih h)
        · cases h
      | number =>
        rw [fields?] at h
        split at h
        · next hb =>
          split at h
          · next fs hfs =>
            obtain rfl := Option.some.inj h
            exact (ih hfs).cons_digit hb
          · obtain ⟨fs, hfs, rfl⟩ := Option.map_eq_some_iff.1 h
            exact (ih hfs).single hb
        · cases h

/-- **The numbers read are the numbers spelled.** -/
theorem fields?_eq_some_iff (hclear : Clear parts) :
    fields? parts bytes = some fields ↔ Spells parts bytes fields :=
  ⟨spells_of_fields?, fun h => h.fields?_eq hclear⟩

/-! ## The cursor a report tells of -/

theorem toNat_of_isDigit (h : isDigit b = true) : 0x30 ≤ b.toNat ∧ b.toNat ≤ 0x39 := by
  simp only [isDigit, Bool.and_eq_true, decide_eq_true_eq, UInt8.le_iff_toNat_le] at h
  exact h

/-- A digit as a character is a digit of the same value. -/
theorem char_of_isDigit (h : isDigit b = true) :
    (Char.ofNat b.toNat).toNat = b.toNat ∧ (Char.ofNat b.toNat).isDigit = true := by
  have hb := toNat_of_isDigit h
  have hchar : (Char.ofNat b.toNat).toNat = b.toNat := by
    rw [Char.ofNat, dif_pos (.inl (by omega))]
    rfl
  refine ⟨hchar, ?_⟩
  simp only [Char.isDigit, Bool.and_eq_true, decide_eq_true_eq, ge_iff_le,
    UInt32.le_iff_toNat_le]
  rw [show (Char.ofNat b.toNat).val.toNat = b.toNat from hchar]
  exact hb

/-- Digits as characters stand for the same number. -/
theorem ofDigitChars_map {digits : List UInt8} (h : ∀ d ∈ digits, isDigit d = true) :
    Nat.ofDigitChars 10 (digits.map fun d => Char.ofNat d.toNat) 0 = value digits := by
  rw [Nat.ofDigitChars, List.foldl_map, value]
  refine List.foldl_ext _ _ _ fun n d hd => ?_
  rw [(char_of_isDigit (h d hd)).1]
  rfl

/-- **Digits stand for less than a power of ten.** -/
theorem value_lt {digits : List UInt8} (h : ∀ d ∈ digits, isDigit d = true) :
    value digits < 10 ^ digits.length := by
  induction digits using List.reverseRecOn with
  | nil => decide
  | append_singleton digits d ih =>
    have hd := toNat_of_isDigit (h d (by simp))
    have hdigits := ih fun e he => h e (List.mem_append_left [d] he)
    have hvalue : value (digits ++ [d]) = 10 * value digits + (d.toNat - 0x30) := by
      simp [value]
    rw [hvalue, List.length_append, List.length_singleton, Nat.pow_succ]
    omega

/-- **A number of at most eighteen digits fits**, and is read as what it stands for. -/
theorem number?_of_length_le {digits : List UInt8} (hne : digits ≠ [])
    (hdigits : ∀ d ∈ digits, isDigit d = true) (hlength : digits.length ≤ 18) :
    number? digits = some (value digits : Int) := by
  have hchars : ∀ c ∈ digits.map (fun d => Char.ofNat d.toNat), c.isDigit = true := by
    intro c hc
    obtain ⟨d, hd, rfl⟩ := List.mem_map.1 hc
    exact (char_of_isDigit (hdigits d hd)).2
  have hlt : value digits < 10 ^ 18 :=
    Nat.lt_of_lt_of_le (value_lt hdigits) (Nat.pow_le_pow_right (by decide) hlength)
  have hvalue := ofDigitChars_map hdigits
  rw [number?, Text.int64?, Text.integer?_of_isDigit (by simpa using hne) hchars, hvalue]
  · omega
  · omega

/-- The digits of a number stand among the bytes. -/
theorem Spells.mem_fields (h : Spells parts bytes fields) {digits : List UInt8}
    (hmem : digits ∈ fields) :
    digits ≠ [] ∧ (∀ d ∈ digits, isDigit d = true) ∧ digits <:+: bytes := by
  induction h with
  | nil => cases hmem
  | literal b _ ih =>
    obtain ⟨hne, hdigits, hwithin⟩ := ih hmem
    exact ⟨hne, hdigits, hwithin.trans (List.suffix_cons _ _).isInfix⟩
  | @number first _ bytes _ hfirst hdigits _ ih =>
    rcases List.mem_cons.1 hmem with rfl | hmem
    · exact ⟨hfirst, hdigits, (List.prefix_append _ _).isInfix⟩
    · obtain ⟨hne, hdigits, hwithin⟩ := ih hmem
      exact ⟨hne, hdigits, hwithin.trans (List.suffix_append first bytes).isInfix⟩

/-- **Bytes without a run of more than eighteen digits.** -/
def ShortRuns (bytes : List UInt8) : Prop :=
  ∀ digits, digits <:+: bytes → (∀ d ∈ digits, isDigit d = true) → digits.length ≤ 18

theorem ShortRuns.of_infix (h : ShortRuns more) (hwithin : bytes <:+: more) : ShortRuns bytes :=
  fun digits hdigits => h digits (hdigits.trans hwithin)

/-- **What a report tells is read from it**, where runs of digits are short, and nothing
is read from anything else. -/
theorem cursor?_eq_some_iff {shape : ReportShape} {cursor : Cursor} (hclear : Clear shape.parts)
    (hruns : ShortRuns bytes) :
    shape.cursor? bytes = some cursor ↔ shape.Reports bytes cursor := by
  have hread : ∀ {row column}, Spells shape.parts bytes [row, column] →
      shape.cursor? bytes = some ⟨coordinate (value column - if shape.oneBased then 1 else 0),
        coordinate (value row - if shape.oneBased then 1 else 0)⟩ := by
    intro row column h
    have hnumber : ∀ digits ∈ [row, column], number? digits = some (value digits : Int) := by
      intro digits hmem
      obtain ⟨hne, hdigits, hwithin⟩ := h.mem_fields hmem
      exact number?_of_length_le hne hdigits (hruns digits hwithin hdigits)
    simp only [cursor?, (fields?_eq_some_iff hclear).2 h, Option.bind_eq_bind, Option.bind_some,
      hnumber row (by simp), hnumber column (by simp)]
  constructor
  · intro h
    cases hfields : fields? shape.parts bytes with
    | none => simp [cursor?, hfields] at h
    | some fields =>
      match fields, hfields with
      | [row, column], hfields =>
        have hspells := (fields?_eq_some_iff hclear).1 hfields
        exact ⟨row, column, hspells, Option.some.inj (h.symm.trans (hread hspells))⟩
      | [], hfields => simp [cursor?, hfields] at h
      | [_], hfields => simp [cursor?, hfields] at h
      | _ :: _ :: _ :: _, hfields => simp [cursor?, hfields] at h
  · rintro ⟨row, column, h, rfl⟩
    exact hread h

end

end ReportShape

end Teletype
