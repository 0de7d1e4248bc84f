import Mathlib.Tactic.ByContra
import Teletype.Report.Cursor

/-!
# The outline of a report

A report is literal bytes and two numbers, and a number is a run of digits of any
length. **What is left of some bytes when each run of digits in them becomes one number
is their outline.** Where no literal byte is a digit and the two numbers do not stand
side by side (`Clear`), the outline settles everything that is asked about a report:
bytes are a report when their outline is the parts of the shape, and they can still
become one when it is a beginning of those parts.

The outline is computed from the bytes alone, without the shape. So what the byte reader
does piece by piece – take a literal, take digits as long as there are any – is compared
with one list, and a question about several windows on the same bytes is one about the
outlines of the windows, which differ at their ends only.
-/

namespace Teletype

namespace ReportShape

/-! ## The words of a shape -/

/-- **Bytes that are some parts**: each literal byte is itself, and each number is one or
more digits. The digits of each number are given beside. -/
inductive Spells : List ReportPart → List UInt8 → List (List UInt8) → Prop
  | nil : Spells [] [] []
  | literal (b : UInt8) {parts bytes fields} :
      Spells parts bytes fields → Spells (.literal b :: parts) (b :: bytes) fields
  | number {digits parts bytes fields} :
      digits ≠ [] → (∀ d ∈ digits, isDigit d = true) → Spells parts bytes fields →
        Spells (.number :: parts) (digits ++ bytes) (digits :: fields)

/-- **Parts that can be told apart**: digits belong to numbers only, and there is
something between two numbers. -/
structure Clear (parts : List ReportPart) : Prop where
  /-- No literal byte is a digit. -/
  plain : ∀ b, .literal b ∈ parts → isDigit b = false
  /-- No two numbers stand side by side. -/
  apart : ¬ [.number, .number] <:+: parts

section

variable {parts : List ReportPart} {part : ReportPart} {bytes : List UInt8}
  {fields : List (List UInt8)} {b : UInt8}

theorem Clear.tail (h : Clear (part :: parts)) : Clear parts where
  plain b hb := h.plain b (List.mem_cons_of_mem part hb)
  apart hside := h.apart (hside.trans (List.suffix_cons part parts).isInfix)

/-- What follows a number is no number. -/
theorem Clear.head?_ne (h : Clear (.number :: parts)) : parts.head? ≠ some .number := by
  intro hhead
  obtain ⟨behind, rfl⟩ := List.head?_eq_some_iff.1 hhead
  exact h.apart (List.prefix_append [.number, .number] behind).isInfix

/-- What parts are followed by, when they do not begin with a number, begins with no
digit. -/
theorem Spells.head?_ne (h : Spells parts bytes fields) (hclear : Clear parts)
    (hhead : parts.head? ≠ some .number) : ∀ c ∈ bytes.head?, isDigit c = false := by
  cases h with
  | nil => intro c hc; cases hc
  | literal b _ =>
    intro c hc
    obtain rfl : b = c := Option.some.inj hc
    exact hclear.plain b List.mem_cons_self
  | number _ _ _ => exact absurd rfl hhead

/-- Parts one behind the other are spelled one behind the other. -/
theorem Spells.append {parts' : List ReportPart} {bytes' : List UInt8}
    {fields' : List (List UInt8)} (h : Spells parts bytes fields)
    (h' : Spells parts' bytes' fields') :
    Spells (parts ++ parts') (bytes ++ bytes') (fields ++ fields') := by
  induction h with
  | nil => exact h'
  | literal b _ ih => exact .literal b ih
  | number hne hdigits _ ih =>
    rw [List.append_assoc]
    exact .number hne hdigits ih

/-- A digit in front of a number is one more of its digits. -/
theorem Spells.cons_digit (hb : isDigit b = true) (h : Spells (.number :: parts) bytes fields) :
    Spells (.number :: parts) (b :: bytes) (consDigit b fields) := by
  cases h with
  | @number digits _ bytes fields hne hdigits h =>
    show Spells _ ((b :: digits) ++ bytes) ((b :: digits) :: fields)
    refine .number (List.cons_ne_nil b digits) ?_ h
    intro d hd
    rcases List.mem_cons.1 hd with rfl | hd
    · exact hb
    · exact hdigits d hd

/-- One digit is a number. -/
theorem Spells.single (h : Spells parts bytes fields) (hb : isDigit b = true) :
    Spells (.number :: parts) (b :: bytes) ([b] :: fields) := by
  show Spells _ ([b] ++ bytes) _
  refine .number (List.cons_ne_nil b []) ?_ h
  intro d hd
  exact List.mem_singleton.1 hd ▸ hb

/-- **Any parts can be spelled.** -/
theorem exists_spells (parts : List ReportPart) : ∃ bytes fields, Spells parts bytes fields := by
  induction parts with
  | nil => exact ⟨[], [], .nil⟩
  | cons part parts ih =>
    obtain ⟨bytes, fields, h⟩ := ih
    cases part with
    | literal b => exact ⟨b :: bytes, fields, .literal b h⟩
    | number => exact ⟨0x30 :: bytes, [0x30] :: fields, h.single rfl⟩

end

/-! ## Outlines -/

/-- A number in front of some parts, unless they begin with one. -/
def consNumber (parts : List ReportPart) : List ReportPart :=
  if parts.head? = some .number then parts else .number :: parts

/-- **The outline of some bytes**: each run of digits in them is one number. -/
def outline : List UInt8 → List ReportPart
  | [] => []
  | b :: bytes => if isDigit b then consNumber (outline bytes) else .literal b :: outline bytes

section

variable {b : UInt8} {bytes more : List UInt8} {parts parts' : List ReportPart}
  {fields : List (List UInt8)}

theorem outline_cons_of_digit (h : isDigit b = true) (bytes : List UInt8) :
    outline (b :: bytes) = consNumber (outline bytes) := by
  rw [outline, if_pos h]

theorem outline_cons_of_not_digit (h : isDigit b = false) (bytes : List UInt8) :
    outline (b :: bytes) = .literal b :: outline bytes := by
  rw [outline, if_neg (by simp [h])]

theorem consNumber_of_head? (h : parts.head? = some .number) : consNumber parts = parts :=
  if_pos h

theorem consNumber_of_ne (h : parts.head? ≠ some .number) :
    consNumber parts = .number :: parts :=
  if_neg h

/-- A digit opens a number. -/
theorem head?_outline_of_digit (h : isDigit b = true) (bytes : List UInt8) :
    (outline (b :: bytes)).head? = some .number := by
  rw [outline_cons_of_digit h]
  unfold consNumber
  split
  · assumption
  · rfl

/-- Nothing else does. -/
theorem head?_outline_ne (h : ∀ c ∈ bytes.head?, isDigit c = false) :
    (outline bytes).head? ≠ some .number := by
  cases bytes with
  | nil => simp [outline]
  | cons c bytes =>
    rw [outline_cons_of_not_digit (h c rfl)]
    simp

/-- A number in front leaves the parts behind it. -/
theorem suffix_consNumber (parts : List ReportPart) : parts <:+ consNumber parts := by
  unfold consNumber
  split
  · exact List.suffix_refl parts
  · exact List.suffix_cons .number parts

theorem consNumber_isPrefix (h : parts <+: parts') : consNumber parts <+: consNumber parts' := by
  cases parts with
  | nil =>
    -- with nothing behind it the number is the first part, whatever comes to stand there
    rw [consNumber_of_ne (by simp)]
    unfold consNumber
    split
    · next hhead =>
      obtain ⟨rest, rfl⟩ := List.head?_eq_some_iff.1 hhead
      exact List.prefix_append [.number] rest
    · exact List.prefix_append [.number] parts'
  | cons part rest =>
    obtain ⟨behind, rfl⟩ := h
    unfold consNumber
    rw [List.cons_append, List.head?_cons, List.head?_cons]
    split
    · exact List.prefix_append (part :: rest) behind
    · exact List.prefix_append (.number :: part :: rest) behind

/-- **More bytes behind leave the outline as a beginning.** -/
theorem outline_prefix_append (bytes more : List UInt8) :
    outline bytes <+: outline (bytes ++ more) := by
  induction bytes with
  | nil => exact List.nil_prefix
  | cons b bytes ih =>
    rw [List.cons_append]
    cases h : isDigit b with
    | true =>
      rw [outline_cons_of_digit h, outline_cons_of_digit h]
      exact consNumber_isPrefix ih
    | false =>
      rw [outline_cons_of_not_digit h, outline_cons_of_not_digit h]
      exact (List.prefix_append_right_inj [.literal b]).2 ih

/-- What an outline begins with stays there. -/
theorem head?_outline_append {part : ReportPart} (h : (outline bytes).head? = some part)
    (more : List UInt8) : (outline (bytes ++ more)).head? = some part := by
  obtain ⟨rest, hrest⟩ := List.head?_eq_some_iff.1 h
  obtain ⟨behind, hbehind⟩ := outline_prefix_append bytes more
  rw [← hbehind, hrest]
  rfl

/-- **More bytes in front leave the outline as an end.** -/
theorem outline_suffix_append (before bytes : List UInt8) :
    outline bytes <:+ outline (before ++ bytes) := by
  induction before with
  | nil => exact List.suffix_refl _
  | cons b before ih =>
    refine ih.trans ?_
    rw [List.cons_append]
    cases h : isDigit b with
    | true =>
      rw [outline_cons_of_digit h]
      exact suffix_consNumber _
    | false =>
      rw [outline_cons_of_not_digit h]
      exact List.suffix_cons _ _

/-- One more byte is one more part at the most. -/
theorem length_outline_concat (bytes : List UInt8) (b : UInt8) :
    (outline (bytes ++ [b])).length ≤ (outline bytes).length + 1 := by
  induction bytes with
  | nil => cases h : isDigit b <;> simp [outline, h, consNumber]
  | cons c bytes ih =>
    rw [List.cons_append]
    cases h : isDigit c with
    | false =>
      rw [outline_cons_of_not_digit h, outline_cons_of_not_digit h]
      exact Nat.succ_le_succ ih
    | true =>
      rw [outline_cons_of_digit h, outline_cons_of_digit h]
      by_cases hhead : (outline bytes).head? = some .number
      · rw [consNumber_of_head? hhead, consNumber_of_head? (head?_outline_append hhead [b])]
        exact ih
      · rw [consNumber_of_ne hhead]
        unfold consNumber
        split
        · exact Nat.le_succ_of_le ih
        · exact Nat.succ_le_succ ih

/-- **Bytes in front that do not show in the outline** do not show with more bytes behind
either: they are digits, in front of a digit. -/
theorem outline_append_cancel {before : List UInt8}
    (h : outline (before ++ bytes) = outline bytes) (more : List UInt8) :
    outline (before ++ (bytes ++ more)) = outline (bytes ++ more) := by
  induction before with
  | nil => rfl
  | cons b before ih =>
    rw [List.cons_append] at h ⊢
    -- the outline only grows to the front, so that each of these bytes leaves it as it is
    have hlength := (outline_suffix_append before bytes).length_le
    cases hb : isDigit b with
    | false =>
      rw [outline_cons_of_not_digit hb] at h
      have := congrArg List.length h
      rw [List.length_cons] at this
      omega
    | true =>
      rw [outline_cons_of_digit hb] at h
      have hrest : outline (before ++ bytes) = outline bytes := by
        refine ((outline_suffix_append before bytes).eq_of_length ?_).symm
        have := (suffix_consNumber (outline (before ++ bytes))).length_le
        rw [h] at this
        exact Nat.le_antisymm hlength this
      rw [hrest] at h
      have hhead : (outline bytes).head? = some .number := by
        by_contra hne
        rw [consNumber_of_ne hne] at h
        exact absurd (congrArg List.length h) (by simp)
      rw [outline_cons_of_digit hb, ih hrest]
      exact consNumber_of_head? (head?_outline_append hhead more)

/-! ## What the outline settles -/

/-- **Bytes spell their own outline.** -/
theorem exists_spells_outline (bytes : List UInt8) : ∃ fields, Spells (outline bytes) bytes fields := by
  induction bytes with
  | nil => exact ⟨[], .nil⟩
  | cons b bytes ih =>
    obtain ⟨fields, h⟩ := ih
    cases hb : isDigit b with
    | false =>
      rw [outline_cons_of_not_digit hb]
      exact ⟨fields, .literal b h⟩
    | true =>
      rw [outline_cons_of_digit hb]
      unfold consNumber
      split
      · next hhead =>
        -- the digit joins the run behind it
        obtain ⟨rest, hrest⟩ := List.head?_eq_some_iff.1 hhead
        rw [hrest] at h ⊢
        exact ⟨consDigit b fields, h.cons_digit hb⟩
      · exact ⟨[b] :: fields, h.single hb⟩

/-- The outline of digits, with no digit behind them, begins with one number. -/
theorem outline_digits_append {digits : List UInt8} (hne : digits ≠ [])
    (hdigits : ∀ d ∈ digits, isDigit d = true) (hhead : (outline bytes).head? ≠ some .number) :
    outline (digits ++ bytes) = .number :: outline bytes := by
  induction digits with
  | nil => exact absurd rfl hne
  | cons d digits ih =>
    rw [List.cons_append, outline_cons_of_digit (hdigits d List.mem_cons_self)]
    by_cases hrest : digits = []
    · rw [hrest, List.nil_append, consNumber_of_ne hhead]
    · rw [ih hrest fun e he => hdigits e (List.mem_cons_of_mem d he)]
      exact consNumber_of_head? rfl

/-- **What parts spell has them as its outline.** -/
theorem Spells.outline_eq (h : Spells parts bytes fields) (hclear : Clear parts) :
    outline bytes = parts := by
  induction h with
  | nil => rfl
  | literal b _ ih =>
    rw [outline_cons_of_not_digit (hclear.plain b List.mem_cons_self), ih hclear.tail]
  | number hne hdigits _ ih =>
    have hrest := ih hclear.tail
    rw [outline_digits_append hne hdigits (hrest ▸ hclear.head?_ne), hrest]

/-- **Bytes spell clear parts exactly when these are their outline.** -/
theorem exists_spells_iff (hclear : Clear parts) :
    (∃ fields, Spells parts bytes fields) ↔ outline bytes = parts := by
  constructor
  · rintro ⟨fields, h⟩
    exact h.outline_eq hclear
  · rintro rfl
    exact exists_spells_outline bytes

/-- **Bytes can still come to spell clear parts exactly when their outline is a beginning
of these.** -/
theorem exists_spells_append_iff (hclear : Clear parts) :
    (∃ more fields, Spells parts (bytes ++ more) fields) ↔ outline bytes <+: parts := by
  constructor
  · rintro ⟨more, fields, h⟩
    exact h.outline_eq hclear ▸ outline_prefix_append bytes more
  · rintro ⟨behind, rfl⟩
    obtain ⟨fields, h⟩ := exists_spells_outline bytes
    obtain ⟨more, fields', h'⟩ := exists_spells behind
    exact ⟨more, fields ++ fields', h.append h'⟩

/-- A run of digits at the front, and what is behind it. -/
theorem exists_digits_append (bytes : List UInt8) :
    ∃ digits left, bytes = digits ++ left ∧ (∀ d ∈ digits, isDigit d = true)
      ∧ ∀ c ∈ left.head?, isDigit c = false := by
  refine ⟨bytes.takeWhile isDigit, bytes.dropWhile isDigit,
    List.takeWhile_append_dropWhile.symm, List.all_eq_true.1 List.all_takeWhile, fun c hc => ?_⟩
  have hnot := List.head?_dropWhile_not isDigit bytes
  rwa [Option.mem_def.1 hc] at hnot

@[simp] theorem outline_eq_nil_iff : outline bytes = [] ↔ bytes = [] := by
  cases bytes with
  | nil => simp [outline]
  | cons b bytes =>
    simp only [outline, consNumber, reduceCtorEq, iff_false]
    split
    · split
      · next hhead => exact List.ne_nil_of_mem (List.mem_of_head? hhead)
      · simp
    · simp

/-- The walk stops where a number should be and is not. -/
theorem couldBecome_number_of_head? (hne : bytes ≠ []) (hhead : ∀ c ∈ bytes.head?, isDigit c = false) :
    couldBecome (.number :: parts) bytes = false := by
  cases bytes with
  | nil => exact absurd rfl hne
  | cons c bytes => simp [couldBecome, hhead c rfl]

/-- The walk goes on behind a number, or ends there with the bytes. -/
theorem couldBecome_digits_append {digits : List UInt8} (hne : digits ≠ [])
    (hdigits : ∀ d ∈ digits, isDigit d = true) (hhead : ∀ c ∈ bytes.head?, isDigit c = false) :
    couldBecome (.number :: parts) (digits ++ bytes)
      = (bytes.isEmpty || couldBecome parts bytes) := by
  have hleft : (digits ++ bytes).dropWhile isDigit = bytes := by
    rw [List.dropWhile_append_of_pos hdigits]
    cases bytes with
    | nil => rfl
    | cons c bytes => rw [List.dropWhile_cons_of_neg (by simp [hhead c rfl])]
  rw [couldBecome, hleft]
  cases bytes with
  | nil => rfl
  | cons c bytes =>
    have hlength : (c :: bytes).length ≠ (digits ++ c :: bytes).length := by
      have := List.length_pos_iff.2 hne
      rw [List.length_append]
      omega
    show (if (decide ((c :: bytes).length = _) || parts.isEmpty) = true then false
      else couldBecome parts (c :: bytes)) = couldBecome parts (c :: bytes)
    rw [decide_eq_false hlength, Bool.false_or]
    cases parts with
    | nil => rfl
    | cons part parts => rfl

/-- **The walk along the parts** finds out whether bytes could become a report. -/
theorem couldBecome_iff (hclear : Clear parts) :
    couldBecome parts bytes = true ↔ outline bytes <+: parts := by
  induction parts generalizing bytes with
  | nil => rw [couldBecome, List.isEmpty_iff, List.prefix_nil, outline_eq_nil_iff]
  | cons part parts ih =>
    cases part with
    | literal b =>
      cases bytes with
      | nil => simp [couldBecome, outline]
      | cons c bytes =>
        rw [couldBecome, Bool.and_eq_true, beq_iff_eq, ih hclear.tail]
        cases hc : isDigit c with
        | false =>
          rw [outline_cons_of_not_digit hc, List.cons_prefix_cons, ReportPart.literal.injEq]
        | true =>
          have hne : c ≠ b := by
            rintro rfl
            exact Bool.false_ne_true ((hclear.plain c List.mem_cons_self).symm.trans hc)
          obtain ⟨rest, hrest⟩ := List.head?_eq_some_iff.1 (head?_outline_of_digit hc bytes)
          rw [hrest, List.cons_prefix_cons]
          simp [hne]
    | number =>
      obtain ⟨digits, left, rfl, hdigits, hhead⟩ := exists_digits_append bytes
      by_cases hnone : digits = []
      · subst hnone
        rw [List.nil_append]
        by_cases hnil : left = []
        · simp [hnil, couldBecome, outline]
        · rw [couldBecome_number_of_head? hnil hhead]
          refine iff_of_false Bool.false_ne_true ?_
          rintro ⟨behind, hbehind⟩
          cases hparts : outline left with
          | nil => exact hnil (outline_eq_nil_iff.1 hparts)
          | cons part rest =>
            rw [hparts, List.cons_append, List.cons.injEq] at hbehind
            refine head?_outline_ne hhead ?_
            rw [hparts, List.head?_cons, hbehind.1]
      · rw [couldBecome_digits_append hnone hdigits hhead,
          outline_digits_append hnone hdigits (head?_outline_ne hhead), List.cons_prefix_cons,
          Bool.or_eq_true, ih hclear.tail, List.isEmpty_iff]
        refine ⟨fun h => ⟨rfl, h.elim ?_ id⟩, fun h => .inr h.2⟩
        rintro rfl
        exact List.nil_prefix

/-- **Bytes are kept as long as more bytes can make a report of them**, and no longer. -/
theorem couldBecome_iff_exists (hclear : Clear parts) :
    couldBecome parts bytes = true ↔ ∃ more fields, Spells parts (bytes ++ more) fields := by
  rw [couldBecome_iff hclear, exists_spells_append_iff hclear]

end

end ReportShape

end Teletype
