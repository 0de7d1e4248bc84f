import Teletype.Attributes.Listing
import Teletype.Proofs.Stty.Words

/-!
# Values of a settings listing

A slot is listed by its count, by the caret spelling of its character, or as disabled. Counts
and disabled slots are always read back, and so are most characters (`charText_reads`). The
others are misread: digits as the numbers that they spell, a caret and `M-^` as nothing since
the byte they belong to is missing, and the high forms of a blank and of a semicolon as
nothing, too, since they end with the `M-` in front (`caret_misreads`). A blank character
is passed over in search of the value, unless nothing follows that could be one. Altogether
this says which values are read back from where they stand (`charText_read_iff`).
-/

namespace Teletype.Stty

open Text Attributes

/-- **A byte that is read back** from its caret spelling, wherever in a listing it stands. -/
def Legible (b : UInt8) : Prop :=
  b ∉ [0x20, 0x5e, 0xa0, 0xbb, 0xde] ∧ ¬ (0x30 ≤ b ∧ b ≤ 0x39)

instance : DecidablePred Legible := fun _ => inferInstanceAs (Decidable (_ ∧ _))

/-- **Values that are read back** where a slot is listed. A blank is one at the end. -/
def Readable (c : ControlChar) (value : Option UInt8) : Prop :=
  c.isCount = false → ∀ b ∈ value, Legible b ∨ (c = .status ∧ b = 0x20)

section

variable {b : UInt8} {c : ControlChar} {value : Option UInt8} {rest : List Char}

theorem forall_byte {P : UInt8 → Prop} (h : ∀ n : Fin 256, P (UInt8.ofNat n)) (b : UInt8) :
    P b := by
  have hb := h b.toFin
  rwa [show UInt8.ofNat b.toFin = b from UInt8.ofNat_toNat] at hb

theorem toList_charText_some (c : ControlChar) (b : UInt8) :
    (charText c (some b)).toList = if c.isCount then decimal b.toNat else caret b := by
  cases hc : c.isCount with
  | false => simp [charText, hc]
  | true => simp [charText, hc, decimal]

/-! ## Read back -/

theorem decimal_reads (b : UInt8) :
    IsValue (decimal b.toNat) ∧ charValue? (decimal b.toNat) = some (some b) :=
  forall_byte (P := fun b => IsValue (decimal b.toNat) ∧
    charValue? (decimal b.toNat) = some (some b)) (by decide +kernel) b

theorem caret_reads (h : Legible b) :
    IsValue (caret b) ∧ charValue? (caret b) = some (some b) :=
  forall_byte (P := fun b => Legible b → IsValue (caret b) ∧
    charValue? (caret b) = some (some b)) (by decide +kernel) b h

/-- **Values that are read back**: counts, disabled slots and legible characters. -/
theorem charText_reads (h : c.isCount = false → ∀ b ∈ value, Legible b) :
    IsValue (charText c value).toList ∧ charValue? (charText c value).toList = some value := by
  cases value with
  | none =>
    have hundef : IsValue "<undef>".toList ∧ charValue? "<undef>".toList = some none := by decide
    exact hundef
  | some b =>
    rw [toList_charText_some]
    cases hc : c.isCount with
    | true => exact decimal_reads b
    | false => exact caret_reads (h hc b rfl)

/-! ## Misread -/

/-- **Characters that are misread**, whatever follows. -/
theorem caret_misreads (rest : List Char) (h : ¬ Legible b) (hb : b ≠ 0x20) :
    ∃ v, valueAfterBlanks? (' ' :: (caret b ++ ';' :: rest)) = some v ∧
      charValue? v ≠ some (some b) := by
  have hcases : b = 0xa0 ∨ b = 0xbb ∨
      (IsValue (caret b) ∧ charValue? (caret b) ≠ some (some b)) :=
    forall_byte (P := fun b => ¬ Legible b → b ≠ 0x20 → b = 0xa0 ∨ b = 0xbb ∨
      (IsValue (caret b) ∧ charValue? (caret b) ≠ some (some b))) (by decide +kernel) b h hb
  rcases hcases with rfl | rfl | ⟨hvalue, hne⟩
  · have hread : valueAfterBlanks? (' ' :: (['M', '-'] ++ ' ' :: ';' :: rest))
        = some ['M', '-'] := valueAfterBlanks?_of_isValue (by decide) rfl
    exact ⟨['M', '-'], hread, by decide⟩
  · have hread : valueAfterBlanks? (' ' :: (['M', '-'] ++ ';' :: ';' :: rest))
        = some ['M', '-'] := valueAfterBlanks?_of_isValue (by decide) rfl
    exact ⟨['M', '-'], hread, by decide⟩
  · exact ⟨caret b, valueAfterBlanks?_of_isValue hvalue rfl, hne⟩

/-- A blank in front of another setting is passed over. -/
theorem blank_misreads (rest : List Char) :
    valueAfterBlanks? (' ' :: (caret 0x20 ++ ';' :: ' ' :: rest)) = some [';'] := rfl

/-- A blank at the end is read back, since nothing behind it could be a value. -/
theorem blank_reads :
    valueAfterBlanks? (' ' :: (caret 0x20 ++ [';'])) = some (caret 0x20) := rfl

/-- **What is read of a value**: something, and the value itself if and only if it can be read
back. All slots but the last are followed by another one. -/
theorem charText_read_iff
    (hrest : (rest = [] ∧ c = .status) ∨ ∃ more, rest = ' ' :: more ∧ c ≠ .status) :
    ∃ v, valueAfterBlanks? (' ' :: ((charText c value).toList ++ ';' :: rest)) = some v ∧
      ((charValue? v).bind id = value ↔ Readable c value) := by
  by_cases hlegible : c.isCount = false → ∀ b ∈ value, Legible b
  · obtain ⟨hvalue, hcode⟩ := charText_reads hlegible
    refine ⟨_, valueAfterBlanks?_of_isValue hvalue rfl, iff_of_true ?_ ?_⟩
    · rw [hcode, Option.bind_some, id]
    · exact fun hcount b hb => .inl (hlegible hcount b hb)
  · obtain ⟨hcount, b, rfl, hb⟩ : c.isCount = false ∧ ∃ b, value = some b ∧ ¬ Legible b := by
      simpa only [Classical.not_imp, not_forall, Option.mem_def, exists_prop] using hlegible
    rw [toList_charText_some, hcount, if_neg Bool.false_ne_true]
    have hreadable : Readable c (some b) ↔ c = .status ∧ b = 0x20 :=
      ⟨fun h => (h hcount b rfl).resolve_left hb, fun h _ d hd => .inr (Option.some.inj hd ▸ h)⟩
    by_cases hblank : b = 0x20
    · subst hblank
      rcases hrest with ⟨rfl, hc⟩ | ⟨more, rfl, hc⟩
      · exact ⟨_, blank_reads, iff_of_true (by decide) (hreadable.2 ⟨hc, rfl⟩)⟩
      · exact ⟨_, blank_misreads more, iff_of_false (by decide) fun h => hc (hreadable.1 h).1⟩
    · obtain ⟨v, hv, hne⟩ := caret_misreads rest hb hblank
      refine ⟨v, hv, iff_of_false (fun h => ?_) fun h => hblank (hreadable.1 h).2⟩
      obtain ⟨_, hvalue, rfl⟩ := Option.bind_eq_some_iff.1 h
      exact hne hvalue

/-! ## Letters -/

/-- A value has one letter in lower case at most, unless it says that the slot is disabled. -/
theorem countP_isLower_charText (c : ControlChar) (b : UInt8) :
    (charText c (some b)).toList.countP Char.isLower ≤ 1 := by
  have hall : ∀ n : Fin 256, (decimal (UInt8.ofNat n).toNat).countP Char.isLower ≤ 1 ∧
    (caret (UInt8.ofNat n)).countP Char.isLower ≤ 1 := by decide +kernel
  have hb := forall_byte (P := fun b => (decimal b.toNat).countP Char.isLower ≤ 1 ∧
    (caret b).countP Char.isLower ≤ 1) hall b
  rw [toList_charText_some]
  split
  · exact hb.1
  · exact hb.2

end

end Teletype.Stty
