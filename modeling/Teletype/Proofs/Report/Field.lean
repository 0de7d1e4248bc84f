import Teletype.Report.Mouse
import Teletype.Text.Utf8

/-!
# The fields of a mouse report

A field of a mouse report is a number in as many bytes as its first byte says, and the number
of a character in UTF-8 is just that. So a character is read back as its number, whether it has
one byte or four, and what follows it is left where it is (`MouseReport.runOn_field`).

A report is three characters, one for the code and two for the place
(`MouseReport.runOn_read`).
-/

namespace Teletype.MouseReport

variable {rest : List UInt8} {failure : Option TerminalError}

/-- The first byte of a field says how many follow. -/
theorem runOn_field_cons (b : UInt8) :
    (field Supply.next).runOn ⟨b :: rest, failure⟩
      = (fieldRest Supply.next (lead b).1 (lead b).2).runOn ⟨rest, failure⟩ := rfl

/-- Each of those brings six bits. -/
theorem runOn_fieldRest_cons (more value : Nat) (b : UInt8) :
    (fieldRest Supply.next (more + 1) value).runOn ⟨b :: rest, failure⟩
      = (fieldRest Supply.next more (value * 64 + b.toNat % 64)).runOn ⟨rest, failure⟩ := rfl

theorem runOn_fieldRest_zero (value : Nat) :
    (fieldRest Supply.next 0 value).runOn ⟨rest, failure⟩ = (.ok (some value), ⟨rest, failure⟩) :=
  rfl

theorem lead_ascii : ∀ n < 128, lead (UInt8.ofNat n) = (0, n) := by decide

theorem lead_two : ∀ n < 32, lead (UInt8.ofNat (n + 192)) = (1, n) := by decide

theorem lead_three : ∀ n < 16, lead (UInt8.ofNat (n + 224)) = (2, n) := by decide

theorem lead_four : ∀ n < 8, lead (UInt8.ofNat (n + 240)) = (3, n) := by decide

/-- The six bits that a byte in the middle of a character holds. -/
theorem toNat_continuation_mod (n : Nat) : (UInt8.ofNat (n % 64 + 128)).toNat % 64 = n % 64 := by
  rw [UInt8.toNat_ofNat']
  omega

/-- There is a character for every number that is one's. -/
theorem toNat_ofNat_of_isValidChar {n : Nat} (h : n.isValidChar) : (Char.ofNat n).toNat = n := by
  rw [Char.ofNat, dif_pos h]
  rfl

/-- **A character is read as its number**, and no byte behind it is touched. -/
theorem runOn_field (c : Char) (rest : List UInt8) (failure : Option TerminalError) :
    (field Supply.next).runOn ⟨String.utf8EncodeChar c ++ rest, failure⟩
      = (.ok (some c.toNat), ⟨rest, failure⟩) := by
  have hc : c.val.toNat < 0x110000 := by
    rcases c.valid with h | h <;> omega
  unfold String.utf8EncodeChar
  -- as many bytes as the number needs
  dsimp only
  rw [← Char.toNat_val]
  split
  · rw [List.singleton_append, runOn_field_cons, lead_ascii _ (by omega), runOn_fieldRest_zero]
  · split
    · rw [List.cons_append, List.singleton_append, runOn_field_cons, lead_two _ (by omega),
        runOn_fieldRest_cons, runOn_fieldRest_zero, toNat_continuation_mod]
      congr 3
      omega
    · split
      · simp only [List.cons_append, List.nil_append]
        rw [runOn_field_cons, lead_three _ (by omega), runOn_fieldRest_cons,
          runOn_fieldRest_cons, runOn_fieldRest_zero, toNat_continuation_mod,
          toNat_continuation_mod]
        congr 3
        omega
      · simp only [List.cons_append, List.nil_append]
        rw [runOn_field_cons, lead_four _ (by omega), runOn_fieldRest_cons,
          runOn_fieldRest_cons, runOn_fieldRest_cons, runOn_fieldRest_zero,
          toNat_continuation_mod, toNat_continuation_mod, toNat_continuation_mod]
        congr 3
        omega

/-- **Three characters are a report**, of which the reader takes exactly their bytes. -/
theorem runOn_read (code x y : Char) (rest : List UInt8) (failure : Option TerminalError)
    (last : MouseEvent) :
    (read Supply.next last).runOn ⟨Text.utf8 [code, x, y] ++ rest, failure⟩
      = (.ok (some (MouseEvent.decode (code.toNat - 32) (x.toNat - 33) (y.toNat - 33) last)),
          ⟨rest, failure⟩) := by
  have hbytes : Text.utf8 [code, x, y] ++ rest
      = String.utf8EncodeChar code ++ (String.utf8EncodeChar x
          ++ (String.utf8EncodeChar y ++ rest)) := by
    simp only [Text.utf8_cons, Text.utf8_nil, List.append_assoc, List.nil_append]
  simp only [read, Action.runOn_bind, hbytes, runOn_field]
  rfl

end Teletype.MouseReport
