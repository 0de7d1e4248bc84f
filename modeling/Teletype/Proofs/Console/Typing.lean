import Mathlib.Tactic.MkIffOfInductiveProp
import Teletype.Console.Keyboard
import Teletype.Proofs.Text

/-!
# Typed text arrives as its UTF-8

A console brings text in units of sixteen bits, one record a unit, and a reader wants bytes. A
character of two halves is two records, with other records in between perhaps, so the first
half is kept until the second one comes. Units need not be well formed: a half may come
without the other.

What units stand for is said without anything being kept: two halves one behind the other are
one character, and a half on its own is none (`Text.characters`). Reading one unit after the
other, with the half that is kept in front of those to come, gives these characters one by one
(`Text.characters_cons`). And a record that types does nothing but read its unit, whichever
keys are held that do not count (`Keyboard.read?_of_types`). So what the records of a text send
is the text in UTF-8 (`Keyboard.readAll?_typed`).
-/

namespace Teletype

/-! ## Units and characters -/

namespace Text

/-- **The characters that units stand for.** Two halves one behind the other are a character;
a half without its other half stands for nothing. -/
def characters : List UInt16 → List Char
  | [] => []
  | u :: rest =>
    if isHighHalf u then
      match rest with
      | [] => []
      | v :: rest' =>
        if isLowHalf v then joinHalves u v :: characters rest' else characters (v :: rest')
    else if isLowHalf u then characters rest
    else Char.ofNat u.toNat :: characters rest

/-- The units of a character: itself, or two halves if its number has more than sixteen
bits. -/
def unitsOf (c : Char) : List UInt16 :=
  if c.toNat < 0x10000 then [UInt16.ofNat c.toNat]
  else
    [UInt16.ofNat (0xd800 + (c.toNat - 0x10000) / 0x400),
      UInt16.ofNat (0xdc00 + (c.toNat - 0x10000) % 0x400)]

/-- **A text in units of sixteen bits.** -/
def units (text : List Char) : List UInt16 := text.flatMap unitsOf

section

variable {u v : UInt16} {rest : List UInt16}

theorem isHighHalf_iff : isHighHalf u = true ↔ 0xd800 ≤ u.toNat ∧ u.toNat ≤ 0xdbff := by
  simp [isHighHalf, UInt16.le_iff_toNat_le]

theorem isLowHalf_iff : isLowHalf u = true ↔ 0xdc00 ≤ u.toNat ∧ u.toNat ≤ 0xdfff := by
  simp [isLowHalf, UInt16.le_iff_toNat_le]

/-- No unit is both halves. -/
theorem not_isLowHalf_of_isHighHalf (h : isHighHalf u = true) : isLowHalf u = false := by
  rw [← Bool.not_eq_true, isLowHalf_iff]
  have hu := isHighHalf_iff.1 h
  omega

theorem characters_pair (hu : isHighHalf u = true) (hv : isLowHalf v = true) :
    characters (u :: v :: rest) = joinHalves u v :: characters rest := by
  rw [characters, if_pos hu, if_pos hv]

/-- A first half that no second half follows stands for nothing. -/
theorem characters_high (hu : isHighHalf u = true) (hv : isLowHalf v = false) :
    characters (u :: v :: rest) = characters (v :: rest) := by
  rw [characters, if_pos hu, if_neg (Bool.not_eq_true _ ▸ hv)]

/-- And so does a second half that follows no first half. -/
theorem characters_low (hu : isLowHalf u = true) : characters (u :: rest) = characters rest := by
  have hhigh : isHighHalf u ≠ true := fun h => by
    rw [not_isLowHalf_of_isHighHalf h] at hu
    exact Bool.false_ne_true hu
  rw [characters.eq_def]
  exact (if_neg hhigh).trans (if_pos hu)

theorem characters_whole (hhigh : isHighHalf u = false) (hlow : isLowHalf u = false) :
    characters (u :: rest) = Char.ofNat u.toNat :: characters rest := by
  rw [characters.eq_def]
  exact (if_neg (Bool.not_eq_true _ ▸ hhigh)).trans (if_neg (Bool.not_eq_true _ ▸ hlow))

/-- **Reading a unit is reading on**, with the half that is kept in front of what comes. -/
theorem characters_cons {kept : Option UInt16} (hkept : ∀ k ∈ kept, isHighHalf k = true)
    (u : UInt16) (rest : List UInt16) :
    characters (kept.toList ++ u :: rest)
      = (readUnit kept u).1.toList ++ characters ((readUnit kept u).2.toList ++ rest) := by
  unfold readUnit
  cases hhigh : isHighHalf u with
  | true =>
    -- the unit is kept now, and one that was kept before it is given up
    cases kept with
    | none => rfl
    | some k => exact characters_high (hkept k rfl) (not_isLowHalf_of_isHighHalf hhigh)
  | false =>
    cases hlow : isLowHalf u with
    | true =>
      cases kept with
      | none => exact characters_low hlow
      | some k => exact characters_pair (hkept k rfl) hlow
    | false =>
      cases kept with
      | none => exact characters_whole hhigh hlow
      | some k =>
        exact (characters_high (hkept k rfl) hlow).trans (characters_whole hhigh hlow)

/-- What is kept is a first half. -/
theorem isHighHalf_of_mem_readUnit {kept : Option UInt16} {k : UInt16}
    (h : k ∈ (readUnit kept u).2) : isHighHalf k = true := by
  unfold readUnit at h
  split at h
  · next hhigh =>
    obtain rfl : u = k := Option.some.inj h
    exact hhigh
  · split at h <;> cases h

/-- **A text is what its units stand for.** -/
theorem characters_units (text : List Char) : characters (units text) = text := by
  induction text with
  | nil => rfl
  | cons c text ih =>
    have hc : c.toNat < 0xd800 ∨ 0xdfff < c.toNat ∧ c.toNat < 0x110000 := c.valid
    have hunit : ∀ {n : Nat}, n < 0x10000 → (UInt16.ofNat n).toNat = n := fun h => by
      rw [UInt16.toNat_ofNat', Nat.mod_eq_of_lt h]
    rw [units, List.flatMap_cons, ← units, unitsOf]
    split
    · next hsmall =>
      rw [List.singleton_append, characters_whole, hunit hsmall, Char.ofNat_toNat, ih]
      · rw [← Bool.not_eq_true, isHighHalf_iff, hunit hsmall]
        omega
      · rw [← Bool.not_eq_true, isLowHalf_iff, hunit hsmall]
        omega
    · rw [List.cons_append, List.singleton_append, characters_pair, ih, joinHalves,
        hunit (by omega), hunit (by omega)]
      · rw [show 0x10000 + (0xd800 + (c.toNat - 0x10000) / 0x400 - 0xd800) * 0x400
            + (0xdc00 + (c.toNat - 0x10000) % 0x400 - 0xdc00) = c.toNat by omega, Char.ofNat_toNat]
      · rw [isHighHalf_iff, hunit (by omega)]
        omega
      · rw [isLowHalf_iff, hunit (by omega)]
        omega

end

end Text

/-! ## Records that type -/

/-- **The keys that send text alone**: neither backspace nor a key for moving or one with a
number. -/
def KeyRecord.IsTextKey (r : KeyRecord) : Prop :=
  r.key ≠ 0x08 ∧ ¬ (0x21 ≤ r.key ∧ r.key ≤ 0x28) ∧ r.key ≠ 0x2d ∧ r.key ≠ 0x2e
    ∧ ¬ (0x70 ≤ r.key ∧ r.key ≤ 0x7b)

/-- The Alt and Control keys. -/
def HeldKeys.altOrControl : UInt32 := rightAlt ||| leftAlt ||| rightControl ||| leftControl

/-- **A record that types its unit.** -/
@[mk_iff] structure KeyRecord.Types (r : KeyRecord) : Prop where
  /-- The key went down. -/
  down : r.down = true
  /-- It types something. -/
  unit_ne_zero : r.unit ≠ 0
  /-- It is not the interrupt character. -/
  unit_ne_interrupt : r.unit ≠ Keyboard.interrupt
  /-- It counts once. -/
  once : r.count ≤ 1
  /-- The key sends text alone. -/
  textKey : r.IsTextKey
  /-- Of the Alt and Control keys none is held, or exactly the two of AltGr. -/
  held : r.held &&& HeldKeys.altOrControl = 0 ∨ HeldKeys.isAltGr r.held = true
  /-- It is no tab with Shift. -/
  tab : ¬ (r.held &&& HeldKeys.shift ≠ 0 ∧ r.unit = Keyboard.tab)

/-- **A record of a key that comes up and brings nothing.** -/
@[mk_iff] structure KeyRecord.Silent (r : KeyRecord) : Prop where
  /-- The key came up. -/
  up : r.down = false
  /-- It is not the interrupt character. -/
  unit_ne_interrupt : r.unit ≠ Keyboard.interrupt
  /-- It does not end a composition. -/
  alt : r.key = Keyboard.altKey → r.unit = 0

instance (r : KeyRecord) : Decidable r.IsTextKey := inferInstanceAs (Decidable (_ ∧ _))

instance (r : KeyRecord) : Decidable r.Types := decidable_of_iff _ r.types_iff.symm

instance (r : KeyRecord) : Decidable r.Silent := decidable_of_iff _ r.silent_iff.symm

namespace Keyboard

variable {d : Description} {kept : Option UInt16} {r : KeyRecord}

/-- **Records read one after the other**: what they send, and the half that is kept in the
end; or nothing when a sequence fails to expand. -/
def readAll? (d : Description) (kept : Option UInt16) :
    List KeyRecord → Option (List UInt8 × Option UInt16)
  | [] => some ([], kept)
  | r :: records => do
    let (bytes, kept) ← read? d kept r
    let (more, kept) ← readAll? d kept records
    pure (bytes ++ more, kept)

theorem readAll?_cons {kept' left : Option UInt16} {bytes more : List UInt8}
    {records : List KeyRecord} (hread : read? d kept r = some (bytes, kept'))
    (hrest : readAll? d kept' records = some (more, left)) :
    readAll? d kept (r :: records) = some (bytes ++ more, left) := by
  rw [readAll?, hread, Option.bind_eq_bind, Option.bind_some]
  dsimp only
  rw [hrest]
  rfl

/-- A key that sends text alone has no sequence. -/
theorem sequenceOf?_of_isTextKey (h : r.IsTextKey) : sequenceOf? r.key = none := by
  simp only [KeyRecord.IsTextKey, ne_eq, ← UInt16.toNat_inj, UInt16.le_iff_toNat_le,
    UInt16.reduceToNat] at h
  unfold sequenceOf?
  split
  all_goals first | rfl | omega

/-- **None of the modifying keys counts** but Shift. -/
theorem effective_of_types (h : r.Types) :
    (effective r).alt = false ∧ (effective r).control = false := by
  have hunit : (r.unit != 0) = true := bne_iff_ne.2 h.unit_ne_zero
  unfold effective
  dsimp only
  rw [hunit, Bool.true_and]
  split
  · exact ⟨rfl, rfl⟩
  · next haltGr =>
    have hclear := h.held.resolve_right haltGr
    have hpart : ∀ mask, HeldKeys.altOrControl &&& mask = mask → (r.held &&& mask != 0) = false := by
      intro mask hmask
      rw [← hmask, ← UInt32.and_assoc, hclear, UInt32.zero_and]
      rfl
    exact ⟨hpart _ (by decide), hpart _ (by decide)⟩

/-- So the key sends text. -/
theorem special?_of_types (h : r.Types) : special? d r (effective r) = none := by
  have hshift : (effective r).shift = (HeldKeys.modifiers r.held).shift := by
    unfold effective
    dsimp only
    split <;> rfl
  have hbackTab : ((effective r).shift && r.unit == tab) = false := by
    rw [hshift, ← Bool.not_eq_true, Bool.and_eq_true, beq_iff_eq]
    rintro ⟨hheld, hunit⟩
    exact h.tab ⟨bne_iff_ne.1 hheld, hunit⟩
  rw [special?, hbackTab, sequenceFor?, sequenceOf?_of_isTextKey h.textKey]
  rfl

/-- **A record that types sends its unit**, whatever keys are held that do not count. -/
theorem read?_of_types (h : r.Types) : read? d kept r = some (typed kept r.unit) := by
  obtain ⟨halt, hcontrol⟩ := effective_of_types h
  have htext : text kept r (effective r) = typed kept r.unit := by
    rw [text, if_neg (by simpa using h.unit_ne_zero), hcontrol, halt]
    rfl
  have hpressed : pressed? d kept r = some (typed kept r.unit) := by
    rw [pressed?, special?_of_types h, htext]
  have honce : max r.count.toNat 1 = 1 := Nat.max_eq_right (UInt16.le_iff_toNat_le.1 h.once)
  rw [read?, h.down, if_neg (by simp), if_neg (by simpa using h.unit_ne_interrupt), hpressed,
    Option.map_some, honce]
  simp

theorem read?_of_silent (h : r.Silent) : read? d kept r = some ([], kept) := by
  have halt : (r.key == altKey && r.unit != 0) = false := by
    rw [← Bool.not_eq_true, Bool.and_eq_true, beq_iff_eq, bne_iff_ne]
    rintro ⟨hkey, hunit⟩
    exact hunit (h.alt hkey)
  rw [read?, h.up, if_pos (by simp), released, if_neg (by simpa using h.unit_ne_interrupt), halt]
  rfl

/-! ## The main statement -/

/-- The units that records type. -/
def typedUnits (records : List KeyRecord) : List UInt16 :=
  (records.filter (·.down)).map (·.unit)

/-- **What records send is what their units stand for**, with a first half in front if one was
kept before. -/
theorem readAll?_eq {records : List KeyRecord} (h : ∀ r ∈ records, r.Types ∨ r.Silent)
    (hkept : ∀ k ∈ kept, Text.isHighHalf k = true) :
    ∃ left, readAll? d kept records
      = some (Text.utf8 (Text.characters (kept.toList ++ typedUnits records)), left) := by
  induction records generalizing kept with
  | nil =>
    -- a half that is still kept stands for nothing
    have hnothing : Text.characters (kept.toList ++ typedUnits []) = [] := by
      cases kept with
      | none => rfl
      | some k => exact if_pos (hkept k rfl)
    exact ⟨kept, by rw [hnothing]; rfl⟩
  | cons r records ih =>
    have hrest : ∀ r ∈ records, r.Types ∨ r.Silent := fun r hr => h r (List.mem_cons_of_mem _ hr)
    rcases h r List.mem_cons_self with htypes | hsilent
    · have hunits : typedUnits (r :: records) = r.unit :: typedUnits records := by
        rw [typedUnits, List.filter_cons_of_pos htypes.down, List.map_cons, ← typedUnits]
      have hnext : ∀ k ∈ (Text.readUnit kept r.unit).2, Text.isHighHalf k = true :=
        fun k hk => Text.isHighHalf_of_mem_readUnit hk
      obtain ⟨left, hleft⟩ := ih hrest hnext
      refine ⟨left, ?_⟩
      have hread : read? d kept r = some (Text.utf8 (Text.readUnit kept r.unit).1.toList,
          (Text.readUnit kept r.unit).2) := read?_of_types htypes
      rw [readAll?_cons hread hleft, hunits, Text.characters_cons hkept, Text.utf8_append]
    · have hunits : typedUnits (r :: records) = typedUnits records := by
        rw [typedUnits, List.filter_cons_of_neg (by simp [hsilent.up]), ← typedUnits]
      obtain ⟨left, hleft⟩ := ih hrest hkept
      refine ⟨left, ?_⟩
      rw [readAll?_cons (read?_of_silent hsilent) hleft, hunits, List.nil_append]

/-- **Typed text arrives as its UTF-8.** What records send that type their units, with others
in between that bring nothing, is the text that the units stand for, in UTF-8. It is always
well formed, and if the units are those of a text it is that text. -/
theorem readAll?_typed {records : List KeyRecord} (h : ∀ r ∈ records, r.Types ∨ r.Silent) :
    ∃ bytes left, readAll? d none records = some (bytes, left)
      ∧ bytes = Text.utf8 (Text.characters (typedUnits records))
      ∧ Text.decode? bytes = some (Text.characters (typedUnits records))
      ∧ ∀ text, typedUnits records = Text.units text → bytes = Text.utf8 text := by
  have hnone : ∀ k ∈ (none : Option UInt16), Text.isHighHalf k = true := nofun
  obtain ⟨left, hread⟩ := readAll?_eq (d := d) h hnone
  refine ⟨_, left, hread, rfl, Text.decode?_utf8 _, fun text htext => ?_⟩
  show Text.utf8 (Text.characters (typedUnits records)) = Text.utf8 text
  rw [htext, Text.characters_units]

/-- A letter, the two halves of a character around a key that comes up, a half on its own, and
a character typed with AltGr and Shift. -/
theorem readAll?_typed_halves :
    let d : Description := {}
    let records : List KeyRecord :=
      [⟨true, 0x41, 0x61, 0, 1⟩, ⟨true, 0, 0xd83d, 0, 0⟩, ⟨false, 0x10, 0x41, 0x10, 1⟩,
        ⟨true, 0, 0xde00, 0, 1⟩, ⟨true, 0, 0xdc00, 0, 1⟩, ⟨true, 0x51, 0x40, 0x19, 1⟩]
    (∀ r ∈ records, r.Types ∨ r.Silent)
      ∧ ∃ left, readAll? d none records = some ([0x61, 0xf0, 0x9f, 0x98, 0x80, 0x40], left) := by
  intro d records
  have hrecords : ∀ r ∈ records, r.Types ∨ r.Silent := by decide
  obtain ⟨bytes, left, hread, hbytes, -, -⟩ := readAll?_typed (d := d) hrecords
  have hchars : Text.characters (typedUnits records) = ['a', '😀', '@'] := by decide
  rw [hchars] at hbytes
  have hutf8 : Text.utf8 ['a', '😀', '@'] = [0x61, 0xf0, 0x9f, 0x98, 0x80, 0x40] := by decide
  exact ⟨hrecords, left, hread.trans (by rw [hbytes, hutf8])⟩

end Keyboard

end Teletype
