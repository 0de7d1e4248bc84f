import Mathlib.Logic.ExistsUnique
import Teletype.Proofs.Termios.Bits

/-!
# Attributes written to a kernel and read back

What a kernel shows after attributes with one character size were written depends on them
alone, whatever it had before: they are read back, less the flags and slots that it has no
place for (`attributes_apply`).

The other way round something is lost. The kernel's form says more than the attributes do
where a flag stands for several bits. Two flags do, the delays after a carriage return and
after a tab. Each of them is on when any bit of its field is set, and written by setting all
of them, so that a short delay comes back as the longest one. **What was there at first is
put back exactly when both fields are whole**, that is, all set or all clear
(`apply_written_eq_iff`). It does not matter what was written in between, since that is
written over.
-/

namespace Teletype.Termios

/-- The character sizes. -/
def sizes : List Flag := [.cs5, .cs6, .cs7, .cs8]

/-- **Flags without a place in the kernel's form.** -/
def placeless : List Flag :=
  [.inormeol, .oxtabs, .onoeot, .cignore, .cctsOflow, .crtsIflow, .cdtrIflow, .cdsrOflow,
   .ccarOflow, .altwerase, .extproc, .nokerninfo]

/-- **Slots without a place.** -/
def slotless : List ControlChar := [.dsusp, .status]

/-- **What a kernel keeps of attributes.** A character of value zero is a disabled one, and a
count always has a value. -/
def kept (a : Attributes) : Attributes where
  flag f := if f ∈ placeless then false else a.flag f
  char c :=
    if c ∈ slotless then none
    else if c.isCount then some ((a.char c).getD 0)
    else (a.char c).filter (· != 0)

/-- What a kernel that keeps attributes as they are written has after some writes. -/
def written (as : List Attributes) (t : Termios) : Termios := as.foldl (fun u a => apply a u) t

/-- **Whether a flag is whole**: the bits it stands for are all clear or all set. -/
def Whole (t : Termios) (f : Flag) : Prop :=
  ∀ m ∈ mask f, t.word (wordOf f) &&& m = 0 ∨ t.word (wordOf f) &&& m = m

instance (t : Termios) (f : Flag) : Decidable (t.Whole f) := Option.decidableForallMem (mask f)

section

variable {a : Attributes} {t u : Termios} {f s : Flag} {c : ControlChar} {m v : UInt32} {i : Nat}

/-! ## Places -/

theorem mem_placeless_iff : f ∈ placeless ↔ mask f = none ∧ sizeValue f = none := by
  have hall : ∀ f ∈ Flag.all, f ∈ placeless ↔ mask f = none ∧ sizeValue f = none := by decide
  exact hall f f.mem_all

theorem mem_slotless_iff : c ∈ slotless ↔ slot c = none := by
  have hall : ∀ c ∈ ControlChar.all, c ∈ slotless ↔ slot c = none := by decide
  exact hall c c.mem_all

theorem mem_sizes_iff : f ∈ sizes ↔ (sizeValue f).isSome = true := by
  have hall : ∀ f ∈ Flag.all, f ∈ sizes ↔ (sizeValue f).isSome = true := by decide
  exact hall f f.mem_all

theorem mask_of_sizeValue (h : sizeValue f = some v) : mask f = none := by
  have hall : ∀ f ∈ sizes, mask f = none := by decide
  exact hall f (mem_sizes_iff.2 (Option.isSome_of_mem h))

theorem sizeValue_injective (hf : sizeValue f = some v) (hs : sizeValue s = some v) : f = s := by
  have hall : ∀ f ∈ sizes, ∀ s ∈ sizes, sizeValue f = sizeValue s → f = s := by decide
  exact hall f (mem_sizes_iff.2 (Option.isSome_of_mem hf)) s
    (mem_sizes_iff.2 (Option.isSome_of_mem hs)) (hf.trans hs.symm)

/-! ## Flags -/

theorem flag_of_mask (h : mask f = some m) (t : Termios) :
    t.attributes.flag f = (t.word (wordOf f) &&& m != 0) := by
  show t.flagOn (wordOf f) f = _
  rw [flagOn, h]

theorem flag_of_sizeValue (h : sizeValue f = some v) (t : Termios) :
    t.attributes.flag f = (t.word .control &&& sizeField == v) := by
  show t.flagOn (wordOf f) f = _
  rw [flagOn, mask_of_sizeValue h, h]

theorem flag_of_placeless (h : f ∈ placeless) (t : Termios) : t.attributes.flag f = false := by
  obtain ⟨hm, hv⟩ := mem_placeless_iff.1 h
  show t.flagOn (wordOf f) f = _
  rw [flagOn, hm, hv]

/-- **A flag written is read back.** It is on when one of its bits is set, and they are all set
or all clear. -/
theorem flag_apply_of_mask (h : mask f = some m) (a : Attributes) (t : Termios) :
    (apply a t).attributes.flag f = a.flag f := by
  rw [Bool.eq_iff_iff, flag_of_mask h, bne_iff_ne, ne_zero_iff_bit]
  constructor
  · rintro ⟨i, hi⟩
    rw [bit_and, Bool.and_eq_true] at hi
    rw [← bit_apply a t ⟨m, h, hi.2⟩]
    exact hi.1
  · intro hf
    obtain ⟨i, him⟩ := ne_zero_iff_bit.1 (mask_ne_zero h)
    refine ⟨i, ?_⟩
    rw [bit_and, bit_apply a t ⟨m, h, him⟩, hf, him]
    rfl

/-- A flag is whole when each of its bits says whether it is on. -/
theorem whole_iff : t.Whole f
    ↔ ∀ i, Stands f i → bit (t.word (wordOf f)) i = t.attributes.flag f := by
  constructor
  · rintro hwhole i ⟨m, hm, him⟩
    have hand : bit (t.word (wordOf f) &&& m) i = bit (t.word (wordOf f)) i := by
      rw [bit_and, him, Bool.and_true]
    rw [← hand, flag_of_mask hm]
    rcases hwhole m hm with hclear | hset
    · rw [hclear, bit_zero, bne_self_eq_false]
    · rw [hset, him, eq_comm, bne_iff_ne]
      exact mask_ne_zero hm
  · intro hbits m hm
    rw [flag_of_mask hm] at hbits
    by_cases hon : t.word (wordOf f) &&& m = 0
    · exact .inl hon
    · refine .inr (eq_of_bit fun i => ?_)
      rw [bit_and]
      cases him : bit m i with
      | false => exact Bool.and_false _
      | true => rw [hbits i ⟨m, hm, him⟩, bne_iff_ne.2 hon, Bool.and_true]

/-- The word whose only bit is this one. -/
def single (k : Fin 32) : UInt32 := UInt32.ofBitVec (BitVec.twoPow 32 k)

/-- One bit of a word is clear or set. -/
theorem and_single (word : UInt32) (k : Fin 32) :
    word &&& single k = if bit word k then single k else 0 := by
  have hsingle : ∀ i, bit (single k) i = decide (k.val = i) := fun i => by
    simp [bit, single, BitVec.getLsbD_twoPow]
  refine eq_of_bit fun i => ?_
  rw [bit_and, hsingle]
  by_cases hi : k.val = i
  · rw [← hi]
    cases bit word k <;> simp [hsingle]
  · cases bit word k <;> simp [hi, hsingle]

/-- **Most flags are one bit**, and whole. -/
theorem whole_of_ne (t : Termios) (hcr : f ≠ .crdly) (htab : f ≠ .tabdly) : t.Whole f := by
  have hsingle : ∀ f ∈ Flag.all, f ≠ .crdly → f ≠ .tabdly → mask f ≠ none →
      ∃ k, mask f = some (single k) := by decide +kernel
  intro m hm
  obtain ⟨k, hk⟩ := hsingle f f.mem_all hcr htab (Option.ne_none_iff_exists'.2 ⟨m, hm⟩)
  obtain rfl := Option.some.inj (hm.symm.trans hk)
  rw [and_single]
  split
  · exact .inr rfl
  · exact .inl rfl

/-! ## The character size -/

/-- When one size is on and no other, it is the one that is chosen. -/
theorem sizeChosen_of_unique (hs : s ∈ sizes) (hon : a.flag s = true)
    (hunique : ∀ f ∈ sizes, a.flag f = true → f = s) : sizeChosen a = sizeValue s := by
  have hreverse : ∀ f, f ∈ sizes.reverse ↔ f ∈ sizes := fun f => List.mem_reverse
  unfold sizeChosen
  cases hfind : [Flag.cs8, .cs7, .cs6, .cs5].find? a.flag with
  | none => exact absurd hon (List.find?_eq_none.1 hfind s ((hreverse s).2 hs))
  | some f =>
    have hf : f ∈ sizes := (hreverse f).1 (List.mem_of_find?_eq_some hfind)
    rw [hunique f hf (List.find?_some hfind), Option.bind_some]

/-- Every value of the field is a size. -/
theorem exists_sizeValue (word : UInt32) :
    ∃ s ∈ sizes, sizeValue s = some (word &&& sizeField) := by
  have hfield : word &&& sizeField = (word &&& single 4) ||| (word &&& single 5) := by
    rw [show sizeField = single 4 ||| single 5 from by decide]
    exact eq_of_bit fun i => by simp [Bool.and_or_distrib_left]
  rw [hfield, and_single, and_single]
  cases bit word (4 : Fin 32) <;> cases bit word (5 : Fin 32) <;> decide

/-- **The size that is shown** is chosen when the attributes are written back. -/
theorem sizeChosen_attributes (t : Termios) :
    sizeChosen t.attributes = some (t.word .control &&& sizeField) := by
  obtain ⟨s, hs, hv⟩ := exists_sizeValue (t.word .control)
  rw [← hv]
  refine sizeChosen_of_unique hs ?_ fun f hf hon => ?_
  · rw [flag_of_sizeValue hv, beq_self_eq_true]
  · obtain ⟨v, hfv⟩ := Option.isSome_iff_exists.1 (mem_sizes_iff.1 hf)
    rw [flag_of_sizeValue hfv, beq_iff_eq] at hon
    exact sizeValue_injective (hon ▸ hfv) hv

/-! ## Slots -/

/-- **A slot written is read back**, as the kernel keeps it. -/
theorem char_apply (h : c ∉ slotless) (a : Attributes) (t : Termios) :
    (apply a t).attributes.char c
      = if c.isCount then some ((a.char c).getD 0) else (a.char c).filter (· != 0) := by
  obtain ⟨i, hi⟩ := Option.ne_none_iff_exists'.1 fun hnone => h (mem_slotless_iff.2 hnone)
  show (apply a t).charOf c = _
  rw [charOf, hi]
  simp only [chars_apply a t hi, byteFor]
  cases c.isCount with
  | true => rfl
  | false =>
    cases a.char c with
    | none => rfl
    | some b => by_cases hb : b = 0 <;> simp [Option.filter, hb]

/-- **Bytes shown are written back**: zero for a character that is disabled, and counts as
they are. -/
theorem byteFor_attributes (t : Termios) {i : Fin 32} (h : slot c = some i) :
    byteFor t.attributes c = t.chars i := by
  show (t.charOf c).getD 0 = t.chars i
  rw [charOf, h]
  show (if (!c.isCount && t.chars i == 0) = true then none else some (t.chars i)).getD 0 = _
  split
  · next hzero =>
    rw [Bool.and_eq_true, beq_iff_eq] at hzero
    exact hzero.2.symm
  · rfl

/-! ## Written and read back -/

/-- **The size written is read back**, and no other. -/
theorem flag_apply_of_size (hs : s ∈ sizes) (hon : a.flag s = true)
    (hunique : ∀ f ∈ sizes, a.flag f = true → f = s) (hf : f ∈ sizes) (t : Termios) :
    (apply a t).attributes.flag f = a.flag f := by
  obtain ⟨v, hv⟩ := Option.isSome_iff_exists.1 (mem_sizes_iff.1 hf)
  obtain ⟨w, hw⟩ := Option.isSome_iff_exists.1 (mem_sizes_iff.1 hs)
  have hfield : (apply a t).word .control &&& sizeField = w :=
    apply_and_sizeField t ((sizeChosen_of_unique hs hon hunique).trans hw)
  rw [flag_of_sizeValue hv, hfield, Bool.eq_iff_iff, beq_iff_eq]
  constructor
  · rintro rfl
    rwa [sizeValue_injective hv hw]
  · intro hfon
    exact Option.some.inj (hw.symm.trans (hunique f hf hfon ▸ hv))

/-- **Attributes are read back** as the kernel keeps them, when they have one character size,
and nothing else of its form is changed. -/
theorem attributes_apply (a : Attributes) (t : Termios)
    (h : ∃! s, s ∈ sizes ∧ a.flag s = true) :
    (apply a t).attributes = kept a ∧ Akin t (apply a t) := by
  obtain ⟨s, ⟨hs, hon⟩, hunique⟩ := h
  refine ⟨Attributes.ext (funext fun f => ?_) (funext fun c => ?_), akin_apply a t⟩
  · show _ = if f ∈ placeless then false else a.flag f
    split
    · next hf => exact flag_of_placeless hf _
    · next hf =>
      cases hm : mask f with
      | some m => exact flag_apply_of_mask hm a t
      | none =>
        have hsize : f ∈ sizes := mem_sizes_iff.2 (Option.isSome_iff_ne_none.2 fun hv =>
          hf (mem_placeless_iff.2 ⟨hm, hv⟩))
        exact flag_apply_of_size hs hon (fun g hg hgon => hunique g ⟨hg, hgon⟩) hsize t
  · show _ = if c ∈ slotless then none
      else if c.isCount then some ((a.char c).getD 0) else (a.char c).filter (· != 0)
    split
    · next hc =>
      show (apply a t).charOf c = none
      rw [charOf, mem_slotless_iff.1 hc]
    · next hc => exact char_apply hc a t

/-- Seven bits and a character of value zero, written over a form in which every bit is set. -/
theorem attributes_apply_over :
    let a := ((Attributes.usual.setFlag .cs8 false).setFlag .cs7 true).setChar .eol (some 0)
    let t : Termios := { word := fun _ => 0xffffffff, chars := fun _ => 0xff }
    (∃! s, s ∈ sizes ∧ a.flag s = true) ∧ (apply a t).attributes = kept a
      ∧ Akin t (apply a t) := by
  intro a t
  have hsize : ∃! s, s ∈ sizes ∧ a.flag s = true := by
    refine ⟨.cs7, by decide, ?_⟩
    rintro s ⟨hs, hon⟩
    have hall : ∀ s ∈ sizes, a.flag s = true → s = .cs7 := by decide
    exact hall s hs hon
  exact ⟨hsize, attributes_apply a t hsize⟩

/-! ## Put back -/

theorem akin_written (as : List Attributes) (t : Termios) : Akin t (written as t) :=
  Akin.foldl (fun u a => akin_apply a u) as t

/-- **Attributes written back over a form that is akin** give the form that showed them,
exactly when both delays are whole in it. -/
theorem apply_attributes_eq_iff (h : Akin t u) :
    apply t.attributes u = t ↔ t.Whole .crdly ∧ t.Whole .tabdly := by
  constructor
  · intro hback
    have hwhole : ∀ f, t.Whole f := fun f => whole_iff.2 fun i hi => by
      rw [← bit_apply t.attributes u hi, hback]
    exact ⟨hwhole _, hwhole _⟩
  · rintro ⟨hcr, htab⟩
    have hwhole : ∀ f, t.Whole f := fun f => by
      by_cases hf : f = .crdly
      · exact hf ▸ hcr
      · by_cases hf' : f = .tabdly
        · exact hf' ▸ htab
        · exact whole_of_ne t hf hf'
    refine Termios.ext (funext fun w => eq_of_bit fun i => ?_) (funext fun i => ?_)
    · by_cases hstands : ∃ f, wordOf f = w ∧ Stands f i
      · obtain ⟨f, rfl, hi⟩ := hstands
        rw [bit_apply _ _ hi, whole_iff.1 (hwhole f) i hi]
      · by_cases hsize : w = .control ∧ bit sizeField i = true
        · obtain ⟨rfl, hi⟩ := hsize
          have hfield := congrArg (bit · i) (apply_and_sizeField u (sizeChosen_attributes t))
          simpa only [bit_and, hi, Bool.and_true] using hfield
        · have hforeign : Foreign w i :=
            ⟨fun f hf hi => hstands ⟨f, hf, hi⟩,
              fun hw => eq_false_of_ne_true fun hi => hsize ⟨hw, hi⟩⟩
          exact (h.trans (akin_apply _ u)).bit w i hforeign
    · by_cases hslot : ∃ c, slot c = some i
      · obtain ⟨c, hc⟩ := hslot
        rw [chars_apply _ u hc, byteFor_attributes t hc]
      · exact (h.trans (akin_apply _ u)).char i fun c hc => hslot ⟨c, hc⟩

/-- **When the kernel's form is put back exactly.** Whatever was written in between, writing
the attributes shown at first gives the form there was at first exactly when both delays are
whole in it. -/
theorem apply_written_eq_iff (t : Termios) (as : List Attributes) :
    apply t.attributes (written as t) = t ↔ t.Whole .crdly ∧ t.Whole .tabdly :=
  apply_attributes_eq_iff (akin_written as t)

/-- **A short delay comes back as a long one**, even when nothing was written in between. -/
theorem apply_written_shortDelay :
    ¬ ∀ (t : Termios) (as : List Attributes), apply t.attributes (written as t) = t := by
  intro hall
  have hback := hall { word := fun w => if w = .output then 0x200 else 0, chars := fun _ => 0 } []
  exact absurd (congrArg (fun t => t.word .output) hback) (by decide)

end

end Teletype.Termios
