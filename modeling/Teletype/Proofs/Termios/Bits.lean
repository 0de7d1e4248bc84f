import Teletype.Termios

/-!
# Attributes in words of bits

Writing attributes goes through the flags of a word one after another, and each of them sets
or clears the bits it stands for (`Stands`). The order does not matter, since no bit stands
for two flags of a word (`pairwise_apart`): in the end **every bit that a flag stands for says
whether the flag is on** (`bit_apply`). The character sizes are written last. Their field meets
no bit of a flag and holds the size that was chosen (`apply_and_sizeField`). The slots, too,
have places of their own (`chars_apply`).

Everything else is foreign to attributes, and **what is foreign stays as it was**: both forms
are akin (`akin_apply`).
-/

namespace Teletype.Termios

/-! ## Single bits -/

/-- A bit of a word. -/
def bit (word : UInt32) (i : Nat) : Bool := word.toBitVec.getLsbD i

section

variable {v w word m : UInt32} {i : Nat}

@[simp] theorem bit_zero (i : Nat) : bit 0 i = false := by simp [bit]

@[simp] theorem bit_and (v w : UInt32) (i : Nat) : bit (v &&& w) i = (bit v i && bit w i) := by
  simp [bit]

@[simp] theorem bit_or (v w : UInt32) (i : Nat) : bit (v ||| w) i = (bit v i || bit w i) := by
  simp [bit]

/-- The bits of one word that are not in another. -/
theorem bit_and_not (v w : UInt32) (i : Nat) : bit (v &&& ~~~w) i = (bit v i && !bit w i) := by
  -- beyond the word there are no bits, neither of the complement nor of the other word
  by_cases hi : i < 32
  · simp [bit, hi]
  · simp [bit, BitVec.getLsbD_of_ge _ _ (Nat.le_of_not_lt hi)]

/-- Words are their bits. -/
theorem eq_of_bit (h : ∀ i, bit v i = bit w i) : v = w :=
  UInt32.toBitVec_inj.1 (BitVec.eq_of_getLsbD_eq fun i _ => h i)

theorem ne_zero_iff_bit : word ≠ 0 ↔ ∃ i, bit word i = true := by
  refine ⟨fun h => Classical.byContradiction fun hnone => h (eq_of_bit fun i => ?_), ?_⟩
  · rw [bit_zero]
    exact eq_false_of_ne_true fun hi => hnone ⟨i, hi⟩
  · rintro ⟨i, hi⟩ rfl
    rw [bit_zero] at hi
    exact Bool.false_ne_true hi

theorem bit_eq_false_of_and (h : v &&& w = 0) (hi : bit v i = true) : bit w i = false := by
  have hand : bit (v &&& w) i = false := by rw [h, bit_zero]
  rwa [bit_and, hi, Bool.true_and] at hand

theorem bit_assign (word m : UInt32) (on : Bool) (i : Nat) :
    bit (assign word m on) i = if bit m i then on else bit word i := by
  cases on with
  | true => cases hm : bit m i <;> simp [assign, hm]
  | false =>
    rw [assign, if_neg Bool.false_ne_true, bit_and_not]
    cases bit m i <;> simp

end

/-! ## What bits stand for -/

/-- **A bit that a flag stands for.** -/
def Stands (f : Flag) (i : Nat) : Prop := ∃ m, mask f = some m ∧ bit m i = true

/-- Flags that stand for different bits. -/
def Apart (f g : Flag) : Prop := ∀ i, Stands f i → ¬ Stands g i

/-- **A bit of a word that is foreign to attributes**: no flag stands for it, and it is not
in the field of the character size. -/
def Foreign (w : FlagWord) (i : Nat) : Prop :=
  (∀ f, wordOf f = w → ¬ Stands f i) ∧ (w = .control → bit sizeField i = false)

/-- **Akin**: another form is the same in what is foreign to attributes. -/
structure Akin (t u : Termios) : Prop where
  /-- The foreign bits are the same. -/
  bit : ∀ w i, Foreign w i → bit (u.word w) i = bit (t.word w) i
  /-- The bytes in no slot are the same. -/
  char : ∀ i, (∀ c, slot c ≠ some i) → u.chars i = t.chars i

theorem Akin.refl (t : Termios) : Akin t t := ⟨fun _ _ _ => rfl, fun _ _ => rfl⟩

theorem Akin.trans {t u v : Termios} (h : Akin t u) (h' : Akin u v) : Akin t v :=
  ⟨fun w i hi => (h'.bit w i hi).trans (h.bit w i hi),
    fun i hi => (h'.char i hi).trans (h.char i hi)⟩

theorem mem_ofWord_iff {f : Flag} {w : FlagWord} : f ∈ Flag.ofWord w ↔ wordOf f = w := by
  cases w <;> cases f <;> decide

theorem mask_ne_zero {f : Flag} {m : UInt32} (h : mask f = some m) : m ≠ 0 := by
  have hmasks : ∀ f ∈ Flag.all, mask f ≠ some 0 := by decide
  rintro rfl
  exact hmasks f f.mem_all h

/-- **No bit stands for two flags of a word.** -/
theorem pairwise_apart (w : FlagWord) : (Flag.ofWord w).Pairwise Apart := by
  have hmasks : (Flag.ofWord w).Pairwise fun f g => (mask f).getD 0 &&& (mask g).getD 0 = 0 := by
    cases w <;> decide
  refine hmasks.imp fun hand i => ?_
  rintro ⟨m, hm, him⟩ ⟨n, hn, hin⟩
  rw [hm, hn] at hand
  exact Bool.false_ne_true ((bit_eq_false_of_and hand him).symm.trans hin)

/-- The field of the character size meets no flag. -/
theorem not_stands_of_sizeField {f : Flag} {i : Nat} (hf : wordOf f = .control)
    (hi : bit sizeField i = true) : ¬ Stands f i := by
  have hmasks : ∀ f ∈ Flag.controls, sizeField &&& (mask f).getD 0 = 0 := by decide
  rintro ⟨m, hm, him⟩
  have hand := hmasks f (mem_ofWord_iff.2 hf)
  rw [hm] at hand
  exact Bool.false_ne_true ((bit_eq_false_of_and hand hi).symm.trans him)

/-- No two slots share a place. -/
theorem slot_injective {c d : ControlChar} {i : Fin 32} (hc : slot c = some i)
    (hd : slot d = some i) : c = d := by
  have hslots : ∀ c ∈ ControlChar.all, ∀ d ∈ ControlChar.all, slot c ≠ none →
      slot c = slot d → c = d := by decide
  refine hslots c c.mem_all d d.mem_all ?_ (hc.trans hd.symm)
  rw [hc]
  exact Option.some_ne_none i

/-! ## The flags of a word -/

section

variable {a : Attributes} {t : Termios} {f : Flag} {fs : List Flag} {word v : UInt32} {i : Nat}

theorem applyFlags_cons (a : Attributes) (f : Flag) (fs : List Flag) (word : UInt32) :
    applyFlags a (f :: fs) word = applyFlags a fs (applyFlags a [f] word) := rfl

theorem applyFlags_singleton (a : Attributes) (f : Flag) (word : UInt32) :
    applyFlags a [f] word = (mask f).elim word fun m => assign word m (a.flag f) := by
  rw [applyFlags, List.foldl_cons, List.foldl_nil]
  cases mask f <;> rfl

/-- One flag sets or clears the bits it stands for. -/
theorem bit_applyFlags_singleton (hi : Stands f i) : bit (applyFlags a [f] word) i = a.flag f := by
  obtain ⟨m, hm, him⟩ := hi
  rw [applyFlags_singleton, hm]
  exact (bit_assign ..).trans (if_pos him)

/-- Flags leave alone the bits that they do not stand for. -/
theorem bit_applyFlags_of_not_stands (h : ∀ f ∈ fs, ¬ Stands f i) :
    bit (applyFlags a fs word) i = bit word i := by
  induction fs generalizing word with
  | nil => rfl
  | cons f fs ih =>
    rw [applyFlags_cons, ih fun g hg => h g (List.mem_cons_of_mem f hg), applyFlags_singleton]
    cases hm : mask f with
    | none => rfl
    | some m =>
      exact (bit_assign ..).trans (if_neg fun him => h f List.mem_cons_self ⟨m, hm, him⟩)

/-- **A bit that one of several flags stands for** says whether that flag is on. -/
theorem bit_applyFlags (hfs : fs.Pairwise Apart) (hf : f ∈ fs) (hi : Stands f i) :
    bit (applyFlags a fs word) i = a.flag f := by
  induction fs generalizing word with
  | nil => exact absurd hf List.not_mem_nil
  | cons g fs ih =>
    rw [List.pairwise_cons] at hfs
    rw [applyFlags_cons]
    rcases List.mem_cons.1 hf with rfl | hf
    · -- the flags that come later stand for other bits
      rw [bit_applyFlags_of_not_stands fun g hg => hfs.1 g hg i hi, bit_applyFlags_singleton hi]
    · exact ih hfs.2 hf

/-! ## The character size -/

/-- The size that is chosen is on. -/
theorem exists_of_sizeChosen (h : sizeChosen a = some v) :
    ∃ f, a.flag f = true ∧ sizeValue f = some v := by
  obtain ⟨f, hf, hv⟩ := Option.bind_eq_some_iff.1 h
  exact ⟨f, List.find?_some hf, hv⟩

/-- Sizes are within their field. -/
theorem sizeField_and_of_sizeChosen (h : sizeChosen a = some v) : v &&& sizeField = v := by
  have hvalues : ∀ f ∈ Flag.all, (sizeValue f).map (· &&& sizeField) = sizeValue f := by decide
  obtain ⟨f, -, hv⟩ := exists_of_sizeChosen h
  have hvalue := hvalues f f.mem_all
  rwa [hv, Option.map_some, Option.some_inj] at hvalue

theorem bit_applySize (hi : bit sizeField i = false) :
    bit (applySize a word) i = bit word i := by
  unfold applySize
  split
  · next v hv =>
    have hvalue : bit (v &&& sizeField) i = bit v i := by rw [sizeField_and_of_sizeChosen hv]
    rw [bit_and, hi, Bool.and_false] at hvalue
    rw [bit_or, bit_and_not, hi, ← hvalue, Bool.not_false, Bool.and_true, Bool.or_false]
  · rfl

/-! ## All of it -/

/-- The words of the kernel's form after writing. The size only concerns one of them. -/
theorem bit_word_apply (a : Attributes) (t : Termios) {w : FlagWord}
    (hi : w = .control → bit sizeField i = false) :
    bit ((apply a t).word w) i = bit (applyFlags a (Flag.ofWord w) (t.word w)) i := by
  cases w with
  | control => exact bit_applySize (hi rfl)
  | input | output | discipline => rfl

/-- **Every bit that a flag stands for says whether the flag is on.** -/
theorem bit_apply (a : Attributes) (t : Termios) (hi : Stands f i) :
    bit ((apply a t).word (wordOf f)) i = a.flag f := by
  have hfield : wordOf f = .control → bit sizeField i = false := fun hf =>
    eq_false_of_ne_true fun hsize => not_stands_of_sizeField hf hsize hi
  rw [bit_word_apply a t hfield]
  exact bit_applyFlags (pairwise_apart _) (mem_ofWord_iff.2 rfl) hi

/-- **The field of the character size holds the size chosen.** -/
theorem apply_and_sizeField (t : Termios) (h : sizeChosen a = some v) :
    (apply a t).word .control &&& sizeField = v := by
  refine eq_of_bit fun i => ?_
  show bit (applySize a _ &&& sizeField) i = bit v i
  rw [applySize, h, bit_and, bit_or, bit_and_not, ← sizeField_and_of_sizeChosen h, bit_and]
  cases bit sizeField i <;> simp

/-- A place has the byte of the slot that it belongs to, and else what it had. -/
theorem chars_apply_eq (a : Attributes) (t : Termios) (i : Fin 32) :
    (apply a t).chars i
      = (ControlChar.all.find? fun c => slot c == some i).elim (t.chars i) (byteFor a) := by
  dsimp only [apply]
  cases ControlChar.all.find? fun c => slot c == some i <;> rfl

/-- **Every slot has its own byte.** -/
theorem chars_apply (a : Attributes) (t : Termios) {c : ControlChar} {i : Fin 32}
    (h : slot c = some i) : (apply a t).chars i = byteFor a c := by
  rw [chars_apply_eq]
  cases hfind : ControlChar.all.find? fun d => slot d == some i with
  | none =>
    rw [List.find?_eq_none] at hfind
    exact absurd (beq_iff_eq.2 h) (hfind c c.mem_all)
  | some d =>
    have hd := List.find?_some hfind
    exact congrArg (byteFor a) (slot_injective (beq_iff_eq.1 hd) h)

/-- **What is foreign to attributes stays as it was.** -/
theorem akin_apply (a : Attributes) (t : Termios) : Akin t (apply a t) where
  bit w i hi := by
    rw [bit_word_apply a t hi.2]
    exact bit_applyFlags_of_not_stands fun f hf => hi.1 f (mem_ofWord_iff.1 hf)
  char i hi := by
    have hfind : (ControlChar.all.find? fun d => slot d == some i) = none :=
      List.find?_eq_none.2 fun c _ hc => hi c (beq_iff_eq.1 hc)
    rw [chars_apply_eq, hfind, Option.elim_none]

/-- What every step leaves akin is akin after all of them. -/
theorem Akin.foldl {σ α : Type} {form : σ → Termios} {step : σ → α → σ}
    (h : ∀ s a, Akin (form s) (form (step s a))) (as : List α) (s : σ) :
    Akin (form s) (form (as.foldl step s)) := by
  induction as generalizing s with
  | nil => exact Akin.refl _
  | cons a as ih => exact (h s a).trans (ih (step s a))

end

end Teletype.Termios
