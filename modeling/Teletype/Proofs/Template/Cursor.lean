import Teletype.Template.Cursor

/-!
# What lies ahead of a position

The scan of a template moves a position, and the run cuts pieces off. A position stands for
what lies ahead of it, `ahead`, which is nothing once it is past the end; how far past makes
no difference. In these terms every part of the scan does what its counterpart for lists
does (`Yields`), and that is all there is to say of it: it ends, it asks for no byte that is
not there, what it reads is right, and so is where it stops.

Only counts differ, since numbers may be too great for the program though not for the list:
`Reads` says what becomes of those that fit and of the others, for either kind of arithmetic,
and `countsAt_reads` that counts are read so. The main results are about whole pieces,
`pieceAt_reads`, and about the branches that are passed over, `branchEnd_eq`.
-/

namespace Teletype.Template.Cursor

variable {α β : Type} {bytes : Array UInt8} {i level : Nat} {b : UInt8} {rest : List UInt8}
  {a : Arithmetic}

/-- **What lies ahead of a position.** -/
def ahead (bytes : Array UInt8) (i : Nat) : List UInt8 := bytes.toList.drop i

theorem ahead_zero (template : List UInt8) : ahead template.toArray 0 = template := rfl

theorem ahead_add (bytes : Array UInt8) (i n : Nat) :
    ahead bytes (i + n) = (ahead bytes i).drop n := by
  rw [ahead, ahead, List.drop_drop]

theorem getElem?_eq_head? (bytes : Array UInt8) (i : Nat) :
    bytes[i]? = (ahead bytes i).head? := by
  rw [ahead, List.head?_drop, Array.getElem?_toList]

theorem lt_size_iff : i < bytes.size ↔ ahead bytes i ≠ [] := by
  rw [ahead, ne_eq, List.drop_eq_nil_iff, Array.length_toList, Nat.not_le]

/-- Nothing lies ahead of a position past the end. -/
theorem of_ahead_nil (h : ahead bytes i = []) :
    ¬ i < bytes.size ∧ bytes[i]? = none ∧ ∀ n, ahead bytes (i + n) = [] := by
  refine ⟨fun hlt => lt_size_iff.1 hlt h, ?_, fun n => ?_⟩
  · rw [getElem?_eq_head?, h]
    rfl
  · rw [ahead_add, h, List.drop_nil]

/-- Where something lies ahead, it starts with the byte at the position. -/
theorem of_ahead_cons (h : ahead bytes i = b :: rest) :
    i < bytes.size ∧ bytes[i]? = some b ∧ ahead bytes (i + 1) = rest := by
  refine ⟨lt_size_iff.2 ?_, ?_, ?_⟩
  · rw [h]
    exact List.cons_ne_nil b rest
  · rw [getElem?_eq_head?, h]
    rfl
  · rw [ahead_add, h]
    rfl

/-- A byte that lies ahead can be asked for. -/
theorem byteAt_of_ahead (h : ahead bytes i = b :: rest) : byteAt bytes i = pure b := by
  rw [byteAt, (of_ahead_cons h).2.1]

/-! ## Reading what lies ahead -/

/-- **What is read from a position on**: an attempt succeeds with a value, and comes to a
position that so much lies ahead of. -/
def Yields (bytes : Array UInt8) (r : Except Fault (α × Nat)) (p : α × List UInt8) : Prop :=
  ∃ i, r = pure (p.1, i) ∧ ahead bytes i = p.2

theorem Yields.pure {value : α} (h : ahead bytes i = rest) :
    Yields bytes (pure (value, i)) (value, rest) := ⟨i, rfl, h⟩

theorem Yields.bind {r : Except Fault (α × Nat)} {p : α × List UInt8} (h : Yields bytes r p)
    {k : α × Nat → Except Fault (β × Nat)} {q : β × List UInt8}
    (hk : ∀ i, ahead bytes i = p.2 → Yields bytes (k (p.1, i)) q) :
    Yields bytes (r >>= k) q := by
  obtain ⟨i, rfl, hi⟩ := h
  exact hk i hi

/-- **The next mark is found**, and everything up to it is passed over. -/
theorem skipTo_eq (bytes : Array UInt8) (mark : UInt8) (i : Nat) :
    skipTo bytes mark i = pure (i + ((ahead bytes i).takeWhile (· != mark)).length) := by
  induction h : ahead bytes i generalizing i with
  | nil =>
    rw [skipTo, dif_neg (of_ahead_nil h).1]
    rfl
  | cons b rest ih =>
    obtain ⟨hlt, -, hrest⟩ := of_ahead_cons h
    rw [skipTo, dif_pos hlt, byteAt_of_ahead h, pure_bind, List.takeWhile_cons]
    split
    · rw [ih _ hrest, List.length_cons, Nat.add_assoc, Nat.add_comm 1]
    · rfl

/-- The text up to a mark can be cut out. -/
theorem slice_upTo (mark : UInt8) (h : i ≤ bytes.size) :
    slice bytes i (i + ((ahead bytes i).takeWhile (· != mark)).length)
      = pure (upTo mark (ahead bytes i)).1 := by
  have hprefix : (ahead bytes i).takeWhile (· != mark) <+: ahead bytes i :=
    List.takeWhile_prefix _
  have hlength : (ahead bytes i).length = bytes.size - i := by
    rw [ahead, List.length_drop, Array.length_toList]
  have hle := hprefix.length_le
  rw [slice, if_pos ⟨Nat.le_add_right .., by omega⟩, Nat.add_sub_cancel_left]
  exact congrArg Except.ok (List.prefix_iff_eq_take.1 hprefix).symm

/-- What lies ahead of the position behind a mark is the text behind the mark. -/
theorem ahead_upTo (bytes : Array UInt8) (mark : UInt8) (i : Nat) :
    ahead bytes (i + ((ahead bytes i).takeWhile (· != mark)).length + 1)
      = (upTo mark (ahead bytes i)).2 := by
  have hdrop : (ahead bytes i).drop ((ahead bytes i).takeWhile (· != mark)).length
      = (ahead bytes i).dropWhile (· != mark) := by
    have happend := List.takeWhile_append_dropWhile (p := (· != mark)) (l := ahead bytes i)
    exact (congrArg (List.drop _) happend.symm).trans List.drop_left
  rw [ahead_add, ahead_add, hdrop]
  rfl

theorem octalAt_yields (bytes : Array UInt8) (count value i : Nat) :
    Yields bytes (pure (octalAt bytes count value i))
      (octal (3 - count) value (ahead bytes i)) := by
  induction hmore : 3 - count generalizing count value i with
  | zero =>
    rw [octalAt, if_neg (by omega), octal]
    exact .pure rfl
  | succ more ih =>
    rw [octalAt, if_pos (by omega)]
    cases h : ahead bytes i with
    | nil =>
      rw [(of_ahead_nil h).2.1, octal]
      exact .pure h
    | cons b rest =>
      obtain ⟨-, hb, hrest⟩ := of_ahead_cons h
      rw [hb, Option.bind_some, octal]
      cases octalDigit? b with
      | none => exact .pure h
      | some d => exact hrest ▸ ih (count + 1) (value * 8 + d) (i + 1) (by omega)

/-- **What a backslash stands for.** -/
theorem escapeAt_yields (bytes : Array UInt8) (i : Nat) :
    Yields bytes (pure (escapeAt bytes i)) (escape (ahead bytes i)) := by
  unfold escapeAt
  cases h : ahead bytes i with
  | nil =>
    rw [(of_ahead_nil h).2.1]
    exact .pure h
  | cons b rest =>
    obtain ⟨-, hb, hrest⟩ := of_ahead_cons h
    rw [hb]
    dsimp only [escape]
    cases octalDigit? b with
    | none => exact .pure hrest
    | some d =>
      obtain ⟨j, heq, hj⟩ := octalAt_yields bytes 1 d (i + 1)
      rw [hrest] at heq hj
      dsimp only
      rw [Except.ok.inj heq]
      exact .pure hj

theorem flagsAt_yields (bytes : Array UInt8) (c : Conversion) (i : Nat) :
    Yields bytes (pure (flagsAt bytes c i)) (c.readFlags (ahead bytes i)) := by
  induction h : ahead bytes i generalizing c i with
  | nil =>
    rw [flagsAt]
    split
    · exact .pure h
    · exact absurd ((of_ahead_nil h).2.1.symm.trans ‹_›) (Option.some_ne_none _).symm
  | cons b rest ih =>
    obtain ⟨-, hb, hrest⟩ := of_ahead_cons h
    rw [flagsAt, Conversion.readFlags]
    split
    · exact absurd (hb.symm.trans ‹_›) (Option.some_ne_none _)
    · rename_i b' hb'
      obtain rfl : b = b' := Option.some.inj (hb.symm.trans hb')
      dsimp only
      repeat' split
      all_goals first | exact ih _ _ hrest | exact .pure h

/-! ## Counts -/

/-- A count is no less than what it continues. -/
theorem le_readCount (value : Nat) (l : List UInt8) :
    value ≤ (Conversion.readCount value l).1 := by
  induction l generalizing value with
  | nil => exact Nat.le_refl _
  | cons b l ih =>
    rw [Conversion.readCount]
    split
    · exact Nat.le_trans (by omega) (ih _)
    · exact Nat.le_refl _

/-- Where a count stops does not depend on what it continues. -/
theorem readCount_snd (value other : Nat) (l : List UInt8) :
    (Conversion.readCount value l).2 = (Conversion.readCount other l).2 := by
  induction l generalizing value other with
  | nil => rfl
  | cons b l ih =>
    rw [Conversion.readCount, Conversion.readCount]
    split
    · exact ih _ _
    · rfl

theorem countAt_nil (h : ahead bytes i = []) (value : Nat) :
    countAt a bytes value i = pure (value, i) := by
  rw [countAt]
  split
  · rfl
  · exact absurd ((of_ahead_nil h).2.1.symm.trans ‹_›) (Option.some_ne_none _).symm

theorem countAt_cons (h : ahead bytes i = b :: rest) (value : Nat) :
    countAt a bytes value i = if 0x30 ≤ b && b ≤ 0x39 then
        a.pushCount value b >>= fun value => countAt a bytes value (i + 1)
      else pure (value, i) := by
  rw [countAt]
  split
  · exact absurd ((of_ahead_cons h).2.1.symm.trans ‹_›) (Option.some_ne_none _)
  · rename_i b' hb'
    obtain rfl : b = b' := Option.some.inj ((of_ahead_cons h).2.1.symm.trans hb')
    rfl

theorem pushCount_of_le (a : Arithmetic) {value : Nat}
    (h : value * 10 + (b - 0x30).toNat ≤ Conversion.greatestCount) :
    a.pushCount value b = pure (value * 10 + (b - 0x30).toNat) :=
  if_pos h

/-- **What is read where a number may not fit.** If it fits, it is read as it is. If not, that
is a fault where sums are checked; and where they wrap around, something else is read, though no
other text. -/
structure Reads (a : Arithmetic) (bytes : Array UInt8) (fits : Prop)
    (r : Except Fault (α × Nat)) (p : α × List UInt8) : Prop where
  /-- What fits is read as it is. -/
  fitting : fits → Yields bytes r p
  /-- What does not is a fault. -/
  checked : a = .checked → ¬ fits → r = .error .overflow
  /-- Where sums wrap around there is no fault. -/
  wrapping : a = .wrapping → ∃ value, Yields bytes r (value, p.2)

namespace Reads

variable {fits fits' : Prop} {r : Except Fault (α × Nat)} {p : α × List UInt8}

/-- Reading goes on behind what was read, in the same text whatever it was. -/
theorem bind (h : Reads a bytes fits r p) {k : α → Nat → Except Fault (β × Nat)}
    {q : α → β × List UInt8} (hq : ∀ value, (q value).2 = (q p.1).2)
    (hk : ∀ value i, ahead bytes i = p.2 → Reads a bytes fits' (k value i) (q value)) :
    Reads a bytes (fits ∧ fits') (r >>= fun x => k x.1 x.2) (q p.1) where
  fitting hfits := (h.fitting hfits.1).bind fun i hi => (hk p.1 i hi).fitting hfits.2
  checked ha hnot := by
    by_cases hfits : fits
    · obtain ⟨i, rfl, hi⟩ := h.fitting hfits
      exact (hk p.1 i hi).checked ha fun hfits' => hnot ⟨hfits, hfits'⟩
    · rw [h.checked ha hfits]
      rfl
  wrapping ha := by
    obtain ⟨value, i, rfl, hi⟩ := h.wrapping ha
    exact hq value ▸ (hk value i hi).wrapping ha

/-- What is done to the value does not matter. -/
theorem map (h : Reads a bytes fits r p) (f : α → β) :
    Reads a bytes fits (r >>= fun x => .ok (f x.1, x.2)) (f p.1, p.2) where
  fitting hfits := (h.fitting hfits).bind fun _ hi => .pure hi
  checked ha hnot := by
    rw [h.checked ha hnot]
    rfl
  wrapping ha := by
    obtain ⟨value, i, rfl, hi⟩ := h.wrapping ha
    exact ⟨f value, i, rfl, hi⟩

end Reads

/-- **A count is read.** -/
theorem countAt_reads (a : Arithmetic) (bytes : Array UInt8) {value : Nat}
    (hvalue : value ≤ Conversion.greatestCount) (i : Nat) :
    Reads a bytes ((Conversion.readCount value (ahead bytes i)).1 ≤ Conversion.greatestCount)
      (countAt a bytes value i) (Conversion.readCount value (ahead bytes i)) := by
  induction h : ahead bytes i generalizing value i with
  | nil =>
    rw [countAt_nil h]
    exact ⟨fun _ => .pure h, fun _ hnot => absurd hvalue hnot, fun _ => ⟨value, .pure h⟩⟩
  | cons b rest ih =>
    obtain ⟨-, -, hrest⟩ := of_ahead_cons h
    rw [countAt_cons h, Conversion.readCount]
    split
    · by_cases hfits : value * 10 + (b - 0x30).toNat ≤ Conversion.greatestCount
      · rw [pushCount_of_le a hfits, pure_bind]
        exact ih hfits (i + 1) hrest
      · -- the number only grows from here, so it does not fit in the end
        have hnot := fun hle => hfits (Nat.le_trans (le_readCount _ rest) hle)
        refine ⟨fun hle => absurd hle hnot, fun ha _ => ?_, fun ha => ?_⟩
        · subst ha
          rw [Arithmetic.pushCount, if_neg hfits]
          rfl
        · subst ha
          rw [Arithmetic.pushCount, if_neg hfits, pure_bind, readCount_snd]
          exact (ih (Nat.le_of_lt_succ (Nat.mod_lt _ (Nat.succ_pos _))) (i + 1) hrest).wrapping rfl
    · exact ⟨fun _ => .pure h, fun _ hnot => absurd hvalue hnot, fun _ => ⟨value, .pure h⟩⟩

/-- A precision is read. -/
theorem precisionAt_reads (a : Arithmetic) (bytes : Array UInt8) (i : Nat) :
    Reads a bytes
      ((Conversion.readPrecision (ahead bytes i)).1.getD 0 ≤ Conversion.greatestCount)
      (precisionAt a bytes i) (Conversion.readPrecision (ahead bytes i)) := by
  have hnone : (none : Option Nat).getD 0 ≤ Conversion.greatestCount := Nat.zero_le _
  unfold precisionAt
  rw [getElem?_eq_head?]
  cases h : ahead bytes i with
  | nil => exact ⟨fun _ => .pure h, fun _ hnot => absurd hnone hnot, fun _ => ⟨none, .pure h⟩⟩
  | cons b rest =>
    obtain ⟨-, -, hrest⟩ := of_ahead_cons h
    rw [List.head?_cons]
    by_cases hpoint : b = 0x2e
    · rw [if_pos (congrArg some hpoint), Conversion.readPrecision, if_pos (beq_iff_eq.2 hpoint)]
      have hcount := countAt_reads a bytes (Nat.zero_le _) (i + 1)
      rw [hrest] at hcount
      exact hcount.map some
    · rw [if_neg (fun heq => hpoint (Option.some.inj heq)), Conversion.readPrecision,
        if_neg (fun heq => hpoint (beq_iff_eq.1 heq))]
      exact ⟨fun _ => .pure h, fun _ hnot => absurd hnone hnot, fun _ => ⟨none, .pure h⟩⟩

/-- What lies ahead behind a byte that may be there. -/
theorem ahead_skip (bytes : Array UInt8) (mark : UInt8) (i : Nat) :
    ahead bytes (if bytes[i]? = some mark then i + 1 else i)
      = if (ahead bytes i).head? = some mark then (ahead bytes i).tail else ahead bytes i := by
  rw [getElem?_eq_head?, apply_ite (ahead bytes), ahead_add, List.drop_one]

theorem skipColon_eq (l : List UInt8) :
    Conversion.skipColon l = if l.head? = some 0x3a then l.tail else l := by
  cases l <;> simp [Conversion.skipColon]

theorem skipQuote_eq (l : List UInt8) :
    skipQuote l = if l.head? = some 0x27 then l.tail else l := by
  cases l <;> simp [skipQuote]

/-- **All but the letter of a conversion is read.** -/
theorem countsAt_reads (a : Arithmetic) (bytes : Array UInt8) (i : Nat) :
    Reads a bytes ((Conversion.readCounts (ahead bytes i)).1.isReadable = true)
      (countsAt a bytes i) (Conversion.readCounts (ahead bytes i)) := by
  obtain ⟨j, hflags, hj⟩ :=
    flagsAt_yields bytes {} (if bytes[i]? = some 0x3a then i + 1 else i)
  rw [ahead_skip, ← skipColon_eq] at hflags hj
  have hreadable : ∀ c : Conversion, (c.isReadable = true)
      = (c.width ≤ Conversion.greatestCount ∧ c.precision.getD 0 ≤ Conversion.greatestCount) := by
    simp [Conversion.isReadable]
  unfold countsAt Conversion.readCounts
  rw [Except.ok.inj hflags, hreadable]
  cases hread : ({} : Conversion).readFlags (Conversion.skipColon (ahead bytes i)) with
  | mk c text =>
    rw [hread] at hj
    subst hj
    -- the width comes to the text behind it, and the precision goes on from there
    have hprecision : ∀ width k, ahead bytes k = (Conversion.readCount 0 (ahead bytes j)).2 →
        Reads a bytes _ (precisionAt a bytes k >>= fun x =>
            .ok ({ c with width, precision := x.1 }, x.2)) _ :=
      fun width k hk => hk ▸ (precisionAt_reads a bytes k).map
        fun precision => ({ c with width, precision } : Conversion)
    exact (countAt_reads a bytes (Nat.zero_le _) j).bind (fun _ => rfl) hprecision

/-! ## Pieces -/

/-- Whether no letter completes a conversion that starts with a byte. -/
def LacksLetter (b : UInt8) (rest : List UInt8) : Prop :=
  (Conversion.readCounts (b :: rest)).2.head?.bind Letter.ofByte? = none

/-- **How an operator is read**, given the one that is there and what follows it. One whose counts
do not fit is a fault where sums are checked; where they wrap around it is an unknown operator,
if no letter completes it. -/
structure ReadsOp (a : Arithmetic) (bytes : Array UInt8) (letterless : Prop)
    (r : Except Fault (Op × Nat)) (p : Op × List UInt8) : Prop where
  /-- Most are read as they are. -/
  readable : p.1 ≠ .unreadable → Yields bytes r p
  /-- Counts that do not fit are a fault. -/
  checked : a = .checked → p.1 = .unreadable → r = .error .overflow
  /-- Where sums wrap around they may be no counts at all. -/
  wrapping : a = .wrapping → p.1 = .unreadable → letterless → Yields bytes r (.nothing, p.2)

theorem ReadsOp.of_yields {letterless : Prop} {r : Except Fault (Op × Nat)} {p : Op × List UInt8}
    (h : Yields bytes r p) (hne : p.1 ≠ .unreadable) : ReadsOp a bytes letterless r p :=
  ⟨fun _ => h, fun _ heq => absurd heq hne, fun _ heq => absurd heq hne⟩

/-- **A conversion is read.** -/
theorem conversionAt_reads (a : Arithmetic) (h : ahead bytes i = b :: rest) :
    ReadsOp a bytes (LacksLetter b rest) (conversionAt a bytes i) (conversion b rest) := by
  have hcounts := countsAt_reads a bytes i
  have hrest := (of_ahead_cons h).2.2
  rw [h] at hcounts
  unfold LacksLetter conversion
  cases hread : Conversion.readCounts (b :: rest) with
  | mk c left =>
    rw [hread] at hcounts
    dsimp only at hcounts ⊢
    cases hreadable : c.isReadable with
    | true =>
      rw [if_neg (by decide)]
      obtain ⟨j, hj, hleft⟩ := hcounts.fitting hreadable
      dsimp only at hj hleft
      unfold conversionAt
      rw [hj, pure_bind]
      dsimp only
      rw [getElem?_eq_head?, hleft]
      cases left with
      | nil => exact .of_yields (.pure hrest) (by simp [Conversion.readLetter?])
      | cons l left =>
        rw [List.head?_cons, Option.bind_some, Conversion.readLetter?]
        cases Letter.ofByte? l with
        | none => exact .of_yields (.pure hrest) (by simp)
        | some letter => exact .of_yields (.pure (of_ahead_cons hleft).2.2) (by simp)
    | false =>
      rw [if_pos (by decide)]
      have hnot : ¬ c.isReadable = true := by
        rw [hreadable]
        exact Bool.false_ne_true
      refine ⟨fun hne => absurd rfl hne, fun ha _ => ?_, fun ha _ hletter => ?_⟩
      · unfold conversionAt
        rw [hcounts.checked ha hnot]
        rfl
      · obtain ⟨d, j, hj, hleft⟩ := hcounts.wrapping ha
        dsimp only at hj hleft
        unfold conversionAt
        rw [hj, pure_bind]
        dsimp only
        rw [getElem?_eq_head?, hleft, hletter]
        exact .pure hrest

theorem ne_unreadable_of_simpleOp? {op : Op} (h : simpleOp? b = some op) : op ≠ .unreadable := by
  rintro rfl
  unfold simpleOp? at h
  repeat' split at h
  all_goals simp at h

/-- **An operator is read.** -/
theorem operatorAt_reads (a : Arithmetic) (h : ahead bytes i = b :: rest) :
    ReadsOp a bytes (LacksLetter b rest) (operatorAt a bytes b (i + 1)) (operator b rest) := by
  obtain ⟨hlt, -, rfl⟩ := of_ahead_cons h
  have hnext : ∀ {c left}, ahead bytes (i + 1) = c :: left → ahead bytes (i + 1 + 1) = left :=
    fun hcons => (of_ahead_cons hcons).2.2
  unfold operatorAt operator
  split
  · -- a parameter
    rw [getElem?_eq_head?]
    cases hcons : ahead bytes (i + 1) with
    | nil => exact .of_yields (.pure hcons) (by simp)
    | cons d left =>
      refine .of_yields (.pure (hnext hcons)) ?_
      dsimp only
      split <;> simp
  split
  · -- a variable
    rw [getElem?_eq_head?]
    cases hcons : ahead bytes (i + 1) with
    | nil => exact .of_yields (.pure hcons) (by simp)
    | cons name left =>
      refine .of_yields (.pure (hnext hcons)) ?_
      dsimp only
      repeat' split
      all_goals simp
  split
  · -- a character
    rw [getElem?_eq_head?]
    cases hcons : ahead bytes (i + 1) with
    | nil => exact .of_yields (.pure hcons) (by simp)
    | cons c left =>
      refine .of_yields (.pure ?_) (by simp)
      rw [ahead_skip, hnext hcons, skipQuote_eq]
  split
  · -- a constant
    rw [skipTo_eq, pure_bind, slice_upTo _ hlt, pure_bind]
    exact .of_yields (.pure (ahead_upTo ..)) (by simp)
  · cases hsimple : simpleOp? b with
    | some op => exact .of_yields (.pure rfl) (ne_unreadable_of_simpleOp? hsimple)
    | none => exact conversionAt_reads a h

/-- **A piece is read.** -/
theorem pieceAt_reads (a : Arithmetic) (h : ahead bytes i = b :: rest) :
    ReadsOp a bytes (∀ c left, rest = c :: left → LacksLetter c left) (pieceAt a bytes i)
      (piece b rest) := by
  obtain ⟨-, -, hrest⟩ := of_ahead_cons h
  unfold pieceAt piece
  rw [byteAt_of_ahead h, pure_bind]
  dsimp only
  split
  · -- an escape
    obtain ⟨j, hj, hleft⟩ := escapeAt_yields bytes (i + 1)
    rw [hrest] at hj hleft
    rw [Except.ok.inj hj]
    exact .of_yields (.pure hleft) (by simp)
  cases rest with
  | nil =>
    -- nothing follows, so the byte stands for itself
    obtain ⟨hend, hnone, -⟩ := of_ahead_nil hrest
    simp only [hend, hnone, decide_false, Bool.and_false, reduceCtorEq, Bool.false_eq_true,
      if_false, ite_self]
    exact .of_yields (.pure hrest) (by simp)
  | cons c left =>
    obtain ⟨hlt, hc, hleft⟩ := of_ahead_cons hrest
    simp only [hlt, hc, decide_true, Bool.and_true, Option.some.injEq, Bool.and_eq_true,
      decide_eq_true_eq]
    split
    · -- a caret
      rw [byteAt_of_ahead hrest, pure_bind]
      exact .of_yields (.pure hleft) (by simp)
    by_cases hdollar : (b == 0x24) = true
    · have hpercent : ¬ (b == 0x25) = true := by
        rw [beq_iff_eq.1 hdollar]
        decide
      by_cases hangle : c = 0x3c
      · -- padding
        rw [if_pos ⟨hdollar, hangle⟩, if_pos hdollar, if_pos (beq_iff_eq.2 hangle), skipTo_eq,
          pure_bind]
        exact .of_yields (.pure (by rw [ahead_upTo, hrest])) (by simp)
      · rw [if_neg (fun hand => hangle hand.2), if_neg hpercent, if_pos hdollar,
          if_neg (fun heq => hangle (beq_iff_eq.1 heq))]
        exact .of_yields (.pure hrest) (by simp)
    · rw [if_neg (fun hand => hdollar hand.1), if_neg hdollar]
      split
      · -- an operator
        rw [byteAt_of_ahead hrest, pure_bind]
        obtain ⟨hreadable, hchecked, hwrapping⟩ := operatorAt_reads a hrest
        exact ⟨hreadable, hchecked, fun ha heq hletter => hwrapping ha heq (hletter c left rfl)⟩
      · exact .of_yields (.pure hrest) (by simp)

/-! ## Branches -/

section Branches

variable {toElse : Bool}

theorem branchEnd_nil (h : ahead bytes i = []) : branchEnd bytes toElse level i = pure i := by
  rw [branchEnd.eq_def, dif_neg (of_ahead_nil h).1]

theorem branchEnd_of_ne (h : ahead bytes i = b :: rest) (hb : (b != 0x25) = true) :
    branchEnd bytes toElse level i = branchEnd bytes toElse level (i + 1) := by
  rw [branchEnd.eq_def bytes toElse level i, dif_pos (of_ahead_cons h).1, byteAt_of_ahead h,
    pure_bind, if_pos hb]

theorem branchEnd_percent {c : UInt8} (h : ahead bytes i = b :: c :: rest)
    (hb : ¬ (b != 0x25) = true) :
    branchEnd bytes toElse level i
      = if c == 0x3f then branchEnd bytes toElse (level + 1) (i + 2)
        else if c == 0x3b then
          if level == 0 then pure (i + 2) else branchEnd bytes toElse (level - 1) (i + 2)
        else if c == 0x65 && level == 0 && toElse then pure (i + 2)
        else branchEnd bytes toElse level (i + 2) := by
  rw [branchEnd.eq_def bytes toElse level i, dif_pos (of_ahead_cons h).1, byteAt_of_ahead h,
    pure_bind, if_neg hb, (of_ahead_cons (of_ahead_cons h).2.2).2.1]

theorem branchEnd_last (h : ahead bytes i = [b]) (hb : ¬ (b != 0x25) = true) :
    branchEnd bytes toElse level i = branchEnd bytes toElse level (i + 2) := by
  rw [branchEnd.eq_def bytes toElse level i, dif_pos (of_ahead_cons h).1, byteAt_of_ahead h,
    pure_bind, if_neg hb, (of_ahead_nil (of_ahead_cons h).2.2).2.1]

theorem skipBranch_cons_cons (toElse : Bool) (level : Nat) (b c : UInt8) (rest : List UInt8) :
    skipBranch toElse level (b :: c :: rest)
      = if b != 0x25 then skipBranch toElse level (c :: rest)
        else if c == 0x3f then skipBranch toElse (level + 1) rest
        else if c == 0x3b then
          if level == 0 then rest else skipBranch toElse (level - 1) rest
        else if c == 0x65 && level == 0 && toElse then rest
        else skipBranch toElse level rest := by
  cases level <;> rfl

/-- **The position behind a branch is found.** -/
theorem branchEnd_eq (bytes : Array UInt8) (toElse : Bool) (level i : Nat) :
    ∃ j, branchEnd bytes toElse level i = pure j
      ∧ ahead bytes j = skipBranch toElse level (ahead bytes i) := by
  have hbehind : ∀ {i b c rest}, ahead bytes i = b :: c :: rest → ahead bytes (i + 2) = rest :=
    fun h => (of_ahead_cons (of_ahead_cons h).2.2).2.2
  induction level, h : ahead bytes i using skipBranch.induct toElse generalizing i with
  | case1 level =>
    refine ⟨i, branchEnd_nil h, ?_⟩
    rw [h, skipBranch]
  | case2 level b =>
    -- one byte or two past the last, nothing lies ahead
    by_cases hb : (b != 0x25) = true
    · exact ⟨i + 1, (branchEnd_of_ne h hb).trans (branchEnd_nil (of_ahead_cons h).2.2),
        (of_ahead_cons h).2.2⟩
    · have hend : ahead bytes (i + 2) = [] := (of_ahead_nil (of_ahead_cons h).2.2).2.2 1
      exact ⟨i + 2, (branchEnd_last h hb).trans (branchEnd_nil hend), hend⟩
  | case3 level b c rest hb ih =>
    rw [branchEnd_of_ne h hb, skipBranch_cons_cons, if_pos hb]
    exact ih _ (of_ahead_cons h).2.2
  | case4 level b c rest hb hif ih =>
    rw [branchEnd_percent h hb, skipBranch_cons_cons, if_neg hb, if_pos hif, if_pos hif]
    exact ih _ (hbehind h)
  | case5 b c rest hb hif hfi =>
    rw [branchEnd_percent h hb, skipBranch_cons_cons, if_neg hb, if_neg hif, if_neg hif,
      if_pos hfi, if_pos hfi]
    exact ⟨i + 2, rfl, hbehind h⟩
  | case6 b c rest hb hif hfi level ih =>
    rw [branchEnd_percent h hb, skipBranch_cons_cons, if_neg hb, if_neg hif, if_neg hif,
      if_pos hfi, if_pos hfi]
    exact ih _ (hbehind h)
  | case7 level b c rest hb hif hfi helse =>
    rw [branchEnd_percent h hb, skipBranch_cons_cons, if_neg hb, if_neg hif, if_neg hif,
      if_neg hfi, if_neg hfi, if_pos helse, if_pos helse]
    exact ⟨i + 2, rfl, hbehind h⟩
  | case8 level b c rest hb hif hfi helse ih =>
    rw [branchEnd_percent h hb, skipBranch_cons_cons, if_neg hb, if_neg hif, if_neg hif,
      if_neg hfi, if_neg hfi, if_neg helse, if_neg helse]
    exact ih _ (hbehind h)

end Branches

/-! ## Turns -/

section Turns

variable {op : Op} {st after : State} {f : Fault}

/-- **A turn whose operator has an effect** comes to where the run goes on. -/
theorem turn_of_exec (hop : Yields bytes (pieceAt a bytes i) (op, rest))
    (hexec : exec a op st = .ok after) :
    Yields bytes (turn a bytes i st) (after, op.next st rest) := by
  obtain ⟨j, hj, hrest⟩ := hop
  dsimp only at hj hrest
  subst hrest
  have hskip : ∀ toElse, Yields bytes
      (branchEnd bytes toElse 0 j >>= fun k => .ok (after, k))
      (after, skipBranch toElse 0 (ahead bytes j)) := by
    intro toElse
    obtain ⟨k, hk, hahead⟩ := branchEnd_eq bytes toElse 0 j
    rw [hk]
    exact .pure hahead
  unfold turn
  rw [hj, pure_bind]
  dsimp only
  rw [hexec]
  cases op with
  | branch =>
    show Yields bytes (if st.top.toInt = 0 then _ else _)
      (after, if st.top.toInt = 0 then _ else _)
    split
    · exact hskip true
    · exact .pure rfl
  | otherwise => exact hskip false
  | _ => exact .pure rfl

/-- **A turn whose operator has none** is a fault. -/
theorem turn_of_fault (hop : Yields bytes (pieceAt a bytes i) (op, rest))
    (hexec : exec a op st = .error f) : turn a bytes i st = .error f := by
  obtain ⟨j, hj, -⟩ := hop
  unfold turn
  rw [hj, pure_bind]
  dsimp only
  rw [hexec]
  rfl

end Turns

end Teletype.Template.Cursor
