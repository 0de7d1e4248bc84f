import Mathlib.Data.List.Basic
import Teletype.Proofs.Description.Fields

/-!
# Statements written as fields

Every statement can be written as a field: a property as its name, a number in
decimal behind a number sign, and a template as it is behind an equals sign. The
field is read back as the statement it was written from, whatever equals and number
signs the template holds, since names hold neither and the first one counts
(`statement?_form`).

There is one exception. A field that ends in `@` is taken for a capability that is
taken back, and a template may end so: `ich=\E[%p1%d@`. Nothing is read from such a
field.

A description is read by adding up what its fields say. A later statement replaces an
earlier one about the same capability, but there is nothing to replace when all of
them are what one description says. Then their order does not count, and what is read
says just what they say (`says_foldl`).
-/

namespace Teletype

open Text

/-! ## Names of capabilities -/

namespace Capability

/-- Names are letters and digits. -/
theorem isAlphanum_of_mem_name (c : Capability) : ∀ ch ∈ c.name.toList, ch.isAlphanum = true := by
  have hall : (all.all fun c => c.name.toList.all Char.isAlphanum) = true := by decide +kernel
  exact List.all_eq_true.1 (List.all_eq_true.1 hall c (mem_all c))

/-- So nothing else is in them. -/
theorem ne_of_mem_name {c : Capability} {ch mark : Char} (hmark : mark.isAlphanum = false)
    (h : ch ∈ c.name.toList) : ch ≠ mark := by
  rintro rfl
  exact Bool.false_ne_true (hmark.symm.trans (c.isAlphanum_of_mem_name ch h))

/-- There is a name for every capability. -/
theorem name_ne_nil (c : Capability) : c.name.toList ≠ [] := by
  have hall : (all.all fun c => !c.name.toList.isEmpty) = true := by decide +kernel
  have hc := List.all_eq_true.1 hall c (mem_all c)
  rintro hnil
  rw [hnil] at hc
  exact Bool.false_ne_true hc

/-- **No two capabilities share a name.** -/
theorem ofName?_name (c : Capability) : ofName? c.name = some c := by
  have hall : (all.all fun c => ofName? c.name == some c) = true := by decide +kernel
  exact beq_iff_eq.1 (List.all_eq_true.1 hall c (mem_all c))

/-- A capability is found by its name and its kind. -/
theorem ofNameAndKind?_name {c : Capability} {k : CapabilityKind} (h : c.kind = k) :
    ofNameAndKind? c.name k = some c := by
  rw [ofNameAndKind?, ofName?_name, Option.filter_some, if_pos (by rw [h, beq_self_eq_true])]

end Capability

namespace Description

/-! ## Numerals -/

/-- A number in decimal. -/
def numeral : Int → List Char
  | .ofNat n => decimal n
  | .negSucc n => '-' :: decimal (n + 1)

/-- Only the numeral of zero starts with a zero. -/
theorem head?_decimal {n : Nat} (h : 0 < n) : (decimal n).head? ≠ some '0' := by
  induction n using Nat.strongRecOn with
  | ind n ih =>
    by_cases hn : n < 10
    · have hdigit : ∀ m : Fin 10, 0 < m.val → some m.val.digitChar ≠ some '0' := by decide
      rw [decimal, Nat.toDigits_of_lt_base hn]
      exact hdigit ⟨n, hn⟩ h
    · rw [Nat.not_lt] at hn
      have hrest := ih (n / 10) (Nat.div_lt_self h (by decide)) (Nat.div_pos hn (by decide))
      rwa [decimal, Nat.toDigits_of_base_le (by decide) hn, ← decimal,
        List.head?_append_of_ne_nil _ (decimal_ne_nil _)]

/-- Whether a character may be in a numeral. -/
def isNumeral (c : Char) : Bool := c.isDigit || c == '-'

/-- A numeral is a sign, if any, and digits. -/
theorem isNumeral_of_mem_numeral {n : Int} {c : Char} (h : c ∈ numeral n) :
    isNumeral c = true := by
  have hdigit : ∀ {m : Nat}, c ∈ decimal m → isNumeral c = true := fun hc => by
    rw [isNumeral, isDigit_of_mem_decimal hc, Bool.true_or]
  cases n with
  | ofNat n => exact hdigit h
  | negSucc n =>
    rcases List.mem_cons.1 h with rfl | hc
    · rfl
    · exact hdigit hc

/-- So nothing else is in it. -/
theorem ne_of_mem_numeral {n : Int} {c mark : Char} (hmark : isNumeral mark = false)
    (h : c ∈ numeral n) : c ≠ mark := by
  rintro rfl
  exact Bool.false_ne_true (hmark.symm.trans (isNumeral_of_mem_numeral h))

theorem isBlank_of_mem_numeral {n : Int} {c : Char} (h : c ∈ numeral n) : isBlank c = false := by
  have hc := isNumeral_of_mem_numeral h
  rw [isNumeral, Bool.or_eq_true, beq_iff_eq] at hc
  rcases hc with hc | rfl
  · exact isBlank_of_isDigit hc
  · rfl

/-- What does not start with a zero is read in decimal. -/
theorem number?_of_head? {cs : List Char} (htrim : trim cs = cs) (h : cs.head? ≠ some '0') :
    number? cs = int32? 10 cs := by
  unfold number?
  rw [htrim]
  split
  · exact absurd rfl h
  · exact absurd rfl h
  · exact absurd rfl h
  · rfl

/-- **A numeral is read as the number it was written from.** -/
theorem number?_numeral {n : Int} (hleast : -2147483648 ≤ n) (hgreatest : n ≤ 2147483647) :
    number? (numeral n) = some n := by
  have htrim : trim (numeral n) = numeral n := trim_of_forall fun c => isBlank_of_mem_numeral
  cases n with
  | ofNat n =>
    -- a zero in front would make the numeral octal, but for zero itself
    rcases Nat.eq_zero_or_pos n with rfl | hn
    · rfl
    · have hint : integer? 10 (-2147483648) 2147483647 (decimal n)
          = some (Nat.ofDigitChars 10 (decimal n) 0 : Int) :=
        integer?_of_isDigit (decimal_ne_nil n) (fun c => isDigit_of_mem_decimal)
          (by rw [ofDigitChars_decimal]; exact hleast)
          (by rw [ofDigitChars_decimal]; exact hgreatest)
      rw [number?_of_head? htrim (head?_decimal hn)]
      rwa [ofDigitChars_decimal] at hint
  | negSucc n =>
    have hint : integer? 10 (-2147483648) 2147483647 ('-' :: decimal (n + 1))
        = some (-(Nat.ofDigitChars 10 (decimal (n + 1)) 0 : Int)) :=
      integer?_minus (decimal_ne_nil (n + 1)) (fun c => isDigit_of_mem_decimal)
        (by rw [ofDigitChars_decimal]; exact hleast)
          (by rw [ofDigitChars_decimal]; exact hgreatest)
    have hminus : (numeral (.negSucc n)).head? ≠ some '0' := by
      show some '-' ≠ some '0'
      decide
    rw [number?_of_head? htrim hminus]
    rwa [ofDigitChars_decimal] at hint

/-! ## Fields -/

/-- **A template that can be written into a field** without the field ending in it, or
something being trimmed from it. -/
structure IsTemplate (t : List Char) : Prop where
  /-- There are no blanks around it. -/
  trimmed : trim t = t
  /-- It is in one line. -/
  oneLine : '\n' ∉ t
  /-- Every comma in it is behind a backslash, and something behind every backslash. -/
  isSealed : isSealed t = true

namespace Statement

/-- **A statement as a field.** -/
def form : Statement → List Char
  | .flag c => c.name.toList
  | .number c n => c.name.toList ++ '#' :: numeral n
  | .text c t => c.name.toList ++ '=' :: t.toList

/-- **A statement that can be written**: about a capability of the right kind, with a
number of 32 bits or with a template. -/
def Writable : Statement → Prop
  | .flag c => c.kind = .flag
  | .number c n => c.kind = .number ∧ -2147483648 ≤ n ∧ n ≤ 2147483647
  | .text c t => c.kind = .text ∧ IsTemplate t.toList

/-- Whether the field of a statement looks as if a capability were taken back. -/
def cancels : Statement → Bool
  | .text _ t => t.toList.getLast? == some '@'
  | _ => false

/-- A field that starts with the name of a capability. -/
theorem isField_append {c : Capability} {value : List Char}
    (hlast : ∀ ch ∈ value.getLast?, isBlank ch = false) (hline : '\n' ∉ value)
    (hsealed : Description.isSealed value = true) : IsField (c.name.toList ++ value) := by
  have hname := c.isAlphanum_of_mem_name
  have hne := c.name_ne_nil
  have hhead : ∀ {ch : Char}, ch ∈ (c.name.toList ++ value).head? → ch ∈ c.name.toList := by
    intro ch hch
    rw [List.head?_append_of_ne_nil _ hne] at hch
    exact List.mem_of_mem_head? hch
  refine ⟨?_, ?_, ?_, ?_, ?_⟩
  · exact fun h => hne (List.append_eq_nil_iff.1 h).1
  · refine trim_eq_self_iff.2 ⟨fun ch hch => isBlank_of_isAlphanum (hname ch (hhead hch)), ?_⟩
    intro ch hch
    -- with nothing behind it the name is at the end
    cases value with
    | nil =>
      rw [List.append_nil] at hch
      exact isBlank_of_isAlphanum (hname ch (List.mem_of_mem_getLast? hch))
    | cons d ds =>
      rw [List.getLast?_append_cons] at hch
      exact hlast ch hch
  · rw [List.mem_append, not_or]
    exact ⟨fun h => Capability.ne_of_mem_name rfl h rfl, hline⟩
  · exact fun h => Capability.ne_of_mem_name rfl (hhead h) rfl
  · refine isSealed_append (isSealed_of_forall fun ch hch => ?_) hsealed
    exact ⟨Capability.ne_of_mem_name rfl hch, Capability.ne_of_mem_name rfl hch⟩

/-- What follows a mark ends as it ends itself. -/
theorem isBlank_getLast?_cons {mark : Char} (hmark : isBlank mark = false) {value : List Char}
    (hvalue : trim value = value) : ∀ ch ∈ (mark :: value).getLast?, isBlank ch = false := by
  intro ch hch
  cases value with
  | nil =>
    obtain rfl : mark = ch := Option.some.inj hch
    exact hmark
  | cons d value =>
    rw [List.getLast?_cons_cons] at hch
    exact (trim_eq_self_iff.1 hvalue).2 ch hch

/-- **A statement that can be written is laid out as a field.** -/
theorem Writable.isField {s : Statement} (h : s.Writable) : IsField s.form := by
  cases s with
  | flag c =>
    have hname : IsField (c.name.toList ++ []) := isField_append nofun List.not_mem_nil rfl
    rwa [List.append_nil] at hname
  | number c n =>
    refine isField_append ?_ ?_ ?_
    · exact isBlank_getLast?_cons rfl (trim_of_forall fun _ => isBlank_of_mem_numeral)
    · rw [List.mem_cons, not_or]
      exact ⟨by decide, fun hmem => ne_of_mem_numeral rfl hmem rfl⟩
    · rw [isSealed_cons (by decide) (by decide)]
      exact isSealed_of_forall fun ch hch => ⟨ne_of_mem_numeral rfl hch, ne_of_mem_numeral rfl hch⟩
  | text c t =>
    obtain ⟨-, ht⟩ := h
    refine isField_append ?_ ?_ ?_
    · exact isBlank_getLast?_cons rfl ht.trimmed
    · rw [List.mem_cons, not_or]
      exact ⟨by decide, ht.oneLine⟩
    · rw [isSealed_cons (by decide) (by decide)]
      exact ht.isSealed

/-- **Only a template makes a field end in `@`.** -/
theorem getLast?_form (s : Statement) : (s.form.getLast? == some '@') = s.cancels := by
  have hplain : ∀ {cs : List Char}, (∀ ch ∈ cs, ch ≠ '@') → (cs.getLast? == some '@') = false := by
    intro cs hcs
    rw [beq_eq_false_iff_ne]
    exact fun hlast => hcs '@' (List.mem_of_mem_getLast? hlast) rfl
  cases s with
  | flag c => exact hplain fun ch => Capability.ne_of_mem_name rfl
  | number c n =>
    refine hplain fun ch hch => ?_
    rcases List.mem_append.1 hch with hch | hch
    · exact Capability.ne_of_mem_name rfl hch
    · rcases List.mem_cons.1 hch with rfl | hch
      · decide
      · exact ne_of_mem_numeral rfl hch
  | text c t =>
    show ((c.name.toList ++ '=' :: t.toList).getLast? == some '@') = (t.toList.getLast? == some '@')
    rw [List.getLast?_append_cons]
    cases t.toList with
    | nil => rfl
    | cons d ds => rw [List.getLast?_cons_cons]

/-- **A field is read as the statement it was written from**, unless it looks as if a
capability were taken back. -/
theorem statement?_form {s : Statement} (h : s.Writable) :
    statement? s.form = if s.cancels then none else some s := by
  have hfield := h.isField
  have hmarks : ∀ (c : Capability), ∀ ch ∈ c.name.toList, (ch != '=' && ch != '#') = true := by
    intro c ch hch
    rw [Bool.and_eq_true, bne_iff_ne, bne_iff_ne]
    exact ⟨Capability.ne_of_mem_name rfl hch, Capability.ne_of_mem_name rfl hch⟩
  have hlookup : ∀ {c : Capability} {k : CapabilityKind}, c.kind = k →
      lookup? c.name.toList k = some c := by
    intro c k hc
    rw [lookup?, trim_of_forall fun ch hch => isBlank_of_isAlphanum (c.isAlphanum_of_mem_name _ hch),
      String.ofList_toList]
    exact Capability.ofNameAndKind?_name hc
  have hempty : s.form.isEmpty = false := by
    rw [List.isEmpty_eq_false_iff]
    exact hfield.ne_nil
  -- the name holds no mark, so the first one is the one behind it
  unfold statement?
  simp only [hfield.trimmed, hempty, getLast?_form, Bool.false_or]
  congr 1
  cases s with
  | flag c =>
    have hdrop : (c.name.toList ++ []).dropWhile (fun ch => ch != '=' && ch != '#') = [] :=
      List.dropWhile_append_of_pos (hmarks c)
    rw [List.append_nil] at hdrop
    rw [form, hdrop]
    simp only [hlookup h, Option.map_some]
  | number c n =>
    rw [form, List.dropWhile_append_of_pos (hmarks c), List.takeWhile_append_of_pos (hmarks c)]
    simp [hlookup h.1, number?_numeral h.2.1 h.2.2]
  | text c t =>
    rw [form, List.dropWhile_append_of_pos (hmarks c), List.takeWhile_append_of_pos (hmarks c)]
    simp [hlookup h.1]

/-- What is read from fields is what was written into them, but for what looks as if it
were taken back. -/
theorem filterMap_form {ss : List Statement} (h : ∀ s ∈ ss, s.Writable) :
    (ss.map form).filterMap statement? = ss.filter fun s => !s.cancels := by
  induction ss with
  | nil => rfl
  | cons s ss ih =>
    have hss := ih fun t ht => h t (List.mem_cons_of_mem _ ht)
    rw [List.map_cons, List.filterMap_cons, statement?_form (h s (List.mem_cons_self ..)),
      List.filter_cons, hss]
    cases s.cancels <;> rfl

end Statement

/-! ## Adding up -/

/-- **What a description says.** -/
def Says (d : Description) : Statement → Prop
  | .flag c => d.flag c = true
  | .number c n => d.number c = some n
  | .text c t => d.text c = some t

/-- A description is its names and what it says. -/
theorem ext_of_says {d e : Description} (hnames : d.names = e.names)
    (h : ∀ s, d.Says s ↔ e.Says s) : d = e := by
  ext1
  · exact hnames
  · funext c
    exact Bool.eq_iff_iff.2 (h (.flag c))
  · funext c
    exact Option.ext fun n => h (.number c n)
  · funext c
    exact Option.ext fun t => h (.text c t)

/-- **One more statement** is said besides the others, when a description says all of
them and so none replaces another. -/
theorem says_state {d acc : Description} (hacc : ∀ s, acc.Says s → d.Says s) {r : Statement}
    (hr : d.Says r) (s : Statement) : (state acc r).Says s ↔ acc.Says s ∨ s = r := by
  cases r with
  | flag c =>
    cases s with
    | flag x =>
      show (x == c || acc.flag x) = true ↔ acc.flag x = true ∨ Statement.flag x = .flag c
      rw [Bool.or_eq_true, beq_iff_eq, Statement.flag.injEq, or_comm]
    | number x n => exact (or_iff_left nofun).symm
    | text x t => exact (or_iff_left nofun).symm
  | number c n =>
    cases s with
    | flag x => exact (or_iff_left nofun).symm
    | number x m =>
      show (if x = c then some n else acc.number x) = some m
        ↔ acc.number x = some m ∨ Statement.number x m = .number c n
      rw [Statement.number.injEq]
      by_cases hx : x = c
      · -- what is replaced is the same, since the description says one thing only
        rw [if_pos hx, Option.some.injEq]
        have hsame : acc.number x = some m → m = n := fun hm =>
          Option.some.inj ((hacc (.number x m) hm).symm.trans (hx ▸ hr))
        exact ⟨fun hn => .inr ⟨hx, hn.symm⟩, fun hm => (hm.elim hsame And.right).symm⟩
      · rw [if_neg hx]
        exact (or_iff_left fun hm => hx hm.1).symm
    | text x t => exact (or_iff_left nofun).symm
  | text c t =>
    cases s with
    | flag x => exact (or_iff_left nofun).symm
    | number x n => exact (or_iff_left nofun).symm
    | text x u =>
      show (if x = c then some t else acc.text x) = some u
        ↔ acc.text x = some u ∨ Statement.text x u = .text c t
      rw [Statement.text.injEq]
      by_cases hx : x = c
      · rw [if_pos hx, Option.some.injEq]
        have hsame : acc.text x = some u → u = t := fun hu =>
          Option.some.inj ((hacc (.text x u) hu).symm.trans (hx ▸ hr))
        exact ⟨fun ht => .inr ⟨hx, ht.symm⟩, fun hu => (hu.elim hsame And.right).symm⟩
      · rw [if_neg hx]
        exact (or_iff_left fun hu => hx hu.1).symm

/-- Statements touch no names. -/
theorem names_foldl (ss : List Statement) (acc : Description) :
    (ss.foldl state acc).names = acc.names := by
  induction ss generalizing acc with
  | nil => rfl
  | cons r ss ih =>
    rw [List.foldl_cons, ih]
    cases r <;> rfl

/-- **Statements of a description add up**, in whatever order they come. -/
theorem says_foldl {d : Description} {ss : List Statement} (hss : ∀ s ∈ ss, d.Says s)
    {acc : Description} (hacc : ∀ s, acc.Says s → d.Says s) (s : Statement) :
    (ss.foldl state acc).Says s ↔ acc.Says s ∨ s ∈ ss := by
  induction ss generalizing acc with
  | nil => exact (or_iff_left List.not_mem_nil).symm
  | cons r ss ih =>
    have hr := hss r (List.mem_cons_self ..)
    have hstate : ∀ s, (state acc r).Says s → d.Says s := fun s hs =>
      ((says_state hacc hr s).1 hs).elim (hacc s) fun hs => hs ▸ hr
    rw [List.foldl_cons, ih (fun t ht => hss t (List.mem_cons_of_mem _ ht)) hstate,
      says_state hacc hr, List.mem_cons, or_assoc]

end Description

end Teletype
