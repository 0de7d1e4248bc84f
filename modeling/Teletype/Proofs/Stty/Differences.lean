import Mathlib.Data.List.Nodup
import Teletype.Proofs.Stty.ReadBack
import Teletype.Stty.Request

/-!
# A difference asked for

The arguments that turn one set of attributes into another form one flat list of words. Read
from the left, a word is a flag to switch, or it names a slot and the word behind it is the
value (`Change.read?`). So the list falls apart into changes, each of one field, and the
changes can be made one after another (`Attributes.change`).

`requested` says what is asked for, field by field. Its words are the arguments
(`changes_eq`), and they are read back as what was asked for (`read?_changes`): no flag has
the name of a slot, and no two bytes have the same spelling. Each field is named once at most,
so that every change still holds in the end (`Change.holds_foldl`), and where nothing was
asked for nothing has changed. This makes the difference both right and as small as can be
(`changes_exact`).
-/

namespace Teletype

namespace Attributes

/-- **A field of attributes.** -/
inductive Field where
  /-- A flag. -/
  | flag (f : Flag)
  /-- A slot. -/
  | slot (c : ControlChar)

/-- **All fields**, in the order in which requests name them. -/
def Field.all : List Field := Flag.all.map flag ++ ControlChar.all.map slot

theorem Field.mem_all (x : Field) : x ∈ Field.all := by
  cases x with
  | flag f => exact List.mem_append_left _ (List.mem_map_of_mem f.mem_all)
  | slot c => exact List.mem_append_right _ (List.mem_map_of_mem c.mem_all)

theorem Field.nodup_all : Field.all.Nodup := by
  have hflags : Flag.all.Nodup := by decide
  have hslots : ControlChar.all.Nodup := by decide
  refine List.Nodup.append (hflags.map fun f g h => Field.flag.inj h)
    (hslots.map fun c d h => Field.slot.inj h) fun x hflag hslot => ?_
  obtain ⟨f, -, rfl⟩ := List.mem_map.1 hflag
  obtain ⟨c, -, hc⟩ := List.mem_map.1 hslot
  cases hc

/-- Whether two sets of attributes differ in a field. -/
def Differ (a b : Attributes) : Field → Prop
  | .flag f => a.flag f ≠ b.flag f
  | .slot c => a.char c ≠ b.char c

end Attributes

namespace Stty

open Text Attributes

/-- **A change of one field.** -/
inductive Change where
  /-- A flag switched. -/
  | flag (f : Flag) (on : Bool)
  /-- A slot given a value, or disabled. -/
  | slot (c : ControlChar) (value : Option UInt8)

namespace Change

/-- The field that is changed. -/
def field : Change → Field
  | flag f _ => .flag f
  | slot c _ => .slot c

/-- Whether attributes are as a change makes them. -/
def Holds (a : Attributes) : Change → Prop
  | flag f on => a.flag f = on
  | slot c value => a.char c = value

/-! ## Words read as changes -/

/-- The flag that a word switches, if it does: on by its name, and off behind a minus sign. -/
def switch? (word : String) : Option Change :=
  match word.toList with
  | '-' :: name => (Flag.ofName? (String.ofList name)).map (.flag · false)
  | _ => (Flag.ofName? word).map (.flag · true)

/-- All bytes. -/
def bytes : List UInt8 := (List.range 256).map UInt8.ofNat

/-- **The value that a word gives to a slot**: a slot for a character is disabled by `undef`, and
otherwise it is the byte that is spelled so. -/
def value? (c : ControlChar) (word : String) : Option (Option UInt8) :=
  if c.isCount = false ∧ word = "undef" then some none
  else (bytes.find? fun b => charText c (some b) = word).map some

/-- **The changes that some words ask for**, read from the left. -/
def read? : List String → Option (List Change)
  | [] => some []
  | word :: rest =>
    match switch? word with
    | some change => (read? rest).map (change :: ·)
    | none =>
      match rest with
      | [] => none
      | value :: rest =>
        match ControlChar.ofName? word with
        | none => none
        | some c =>
          match value? c value with
          | none => none
          | some v => (read? rest).map (.slot c v :: ·)

end Change

end Stty

/-- **The attributes after a change.** -/
def Attributes.change (a : Attributes) : Stty.Change → Attributes
  | .flag f on => a.setFlag f on
  | .slot c value => a.setChar c value

namespace Stty

open Text Attributes

/-! ## What is asked for -/

/-- A slot's value as far as it matters: a zero byte disables a slot for a character. -/
def effective (value : Option UInt8) : Option UInt8 := value.filter (· != 0)

/-- **Whether a field can be asked for**: it is not known to software only, and it is no count
to be disabled. -/
def Expressible (target : Attributes) : Field → Prop
  | .flag f => f ≠ .inormeol
  | .slot c => c.isCount = true → target.char c ≠ none

/-- **Attributes that are as they were asked for**, as far as that could be asked for. -/
structure Meets (target a : Attributes) : Prop where
  /-- Every flag is, but for the one that is known to software only. -/
  flag : ∀ f, f ≠ .inormeol → a.flag f = target.flag f
  /-- Every slot for a character is, up to how it is disabled. -/
  char : ∀ c, c.isCount = false → effective (a.char c) = effective (target.char c)
  /-- Every count is, unless it was to be disabled. -/
  count : ∀ c, c.isCount = true → target.char c ≠ none → a.char c = target.char c

/-- **The change that is asked for of a field**, if one is. -/
def request? (target current : Attributes) : Field → Option Change
  | .flag f =>
    if isSoftwareOnly f || target.flag f == current.flag f then none
    else some (.flag f (target.flag f))
  | .slot c =>
    if target.char c == current.char c then none
    else if c.isCount then (target.char c).map fun n => .slot c (some n)
    else some (.slot c (effective (target.char c)))

/-- **The changes that are asked for.** -/
def requested (target current : Attributes) : List Change :=
  Field.all.filterMap (request? target current)

/-- The word for the value of a slot. -/
def valueArgument (c : ControlChar) (value : Option UInt8) : String :=
  (value.map fun b => charText c (some b)).getD "undef"

/-- The words that ask for a change. -/
def Change.words : Change → List String
  | flag f on => [flagArgument f on]
  | slot c value => [c.name, valueArgument c value]

/-- **A change that words can ask for**: a count is not disabled. -/
def Change.Askable : Change → Prop
  | flag _ _ => True
  | slot c value => c.isCount = true → value ≠ none

section

variable {target current a : Attributes} {c : ControlChar} {b : UInt8} {x : Field}
  {change other : Change} {cs : List Change}

/-- **The change that is asked for of a field** changes that field, and words can ask for it. -/
theorem field_and_askable_of_mem_request? (h : change ∈ request? target current x) :
    change.field = x ∧ change.Askable := by
  cases x with
  | flag f =>
    simp only [request?, Option.mem_def, Option.ite_none_left_eq_some] at h
    cases h.2
    exact ⟨rfl, trivial⟩
  | slot c =>
    simp only [request?, Option.mem_def, Option.ite_none_left_eq_some] at h
    obtain ⟨-, h⟩ := h
    split at h
    · obtain ⟨n, -, rfl⟩ := Option.map_eq_some_iff.1 h
      exact ⟨rfl, fun _ => Option.some_ne_none n⟩
    · next hcount =>
      cases h
      exact ⟨rfl, fun h => absurd h hcount⟩

/-- **A field is asked for** exactly when it can be and differs. -/
theorem isSome_request?_iff :
    (request? target current x).isSome = true ↔ Expressible target x ∧ Differ target current x := by
  cases x with
  | flag f => simp [request?, Expressible, Differ, isSoftwareOnly]
  | slot c =>
    cases hcount : c.isCount <;> by_cases hdiffer : target.char c = current.char c <;>
      simp [request?, Expressible, Differ, hcount, hdiffer, Option.isSome_iff_ne_none]

/-- The fields that are asked for, in order. -/
theorem map_field_requested (target current : Attributes) :
    (requested target current).map Change.field
      = Field.all.filter fun x => (request? target current x).isSome := by
  rw [requested, List.map_filterMap, ← List.filterMap_eq_filter]
  refine List.filterMap_congr fun x _ => ?_
  cases h : request? target current x with
  | none => simp [h, Option.guard]
  | some change => simp [h, Option.guard, (field_and_askable_of_mem_request? h).1]

theorem mem_fields_requested :
    x ∈ (requested target current).map Change.field
      ↔ Expressible target x ∧ Differ target current x := by
  rw [map_field_requested, List.mem_filter, isSome_request?_iff, and_iff_right x.mem_all]

theorem nodup_fields_requested (target current : Attributes) :
    ((requested target current).map Change.field).Nodup := by
  rw [map_field_requested]
  exact Field.nodup_all.filter _

/-! ## Changes made -/

theorem Change.holds_change (a : Attributes) (change : Change) :
    change.Holds (a.change change) := by
  cases change with
  | flag f on => exact if_pos rfl
  | slot c value => exact if_pos rfl

/-- A change touches no other field. -/
theorem Change.holds_change_of_ne (h : change.field ≠ other.field) :
    change.Holds (a.change other) ↔ change.Holds a := by
  cases change <;> cases other <;> simp_all [Change.field, Change.Holds, Attributes.change]

/-- **What no change is about stays.** -/
theorem Change.holds_foldl_of_notMem (h : change.field ∉ cs.map Change.field) :
    change.Holds (cs.foldl Attributes.change a) ↔ change.Holds a := by
  induction cs generalizing a with
  | nil => rfl
  | cons other cs ih =>
    rw [List.map_cons, List.mem_cons, not_or] at h
    rw [List.foldl_cons, ih h.2, holds_change_of_ne h.1]

/-- **Every change holds in the end** when no two of them are about the same field. -/
theorem Change.holds_foldl (hnodup : (cs.map Change.field).Nodup) (h : change ∈ cs) :
    change.Holds (cs.foldl Attributes.change a) := by
  induction cs generalizing a with
  | nil => cases h
  | cons other cs ih =>
    rw [List.map_cons, List.nodup_cons] at hnodup
    rcases List.mem_cons.1 h with rfl | h
    · exact (holds_foldl_of_notMem hnodup.1).2 (holds_change a change)
    · exact ih hnodup.2 h

/-- What is asked for holds in the end, -/
theorem holds_of_request? (h : request? target current x = some change) :
    change.Holds ((requested target current).foldl Attributes.change current) :=
  Change.holds_foldl (nodup_fields_requested target current)
    (List.mem_filterMap.2 ⟨x, x.mem_all, h⟩)

/-- and where nothing is asked for all stays as it is. -/
theorem holds_of_not_request? (change : Change)
    (h : request? target current change.field = none) :
    change.Holds ((requested target current).foldl Attributes.change current)
      ↔ change.Holds current := by
  refine Change.holds_foldl_of_notMem fun hmem => ?_
  rw [map_field_requested, List.mem_filter, h] at hmem
  exact absurd hmem.2 Bool.false_ne_true

/-- **What is asked for makes the attributes what they should be.** -/
theorem meets_requested (target current : Attributes) :
    Meets target ((requested target current).foldl Attributes.change current) where
  flag f hf := by
    by_cases hsame : target.flag f = current.flag f
    · refine (holds_of_not_request? (.flag f (target.flag f)) ?_).2 hsame.symm
      simp [request?, Change.field, hsame]
    · have hasked : request? target current (.flag f) = some (.flag f (target.flag f)) := by
        simp [request?, isSoftwareOnly, hf, hsame]
      exact holds_of_request? hasked
  char c hcount := by
    by_cases hsame : target.char c = current.char c
    · refine congrArg effective ((holds_of_not_request? (.slot c (target.char c)) ?_).2 hsame.symm)
      simp [request?, Change.field, hsame]
    · have hasked : request? target current (.slot c)
          = some (.slot c (effective (target.char c))) := by simp [request?, hcount, hsame]
      refine (congrArg effective (holds_of_request? hasked)).trans ?_
      simp only [effective, Option.filter_filter, Bool.and_self]
  count c hcount hset := by
    obtain ⟨n, hn⟩ := Option.ne_none_iff_exists'.1 hset
    rw [hn]
    by_cases hsame : target.char c = current.char c
    · refine (holds_of_not_request? (.slot c (some n)) ?_).2 (hsame.symm.trans hn)
      simp [request?, Change.field, hsame]
    · have hasked : request? target current (.slot c) = some (.slot c (some n)) := by
        simp [request?, hcount, hn, hn ▸ hsame]
      exact holds_of_request? hasked

/-! ## Words -/

theorem charArgument_eq (h : ¬ c.isCount = true) (value : Option UInt8) :
    charArgument value = valueArgument c (effective value) := by
  cases value with
  | none => rfl
  | some b =>
    by_cases hb : b = 0 <;>
      simp [charArgument, valueArgument, effective, Option.filter_some, charText, h, hb]

/-- **The words are those of the changes** that are asked for. -/
theorem changes_eq (target current : Attributes) :
    changes target current = (requested target current).flatMap Change.words := by
  have hfilterMap : ∀ xs : List Field,
      (xs.filterMap (request? target current)).flatMap Change.words
        = xs.flatMap fun x => (request? target current x).elim [] Change.words := by
    intro xs
    induction xs with
    | nil => rfl
    | cons x xs ih => cases h : request? target current x <;> simp [h, ih]
  rw [requested, hfilterMap, Field.all, List.flatMap_append, List.flatMap_map, List.flatMap_map,
    changes]
  congr 2
  · funext f
    simp only [flagChange, request?]
    split <;> rfl
  · funext c
    simp only [charChange, request?]
    split
    · rfl
    · split
      · next hcount =>
        cases target.char c with
        | none => rfl
        | some n => simp [Change.words, valueArgument, charText, hcount]
      · next hcount => simp [Change.words, charArgument_eq hcount]

/-- The byte that a caret spelling stands for. -/
def ofCaret : List Char → UInt8
  | ['M', '-', '^', c] => (UInt8.ofNat c.toNat ^^^ 0x40) + 128
  | ['M', '-', c] => UInt8.ofNat c.toNat + 128
  | ['^', c] => UInt8.ofNat c.toNat ^^^ 0x40
  | [c] => UInt8.ofNat c.toNat
  | _ => 0

/-- **No two bytes have the same spelling** in a slot. -/
theorem charText_injective (c : ControlChar) :
    Function.Injective fun b => charText c (some b) := by
  intro b d h
  have htext : (charText c (some b)).toList = (charText c (some d)).toList :=
    congrArg String.toList h
  rw [toList_charText_some, toList_charText_some] at htext
  cases hcount : c.isCount with
  | true =>
    rw [hcount, if_pos rfl, if_pos rfl] at htext
    have hread := (decimal_reads b).2
    rw [htext, (decimal_reads d).2] at hread
    exact (Option.some.inj (Option.some.inj hread)).symm
  | false =>
    rw [hcount, if_neg Bool.false_ne_true, if_neg Bool.false_ne_true] at htext
    have hread : ∀ b, ofCaret (caret b) = b := forall_byte (by decide +kernel)
    rw [← hread b, htext, hread]

/-- A byte is read back from its spelling in a slot. -/
theorem Change.value?_charText (c : ControlChar) (b : UInt8) :
    value? c (charText c (some b)) = some (some b) := by
  have hundef : charText c (some b) ≠ "undef" := by
    intro h
    have hlower := countP_isLower_charText c b
    rw [h] at hlower
    exact absurd hlower (by decide)
  rw [value?, if_neg fun h => hundef h.2]
  have hmem : b ∈ bytes := by
    rw [← UInt8.ofNat_toNat (x := b)]
    exact List.mem_map_of_mem (List.mem_range.2 b.toNat_lt)
  cases hfound : bytes.find? fun d => charText c (some d) = charText c (some b) with
  | none => exact absurd (decide_eq_true rfl) (List.find?_eq_none.1 hfound b hmem)
  | some d =>
    have hd : charText c (some d) = charText c (some b) := by simpa using List.find?_some hfound
    rw [charText_injective c hd]
    rfl

/-! ## Reading the words back -/

theorem not_minus_of_mem_name {w : String} (h : w ∈ Flag.all.map Flag.name ++
    ControlChar.all.map ControlChar.name) (rest : List Char) : w.toList ≠ '-' :: rest := by
  have hall : ∀ w ∈ Flag.all.map Flag.name ++ ControlChar.all.map ControlChar.name,
      w.toList.head? ≠ some '-' := by decide
  intro heq
  exact hall w h (heq ▸ rfl)

/-- Words that do not start with a minus sign. -/
theorem Change.switch?_of_mem_name {w : String} (h : w ∈ Flag.all.map Flag.name ++
    ControlChar.all.map ControlChar.name) :
    switch? w = (Flag.ofName? w).map (Change.flag · true) := by
  unfold switch?
  split
  · next rest hw => exact absurd hw (not_minus_of_mem_name h rest)
  · rfl

theorem Change.switch?_flagArgument (f : Flag) (on : Bool) :
    switch? (flagArgument f on) = some (.flag f on) := by
  cases on with
  | true =>
    show switch? f.name = _
    rw [switch?_of_mem_name (List.mem_append_left _ (List.mem_map_of_mem f.mem_all)),
      flag_ofName?_name, Option.map_some]
  | false =>
    have hword : (flagArgument f false).toList = '-' :: f.name.toList := by simp [flagArgument]
    simp only [switch?, hword, String.ofList_toList, flag_ofName?_name, Option.map_some]

theorem Change.switch?_name (c : ControlChar) : switch? c.name = none := by
  rw [switch?_of_mem_name (List.mem_append_right _ (List.mem_map_of_mem c.mem_all)),
    flag_ofName?_slot, Option.map_none]

theorem slot_ofName?_name (c : ControlChar) : ControlChar.ofName? c.name = some c := by
  have hall : ∀ c ∈ ControlChar.all, ControlChar.ofName? c.name = some c := by decide
  exact hall c c.mem_all

theorem Change.value?_valueArgument {value : Option UInt8} (h : (Change.slot c value).Askable) :
    value? c (valueArgument c value) = some value := by
  cases value with
  | some b => exact value?_charText c b
  | none =>
    have hcount : c.isCount = false := Bool.eq_false_iff.2 fun hcount => h hcount rfl
    exact if_pos ⟨hcount, rfl⟩

/-- **A change is read back from its words**, and what follows is read on its own. -/
theorem Change.read?_words_append (h : change.Askable) (rest : List String) :
    read? (change.words ++ rest) = (read? rest).map (change :: ·) := by
  cases change with
  | flag f on =>
    rw [words, List.singleton_append, read?.eq_def]
    simp only [switch?_flagArgument]
  | slot c value =>
    simp only [words, List.cons_append, List.nil_append, read?, switch?_name, slot_ofName?_name,
      value?_valueArgument h]

/-- **The words are read back** as what was asked for. -/
theorem read?_changes (target current : Attributes) :
    Change.read? (changes target current) = some (requested target current) := by
  have hall : ∀ change ∈ requested target current, change.Askable := by
    intro change hchange
    obtain ⟨x, -, hx⟩ := List.mem_filterMap.1 hchange
    exact (field_and_askable_of_mem_request? hx).2
  rw [changes_eq]
  generalize requested target current = cs at hall
  induction cs with
  | nil => rfl
  | cons change cs ih =>
    obtain ⟨hchange, hcs⟩ := List.forall_mem_cons.1 hall
    rw [List.flatMap_cons, Change.read?_words_append hchange, ih hcs, Option.map_some]

/-- **A difference is asked for exactly.** The words that turn `current` into `target` are read,
from the left, as changes that make of `current` what `target` is: every flag but the one
known to software only, every slot for a character up to how it is disabled, and every count
that is not to be disabled. They are changes of just those of these fields in which the two
differ, one of each, and each change has one word for a flag or two for a slot. -/
theorem changes_exact (target current : Attributes) :
    ∃ cs, Change.read? (changes target current) = some cs
      ∧ changes target current = cs.flatMap Change.words
      ∧ Meets target (cs.foldl Attributes.change current)
      ∧ (cs.map Change.field).Nodup
      ∧ ∀ x, x ∈ cs.map Change.field ↔ Expressible target x ∧ Differ target current x :=
  ⟨requested target current, read?_changes target current, changes_eq target current,
    meets_requested target current, nodup_fields_requested target current,
    fun _ => mem_fields_requested⟩

end

end Stty

end Teletype
