import Teletype.Proofs.Stty.Values

/-!
# Attributes printed and read back

The text of attributes has the shape of a settings listing, and the reader of listings gets
the attributes back from it (`attributes_listing`). The reader looks at the text as a whole,
so each thing it looks for has to be told from everything else that may stand there.
`Occurs` says what can: marks, names of flags that are on, names of slots, and values, which
have hardly a letter in them. A flag that is found is therefore on. Nothing in front of a slot's own
setting is taken for it, though names begin with one another, since a longer name does not
go on with an equals sign.

A slot whose character is not legible is misread, but nothing else is, and a blank is read
back from the last slot. This makes the condition exact (`attributes_listing_eq_iff`).
-/

namespace Teletype.Stty

open Text Attributes

/-! ## Pieces of the text -/

/-- The line of a word of flags. -/
def flagLine (a : Attributes) (label : String) (fw : FlagWord) : List Char :=
  label.toList ++ ' ' :: (List.intercalate [' '] ((a.onNames fw).map String.toList) ++ ['\n'])

/-- The setting of a slot. -/
def entry (a : Attributes) (c : ControlChar) : List Char :=
  c.name.toList ++ ' ' :: '=' :: ' ' :: (charText c (a.char c)).toList

/-- The settings of some slots. -/
def entries (a : Attributes) (cs : List ControlChar) : List Char :=
  cs.flatMap fun c => ' ' :: (entry a c ++ [';'])

/-- The lines of flags, each with the word of flags that it shows. -/
def headings : List (String × FlagWord) :=
  [("iflags:", .input), ("oflags:", .output), ("cflags:", .control), ("lflags:", .discipline)]

/-- Lines of flags, and what stands behind them. -/
def flagLines (a : Attributes) (hs : List (String × FlagWord)) (rest : List Char) : List Char :=
  hs.foldr (fun h rest => flagLine a h.1 h.2 ++ rest) rest

/-- **The text of attributes up to some slots.** -/
def shown (a : Attributes) (cs : List ControlChar) : List Char :=
  flagLines a headings ("cchars:".toList ++ entries a cs)

/-- **Words that stand for no setting**: headings, and the spelling of a disabled slot. -/
def marks : List (List Char) :=
  "cchars:".toList :: "<undef>".toList :: headings.map fun h => h.1.toList

/-- **What a word can be** in the text of attributes up to some slots. -/
inductive Occurs (a : Attributes) (cs : List ControlChar) : List Char → Prop
  /-- A mark. -/
  | mark {w : List Char} (h : w ∈ marks) : Occurs a cs w
  /-- The name of a flag that is on. -/
  | flag {f : Flag} (h : a.flag f = true) : Occurs a cs f.name.toList
  /-- The name of a slot. -/
  | slot {c : ControlChar} (h : c ∈ cs) : Occurs a cs c.name.toList
  /-- Part of a value, or nothing, or an equals sign. -/
  | sign {w : List Char} (h : w.countP Char.isLower ≤ 1) : Occurs a cs w

section

variable {a : Attributes} {cs before after : List ControlChar} {c d : ControlChar}
  {f g : Flag} {fw : FlagWord} {label : String} {w rest : List Char}
  {hs : List (String × FlagWord)}

/-! ## The text by its pieces -/

theorem flatMap_eq_intercalate {items : List (List Char)} (h : items ≠ []) :
    items.flatMap (fun item => ' ' :: (item ++ [';']))
      = ' ' :: (List.intercalate [';', ' '] items ++ [';']) := by
  induction items with
  | nil => exact absurd rfl h
  | cons item items ih =>
    rw [List.flatMap_cons]
    by_cases hitems : items = []
    · simp [hitems, List.intercalate_singleton]
    · rw [ih hitems, List.intercalate_cons_of_ne_nil hitems]
      simp

theorem toList_listing (a : Attributes) : a.listing.toList = shown a ControlChar.all := by
  have hentries : entries a ControlChar.all = ' ' :: (List.intercalate [';', ' ']
      (ControlChar.all.map (entry a)) ++ [';']) := by
    have hne : ControlChar.all.map (entry a) ≠ [] := List.cons_ne_nil _ _
    rw [← flatMap_eq_intercalate hne, List.flatMap_map]
    rfl
  have hentry : entry a = String.toList ∘ fun c => c.name ++ " = " ++ charText c (a.char c) := by
    funext c
    simp [entry]
  rw [shown, hentries, hentry]
  simp [listing, flagLines, headings, flagLine, String.toList_intercalate, List.append_assoc]

theorem entries_cons (a : Attributes) (c : ControlChar) (cs : List ControlChar) :
    entries a (c :: cs) = ' ' :: (entry a c ++ ';' :: entries a cs) := by
  simp [entries]

/-- The text by one of its settings. -/
theorem shown_append (a : Attributes) (before : List ControlChar) (c : ControlChar)
    (after : List ControlChar) : shown a (before ++ c :: after)
      = shown a before ++ ' ' :: (entry a c ++ ';' :: entries a after) := by
  have hentries : entries a (before ++ c :: after)
      = entries a before ++ ' ' :: (entry a c ++ ';' :: entries a after) := by
    rw [← entries_cons]
    exact List.flatMap_append
  simp only [shown, flagLines, headings, List.foldr_cons, List.foldr_nil, hentries,
    List.append_assoc]

/-! ## Its words -/

theorem clean_flag (f : Flag) : Clean f.name.toList := by
  have hall : ∀ f ∈ Flag.all, Clean f.name.toList := by decide
  exact hall f f.mem_all

theorem clean_slotNames (c : ControlChar) : ∀ name ∈ slotNames c, Clean name := by
  have hall : ∀ c ∈ ControlChar.all, ∀ name ∈ slotNames c, Clean name := by decide
  exact hall c c.mem_all

theorem slotNames_eq_cons (c : ControlChar) : ∃ names, slotNames c = c.name.toList :: names := by
  cases c <;> exact ⟨_, rfl⟩

theorem clean_slot (c : ControlChar) : Clean c.name.toList := by
  obtain ⟨names, hnames⟩ := slotNames_eq_cons c
  exact clean_slotNames c _ (hnames ▸ List.mem_cons_self)

theorem clean_mark : ∀ mark ∈ marks, Clean mark := by decide

theorem mem_onNames :
    w ∈ (a.onNames fw).map String.toList ↔
      ∃ f ∈ Flag.ofWord fw, a.flag f = true ∧ f.name.toList = w := by
  simp [onNames, and_assoc]

theorem words_onNames :
    words (List.intercalate [' '] ((a.onNames fw).map String.toList))
      = if (a.onNames fw).map String.toList = [] then [[]]
        else (a.onNames fw).map String.toList := by
  refine words_intercalate fun w hw => ?_
  obtain ⟨f, -, -, rfl⟩ := mem_onNames.1 hw
  exact clean_flag f

theorem words_flagLine (h : Clean label.toList) :
    words (flagLine a label fw ++ rest) = label.toList ::
      (words (List.intercalate [' '] ((a.onNames fw).map String.toList)) ++ words rest) := by
  rw [flagLine, List.append_assoc, List.cons_append, words_append rfl, words_of_clean h,
    List.append_assoc, List.singleton_append, List.singleton_append, words_append rfl]

/-- The words around a setting. -/
theorem words_append_entry (w rest : List Char) :
    words (w ++ ' ' :: (entry a c ++ ';' :: rest)) = words w ++
      c.name.toList :: ['='] :: (words (charText c (a.char c)).toList ++ words rest) := by
  have hequals : ∀ value, words ('=' :: ' ' :: value) = ['='] :: words value :=
    fun value => words_append rfl ['='] value
  rw [words_append rfl, entry, List.append_assoc, List.cons_append, words_append rfl,
    words_of_clean (clean_slot c), List.singleton_append, List.cons_append, List.cons_append,
    hequals, words_append rfl]

theorem occurs_of_mem_onNames
    (h : w ∈ words (List.intercalate [' '] ((a.onNames fw).map String.toList))) :
    Occurs a cs w := by
  rw [words_onNames] at h
  split at h
  · exact .sign (by simp [List.mem_singleton.1 h])
  · obtain ⟨f, -, hf, rfl⟩ := mem_onNames.1 h
    exact .flag hf

theorem occurs_of_mem_flagLines (hhs : ∀ h ∈ hs, h.1.toList ∈ marks)
    (hrest : w ∈ words rest → Occurs a cs w) (h : w ∈ words (flagLines a hs rest)) :
    Occurs a cs w := by
  induction hs with
  | nil => exact hrest h
  | cons line hs ih =>
    obtain ⟨hline, hhs⟩ := List.forall_mem_cons.1 hhs
    rw [flagLines, List.foldr_cons, words_flagLine (clean_mark _ hline), List.mem_cons,
      List.mem_append] at h
    rcases h with rfl | h | h
    · exact .mark hline
    · exact occurs_of_mem_onNames h
    · exact ih hhs h

theorem occurs_of_mem_value (h : w ∈ words (charText c (a.char c)).toList) : Occurs a cs w := by
  cases hc : a.char c with
  | none =>
    rw [hc, charText, words_of_clean (by decide), List.mem_singleton] at h
    exact .mark (h ▸ by decide)
  | some b =>
    rw [hc] at h
    exact .sign (Nat.le_trans (sublist_of_mem_words h).countP_le (countP_isLower_charText c b))

/-- The words of settings, behind one word in front. -/
theorem occurs_of_mem_entries {u : List Char} (hclean : Clean u) (hu : Occurs a cs u)
    (hsubset : after ⊆ cs) (h : w ∈ words (u ++ entries a after)) : Occurs a cs w := by
  induction after generalizing u with
  | nil =>
    rw [entries, List.flatMap_nil, List.append_nil, words_of_clean hclean] at h
    exact List.mem_singleton.1 h ▸ hu
  | cons c after ih =>
    -- the rest stands behind the semicolon of this setting, and so behind an empty word
    rw [entries_cons, words_append_entry, words_of_clean hclean, List.singleton_append] at h
    simp only [List.mem_cons, List.mem_append] at h
    obtain ⟨hc, hafter⟩ := List.cons_subset.1 hsubset
    rcases h with rfl | rfl | rfl | h | h
    · exact hu
    · exact .slot hc
    · exact .sign (by decide)
    · exact occurs_of_mem_value h
    · exact ih (List.forall_mem_nil _) (.sign (Nat.zero_le 1)) hafter h

/-- **Every word occurs** as one of a few things. -/
theorem occurs_of_mem_words (h : w ∈ words (shown a cs)) : Occurs a cs w :=
  occurs_of_mem_flagLines (by decide)
    (occurs_of_mem_entries (by decide) (.mark (by decide)) (List.Subset.refl cs)) h

theorem mem_words_flagLines (hhs : ∀ h ∈ hs, h.1.toList ∈ marks) (hline : (label, fw) ∈ hs)
    (hf : f ∈ Flag.ofWord fw) (h : a.flag f = true) :
    f.name.toList ∈ words (flagLines a hs rest) := by
  induction hs with
  | nil => exact absurd hline List.not_mem_nil
  | cons line hs ih =>
    obtain ⟨hlabel, hhs⟩ := List.forall_mem_cons.1 hhs
    rw [flagLines, List.foldr_cons, words_flagLine (clean_mark _ hlabel)]
    refine List.mem_cons_of_mem _ (List.mem_append.2 ?_)
    rcases List.mem_cons.1 hline with rfl | hline
    · have hmem := mem_onNames.2 ⟨f, hf, h, rfl⟩
      rw [words_onNames, if_neg (List.ne_nil_of_mem hmem)]
      exact .inl hmem
    · exact .inr (ih hhs hline)

/-- **A flag that is on** has its name among the words. -/
theorem mem_words_of_flag (h : a.flag f = true) : f.name.toList ∈ words (shown a cs) := by
  have hall : ∀ f ∈ Flag.all, ∃ line ∈ headings, f ∈ Flag.ofWord line.2 := by decide
  obtain ⟨line, hline, hf⟩ := hall f f.mem_all
  exact mem_words_flagLines (by decide) hline hf h

/-! ## Names told apart -/

theorem flag_ofName?_name (f : Flag) : Flag.ofName? f.name = some f := by
  have hall : ∀ f ∈ Flag.all, Flag.ofName? f.name = some f := by decide +kernel
  exact hall f f.mem_all

theorem flag_ofName?_slot (c : ControlChar) : Flag.ofName? c.name = none := by
  have hall : ∀ c ∈ ControlChar.all, Flag.ofName? c.name = none := by decide +kernel
  exact hall c c.mem_all

theorem two_letters_flag (f : Flag) : 2 ≤ f.name.toList.countP Char.isLower := by
  have hall : ∀ f ∈ Flag.all, 2 ≤ f.name.toList.countP Char.isLower := by decide
  exact hall f f.mem_all

/-- **A flag whose name occurs is on.** -/
theorem Occurs.flag_on (h : Occurs a cs f.name.toList) : a.flag f = true := by
  generalize hw : f.name.toList = w at h
  cases h with
  | mark h =>
    have hall : ∀ f ∈ Flag.all, f.name.toList ∉ marks := by decide +kernel
    exact absurd (hw ▸ h) (hall f f.mem_all)
  | @flag g h =>
    have hname := String.toList_injective hw ▸ flag_ofName?_name f
    rw [flag_ofName?_name, Option.some_inj] at hname
    exact hname ▸ h
  | @slot c h =>
    have hname := String.toList_injective hw ▸ flag_ofName?_name f
    exact absurd ((flag_ofName?_slot c).symm.trans hname) nofun
  | sign h => exact absurd (Nat.le_trans (two_letters_flag f) (hw ▸ h)) (by decide)

/-- No flag occurs as one that is off. -/
theorem not_occurs_off : ¬ Occurs a cs ('-' :: f.name.toList) := by
  intro h
  generalize hw : '-' :: f.name.toList = w at h
  have hmem : '-' ∈ w := hw ▸ List.mem_cons_self
  cases h with
  | mark h =>
    have hall : ∀ mark ∈ marks, '-' ∉ mark := by decide
    exact hall w h hmem
  | @flag g =>
    have hall : ∀ g ∈ Flag.all, '-' ∉ g.name.toList := by decide
    exact hall g g.mem_all hmem
  | @slot c =>
    have hall : ∀ c ∈ ControlChar.all, '-' ∉ c.name.toList := by decide
    exact hall c c.mem_all hmem
  | sign h =>
    rw [← hw, List.countP_cons] at h
    have htwo := two_letters_flag f
    omega

/-- **Nothing in front of a slot is taken for its setting.** -/
theorem Occurs.skips (h : Occurs a cs w) (hc : c ∉ cs) : Skips (slotNames c) w := by
  cases h with
  | mark h =>
    have hall : ∀ c ∈ ControlChar.all, ∀ mark ∈ marks, Skips (slotNames c) mark := by
      decide +kernel
    exact hall c c.mem_all w h
  | @flag f =>
    have hall : ∀ c ∈ ControlChar.all, ∀ f ∈ Flag.all, Skips (slotNames c) f.name.toList := by
      decide +kernel
    exact hall c c.mem_all f f.mem_all
  | @slot d h =>
    have hall : ∀ c ∈ ControlChar.all, ∀ d ∈ ControlChar.all, d ≠ c →
        Skips (slotNames c) d.name.toList := by decide +kernel
    exact hall c c.mem_all d d.mem_all fun heq => hc (heq ▸ h)
  | sign h =>
    -- a name has too many letters to begin a sign
    intro name hname rest hrest
    have hall : ∀ c ∈ ControlChar.all, ∀ name ∈ slotNames c, 2 ≤ name.countP Char.isLower := by
      decide
    rw [Option.mem_def, List.isPrefixOf?_eq_some_iff_append_eq] at hrest
    rw [← hrest, List.countP_append] at h
    have htwo := hall c c.mem_all name hname
    omega

/-! ## Flags -/

/-- **Flags are read back.** -/
theorem mem_flagsOn_listing : f ∈ flagsOn a.listing.toList ↔ a.flag f = true := by
  rw [toList_listing, flagsOn, List.mem_filter, beq_iff_eq,
    mention?_eq_some_true_iff fun h => not_occurs_off (occurs_of_mem_words h)]
  exact ⟨fun h => (occurs_of_mem_words h.2).flag_on, fun h => ⟨f.mem_all, mem_words_of_flag h⟩⟩

/-! ## Slots -/

/-- The slots before and after one of them; only the last has none after it. -/
theorem all_eq_append (c : ControlChar) : ∃ before after,
    ControlChar.all = before ++ c :: after ∧ c ∉ before ∧ (after = [] ↔ c = .status) := by
  have hall : ∀ c ∈ ControlChar.all,
      ControlChar.all = ControlChar.all.takeWhile (· != c) ++
        c :: (ControlChar.all.dropWhile (· != c)).tail ∧
      c ∉ ControlChar.all.takeWhile (· != c) ∧
      ((ControlChar.all.dropWhile (· != c)).tail = [] ↔ c = .status) := by decide
  exact ⟨_, _, hall c c.mem_all⟩

/-- **A slot is read from its own setting**, if there is a value in it. -/
theorem slotValue?_listing (a : Attributes) (c : ControlChar) :
    ∃ after, (after = [] ↔ c = .status) ∧ ∀ v,
      valueAfterBlanks?
          (' ' :: ((charText c (a.char c)).toList ++ ';' :: entries a after)) = some v →
        slotValue? a.listing.toList c = charValue? v := by
  obtain ⟨before, after, hall, hc, hafter⟩ := all_eq_append c
  obtain ⟨names, hnames⟩ := slotNames_eq_cons c
  have hskips : ∀ w ∈ words (shown a before), Skips (slotNames c) w :=
    fun w hw => (occurs_of_mem_words hw).skips hc
  refine ⟨after, hafter, fun v hv => ?_⟩
  rw [slotValue?, toList_listing, hall, shown_append,
    setting?_append (clean_slotNames c) rfl rfl hskips, hnames, entry]
  simp only [List.append_assoc, List.cons_append]
  rw [setting?_entry rfl hv, Option.bind_some]

/-- **A slot is read back** if and only if its value is readable. -/
theorem slotValue?_listing_eq_iff :
    (slotValue? a.listing.toList c).bind id = a.char c ↔ Readable c (a.char c) := by
  obtain ⟨after, hafter, hread⟩ := slotValue?_listing a c
  have hrest : (entries a after = [] ∧ c = .status) ∨
      ∃ more, entries a after = ' ' :: more ∧ c ≠ .status := by
    cases after with
    | nil => exact .inl ⟨rfl, hafter.1 rfl⟩
    | cons d after =>
      exact .inr ⟨_, entries_cons a d after, fun hc => List.cons_ne_nil d after (hafter.2 hc)⟩
  obtain ⟨v, hv, hiff⟩ := charText_read_iff hrest
  rw [hread v hv, hiff]

theorem lookup_filterMap_of_none {g : ControlChar → Option UInt8} (h : g c = none) :
    (cs.filterMap fun d => (g d).map fun b => (d, b)).lookup c = none := by
  rw [List.lookup_eq_none_iff]
  rintro ⟨d, b⟩ hd
  obtain ⟨e, -, he⟩ := List.mem_filterMap.1 hd
  obtain ⟨b', hb', heq⟩ := Option.map_eq_some_iff.1 he
  cases heq
  rw [bne_iff_ne]
  rintro rfl
  exact absurd (h.symm.trans hb') nofun

/-- A table of the slots that have a value gives each slot what it has. -/
theorem lookup_filterMap {g : ControlChar → Option UInt8} (h : c ∈ cs) :
    (cs.filterMap fun d => (g d).map fun b => (d, b)).lookup c = g c := by
  cases hg : g c with
  | none => exact lookup_filterMap_of_none hg
  | some b =>
    induction cs with
    | nil => exact absurd h List.not_mem_nil
    | cons d cs ih =>
      by_cases hd : c = d
      · simp [← hd, hg]
      · have hrest := ih ((List.mem_cons.1 h).resolve_left hd)
        cases hgd : g d with
        | none => simp [hgd, hrest]
        | some b' => simp [hgd, hrest, List.lookup_cons, beq_eq_false_iff_ne.2 hd]

/-! ## The whole text -/

/-- **Attributes are read back** if and only if all their slots are readable. -/
theorem attributes_listing_eq_iff :
    Stty.attributes a.listing = a ↔ ∀ c, Readable c (a.char c) := by
  have hflag : ∀ f, decide (f ∈ flagsOn a.listing.toList) = a.flag f := fun f =>
    Bool.eq_iff_iff.2 (decide_eq_true_iff.trans mem_flagsOn_listing)
  simp only [Attributes.ext_iff, Stty.attributes, hflag, funext_iff,
    lookup_filterMap (ControlChar.mem_all _), slotValue?_listing_eq_iff, true_and]

/-- **What was printed is read**: all flags, and all slots, if their characters are legible. -/
theorem attributes_listing (a : Attributes)
    (h : ∀ c, c.isCount = false → ∀ b, a.char c = some b → Legible b) :
    Stty.attributes a.listing = a :=
  attributes_listing_eq_iff.2 fun c hcount b hb => Or.inl (h c hcount b hb)

/-- Slots with the signs of listings themselves, and counts that no character could have. -/
theorem attributes_listing_signs :
    let a := ((((Attributes.usual.setChar .eol (some 0x3b)).setChar .kill (some 0x3d)).setChar
      .quit (some 0x2d)).setChar .min (some 0x20)).setChar .time (some 0x35)
    (∀ c, c.isCount = false → ∀ b, a.char c = some b → Legible b) ∧
      Stty.attributes a.listing = a := by
  intro a
  have hlegible : ∀ c, c.isCount = false → ∀ b, a.char c = some b → Legible b := by
    have hall : ∀ c ∈ ControlChar.all, c.isCount = false →
        (a.char c).all (fun b => decide (Legible b)) = true := by decide
    intro c hcount b hb
    have hc := hall c c.mem_all hcount
    rwa [hb, Option.all_some, decide_eq_true_iff] at hc
  exact ⟨hlegible, attributes_listing a hlegible⟩

end

end Teletype.Stty
