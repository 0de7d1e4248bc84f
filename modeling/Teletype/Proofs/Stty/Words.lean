import Mathlib.Data.List.Basic
import Teletype.Stty.Listing

/-!
# Words of a settings listing

A reader of listings looks at words, which are what stands between separators. Words of a
text behind a separator do not depend on what stands in front of it (`words_append`), so a
listing that is put together from pieces has the words of the pieces.

Flags are words. A slot is found by a word, too, but its name need not be the whole of it, and
the search goes on inside values. Still it cannot stop anywhere but at the start of a word
that begins with the name and goes on with an equals sign, if at all. **A text none of whose
words could be a setting is passed over** (`setting?_append`), and a setting that is reached
is found (`setting?_entry`).
-/

namespace Teletype.Stty

open Text

/-- **A text without separators.** -/
def Clean (w : List Char) : Prop := ∀ c ∈ w, isSeparator c = false

instance : DecidablePred Clean := List.decidableBAll fun c => isSeparator c = false

section

variable {w v name rest : List Char} {ws names : List (List Char)} {s s' : Char}

/-! ## Words -/

theorem words_eq_splitOnP (cs : List Char) : words cs = cs.splitOnP isSeparator := by
  induction cs with
  | nil => rw [words, List.splitOnP_nil]
  | cons c cs ih =>
    rw [List.splitOnP_cons_eq_if_modifyHead, words, ih]
    split
    · rfl
    · cases hwords : cs.splitOnP isSeparator with
      | nil => exact absurd hwords (List.splitOnP_ne_nil _ _)
      | cons w ws => rfl

/-- **Words behind a separator** do not depend on what stands in front of it. -/
theorem words_append (hs : isSeparator s = true) (xs ys : List Char) :
    words (xs ++ s :: ys) = words xs ++ words ys := by
  simp only [words_eq_splitOnP, List.splitOnP_append_cons xs ys hs]

theorem words_of_clean (h : Clean w) : words w = [w] := by
  rw [words_eq_splitOnP, List.splitOnP_eq_singleton h]

/-- A word is part of its text. -/
theorem sublist_of_mem_words {cs : List Char} (h : w ∈ words cs) : w.Sublist cs := by
  induction cs generalizing w with
  | nil => exact List.mem_singleton.1 h ▸ List.nil_sublist _
  | cons c cs ih =>
    rw [words_eq_splitOnP, List.splitOnP_cons_eq_if_modifyHead, ← words_eq_splitOnP] at h
    split at h
    · rcases List.mem_cons.1 h with rfl | h
      · exact List.nil_sublist _
      · exact (ih h).cons c
    · cases hwords : words cs with
      | nil =>
        rw [hwords] at h
        exact absurd h List.not_mem_nil
      | cons u us =>
        rw [hwords, List.modifyHead_cons] at h
        rcases List.mem_cons.1 h with rfl | h
        · exact (ih (hwords ▸ List.mem_cons_self)).cons_cons c
        · exact (ih (hwords ▸ List.mem_cons_of_mem u h)).cons c

/-- **The words of words** with blanks between them; without any there is an empty one. -/
theorem words_intercalate (h : ∀ w ∈ ws, Clean w) :
    words (List.intercalate [' '] ws) = if ws = [] then [[]] else ws := by
  induction ws with
  | nil => rfl
  | cons w ws ih =>
    have hw := words_of_clean (h w List.mem_cons_self)
    have hrest := ih fun v hv => h v (List.mem_cons_of_mem w hv)
    rw [if_neg (List.cons_ne_nil w ws)]
    by_cases hws : ws = []
    · rw [hws, List.intercalate_singleton, hw]
    · rw [List.intercalate_cons_of_ne_nil hws, List.append_assoc, List.singleton_append,
        words_append rfl, hw, hrest, if_neg hws, List.singleton_append]

/-! ## Flags -/

/-- **A flag that is never switched off** is on when it is mentioned at all. -/
theorem mention?_eq_some_true_iff (h : '-' :: name ∉ ws) :
    mention? ws name = some true ↔ name ∈ ws := by
  induction ws with
  | nil => exact ⟨nofun, nofun⟩
  | cons w ws ih =>
    rw [List.mem_cons, not_or] at h
    rw [mention?, List.findSome?_cons, ← mention?]
    by_cases hw : w = name
    · simp [hw]
    · rw [if_neg hw, if_neg (Ne.symm h.1), ih h.2, List.mem_cons]
      exact (or_iff_right (Ne.symm hw)).symm

/-! ## Settings -/

/-- **A word that is no setting of some names**: where one of them begins it, it goes on with
something that is no equals sign. -/
def Skips (names : List (List Char)) (w : List Char) : Prop :=
  ∀ name ∈ names, ∀ rest ∈ name.isPrefixOf? w, rest ≠ [] ∧ rest.head? ≠ some '='

instance (names : List (List Char)) : DecidablePred (Skips names) := fun _ =>
  inferInstanceAs (Decidable (∀ name ∈ names, ∀ rest ∈ _, _ ∧ _))

theorem not_isBlank_of_clean {c : Char} (h : isSeparator c = false) : isBlank c = false :=
  (Bool.or_eq_false_iff.1 h).1

theorem assigned?_of_not_isBlank {c : Char} (hc : isBlank c = false) (hne : c ≠ '=') :
    assigned? (c :: rest) = none := by
  rw [assigned?, List.dropWhile_cons, hc, if_neg Bool.false_ne_true]
  split
  · next hcons => exact absurd (List.cons.inj hcons).1 hne
  · rfl

/-- Nothing is set where a word begins that is no setting. -/
theorem settingHere?_eq_none (hnames : ∀ name ∈ names, Clean name) (hw : Clean w)
    (hs : isSeparator s = true) (hskips : Skips names w) :
    settingHere? names (w ++ s :: rest) = none := by
  rw [settingHere?, List.findSome?_eq_none_iff]
  intro name hname
  cases hprefix : name.isPrefixOf? (w ++ s :: rest) with
  | none => rfl
  | some after =>
    rw [Option.bind_some]
    rw [List.isPrefixOf?_eq_some_iff_append_eq] at hprefix
    -- the name ends inside the word, since it holds no separator
    obtain ⟨more, hmore, hafter⟩ : ∃ more, name ++ more = w ∧ after = more ++ s :: rest := by
      rcases List.append_eq_append_iff.1 hprefix with ⟨more, hw, hafter⟩ | ⟨more, hname', hrest⟩
      · exact ⟨more, hw.symm, hafter⟩
      · cases more with
        | nil => exact ⟨[], by simpa using hname', by simpa using hrest.symm⟩
        | cons c more =>
          obtain ⟨rfl, -⟩ := List.cons.inj hrest
          have hclean := hnames name hname s (hname' ▸ by simp)
          exact absurd (hclean.symm.trans hs) Bool.false_ne_true
    have hskip := hskips name hname more (List.isPrefixOf?_eq_some_iff_append_eq.2 hmore)
    cases more with
    | nil => exact absurd rfl hskip.1
    | cons c more =>
      rw [hafter]
      have hc : isSeparator c = false := hw c (hmore ▸ by simp)
      exact assigned?_of_not_isBlank (not_isBlank_of_clean hc)
        fun h => hskip.2 (congrArg some h)

theorem setting?_cons (hs : isSeparator s = true) :
    setting? names (s :: rest) = (settingHere? names rest).or (setting? names rest) := by
  rw [setting?, if_pos hs]

/-- Nothing is found in the midst of a word. -/
theorem setting?_append_of_clean (hw : Clean w) :
    setting? names (w ++ rest) = setting? names rest := by
  induction w with
  | nil => rfl
  | cons c w ih =>
    rw [List.cons_append, setting?, if_neg (by simp [hw c List.mem_cons_self])]
    exact ih fun d hd => hw d (List.mem_cons_of_mem c hd)

theorem setting?_word (hnames : ∀ name ∈ names, Clean name) (hw : Clean w)
    (hs : isSeparator s = true) (hs' : isSeparator s' = true) (hskips : Skips names w) :
    setting? names (s :: (w ++ s' :: rest)) = setting? names (s' :: rest) := by
  rw [setting?_cons hs, settingHere?_eq_none hnames hw hs' hskips, Option.none_or,
    setting?_append_of_clean hw]

/-- **A text is passed over** when none of its words is a setting. -/
theorem setting?_append (hnames : ∀ name ∈ names, Clean name) (hs : isSeparator s = true)
    (hs' : isSeparator s' = true) (hskips : ∀ w ∈ words v, Skips names w) :
    setting? names (s :: (v ++ s' :: rest)) = setting? names (s' :: rest) := by
  -- along the text, with the beginning of the word that is being read
  have hread : ∀ w s, Clean w → isSeparator s = true → (∀ u ∈ words (w ++ v), Skips names u) →
      setting? names (s :: (w ++ (v ++ s' :: rest))) = setting? names (s' :: rest) := by
    clear hs hskips
    induction v with
    | nil =>
      intro w s hw hs hskips
      rw [List.append_nil, words_of_clean hw] at hskips
      exact setting?_word hnames hw hs hs' (hskips w (List.mem_singleton.2 rfl))
    | cons c v ih =>
      intro w s hw hs hskips
      by_cases hc : isSeparator c = true
      · rw [words_append hc, words_of_clean hw] at hskips
        rw [List.cons_append, setting?_word hnames hw hs hc (hskips w (by simp))]
        exact ih [] c nofun hc fun u hu => hskips u (List.mem_append_right _ hu)
      · rw [List.append_cons] at hskips
        rw [List.cons_append, List.append_cons]
        refine ih (w ++ [c]) s (fun d hd => ?_) hs hskips
        rcases List.mem_append.1 hd with hd | hd
        · exact hw d hd
        · rw [List.mem_singleton.1 hd]
          exact eq_false_of_ne_true hc
  exact hread [] s nofun hs hskips

/-- **A value**: something not blank, and then no separator. -/
def IsValue : List Char → Prop
  | [] => False
  | c :: rest => isBlank c = false ∧ Clean rest

instance : DecidablePred IsValue
  | [] => inferInstanceAs (Decidable False)
  | _ :: _ => inferInstanceAs (Decidable (_ ∧ _))

theorem valueAfterBlanks?_of_isValue (hv : IsValue v) (hs : isSeparator s = true) :
    valueAfterBlanks? (' ' :: (v ++ s :: rest)) = some v := by
  obtain ⟨c, tail, rfl⟩ := List.exists_cons_of_ne_nil (show v ≠ [] from by rintro rfl; exact hv)
  obtain ⟨hc, htail⟩ := hv
  have hnewline : (c == '\n') = false := by
    rw [beq_eq_false_iff_ne]
    rintro rfl
    exact absurd hc (by decide)
  have htake : (tail ++ s :: rest).takeWhile (fun d => !isSeparator d) = tail := by
    rw [List.takeWhile_append_of_pos fun d hd => by rw [htail d hd]; rfl, List.takeWhile_cons, hs]
    simp
  have hdrop : (tail ++ s :: rest).dropWhile (fun d => !isSeparator d) = s :: rest := by
    rw [List.dropWhile_append_of_pos fun d hd => by rw [htail d hd]; rfl, List.dropWhile_cons, hs]
    simp
  have hhere : valueHere? (c :: (tail ++ s :: rest)) = some (c :: tail) := by
    rw [valueHere?, hnewline, if_neg Bool.false_ne_true, hdrop, htake]
  rw [valueAfterBlanks?, if_pos (by decide), List.cons_append, valueAfterBlanks?, hc,
    if_neg Bool.false_ne_true, hhere, Option.some_or]

/-- **A setting that is reached is found.** -/
theorem setting?_entry (hs : isSeparator s = true) (hv : valueAfterBlanks? rest = some v) :
    setting? (name :: names) (s :: (name ++ ' ' :: '=' :: rest)) = some v := by
  have hassigned : assigned? (' ' :: '=' :: rest) = some v := hv
  rw [setting?_cons hs, settingHere?, List.findSome?_cons,
    List.isPrefixOf?_eq_some_iff_append_eq.2 rfl, Option.bind_some, hassigned, Option.some_or]

end

end Teletype.Stty
