import Teletype.Description.Reading
import Teletype.Proofs.Text

/-!
# The fields of a text that was laid out

A description is read in two passes before any field is looked at: lines that are
comments are taken out, and what is left is cut at commas. Both passes see one
character after another, so a text that was put together from fields and gaps can
be followed through them piece by piece.

The comments are the delicate part, since whether a line is one depends on how it
starts, and a gap may end a line anywhere. `Tidy` is the invariant: no comment has
begun in the current line, and nothing at its end would be lost with the line end.
Every gap and every field keeps it, as long as no field starts with a number sign.
A text that is `Tidy` throughout comes back from the first pass as it was, but for
a line end at its end (`withoutComments_of_untouched`).

What fields are is settled up to blanks around them, and nothing but blanks is in
the gaps. So the fields of the text, trimmed, are the fields it was put together
from (`map_trim_fields`).
-/

namespace Teletype.Description

open Text

/-! ## Lines -/

/-- **A line that has begun well**, its characters in reverse: it is no comment,
and a line end would not take its last character with it. -/
def Tidy (line : List Char) : Prop := isComment line.reverse = false ∧ line.head? ≠ some '\r'

/-- **A text whose lines all are tidy**, behind the characters of the first line in
reverse. -/
def Untouched : List Char → List Char → Prop
  | line, [] => Tidy line
  | line, '\n' :: rest => Tidy line ∧ Untouched [] rest
  | line, c :: rest => Untouched (c :: line) rest

/-- A text without a line end at its end. -/
def chomp : List Char → List Char
  | [] => []
  | ['\n'] => []
  | c :: rest => c :: chomp rest

theorem tidy_nil : Tidy [] := ⟨rfl, nofun⟩

theorem lines_go_newline (line rest : List Char) :
    lines.go line ('\n' :: rest) = (lines.dropReturn line).reverse :: lines.go [] rest := by
  rw [lines.go]

theorem lines_go_cons {c : Char} (h : c ≠ '\n') (line rest : List Char) :
    lines.go line (c :: rest) = lines.go (c :: line) rest := by
  rw [lines.go]
  exact fun hc => h hc

theorem untouched_newline (line rest : List Char) :
    Untouched line ('\n' :: rest) ↔ Tidy line ∧ Untouched [] rest := by
  rw [Untouched]

theorem untouched_cons {c : Char} (h : c ≠ '\n') (line rest : List Char) :
    Untouched line (c :: rest) ↔ Untouched (c :: line) rest := by
  rw [Untouched]
  exact fun hc => h hc

theorem chomp_cons {c : Char} {rest : List Char} (h : c ≠ '\n' ∨ rest ≠ []) :
    chomp (c :: rest) = c :: chomp rest := by
  rw [chomp]
  rintro rfl rfl
  exact h.elim (fun hc => hc rfl) fun hrest => hrest rfl

/-- Nothing else than a line end at the end goes. -/
theorem chomp_append {xs ys : List Char} (h : '\n' ∉ xs.getLast? ∨ ys ≠ []) :
    chomp (xs ++ ys) = xs ++ chomp ys := by
  induction xs with
  | nil => rfl
  | cons x xs ih =>
    cases xs with
    | nil => exact chomp_cons (h.imp_left fun hx hnewline => hx (by rw [hnewline]; rfl))
    | cons x' xs =>
      rw [List.getLast?_cons_cons] at h
      rw [List.cons_append, chomp_cons (.inr (by simp)), ih h]
      rfl

theorem mem_of_mem_chomp {c : Char} {cs : List Char} (h : c ∈ chomp cs) : c ∈ cs := by
  induction cs with
  | nil => exact h
  | cons d cs ih =>
    by_cases hend : d ≠ '\n' ∨ cs ≠ []
    · rw [chomp_cons hend, List.mem_cons] at h
      exact List.mem_cons.2 (h.imp_right ih)
    · obtain ⟨rfl, rfl⟩ : d = '\n' ∧ cs = [] := by
        simpa only [ne_eq, not_or, Decidable.not_not] using hend
      exact absurd h List.not_mem_nil

theorem dropReturn_of_tidy {line : List Char} (h : Tidy line) : lines.dropReturn line = line := by
  unfold lines.dropReturn
  split
  · exact absurd rfl h.2
  · rfl

/-- No line of a text is a comment when all of them are tidy. -/
theorem isComment_of_mem_lines {line cs : List Char} (h : Untouched line cs) :
    ∀ l ∈ lines.go line cs, isComment l = false := by
  induction cs generalizing line with
  | nil =>
    intro l hl
    rw [lines.go] at hl
    split at hl
    · exact absurd hl List.not_mem_nil
    · rw [List.mem_singleton.1 hl]
      exact h.1
  | cons c rest ih =>
    by_cases hc : c = '\n'
    · rw [hc, untouched_newline] at h
      rw [hc, lines_go_newline, dropReturn_of_tidy h.1]
      intro l hl
      rcases List.mem_cons.1 hl with rfl | hl
      · exact h.1.1
      · exact ih h.2 l hl
    · rw [untouched_cons hc] at h
      rw [lines_go_cons hc]
      exact ih h

/-- Something has a line. -/
theorem lines_go_ne_nil {line cs : List Char} (h : line ≠ [] ∨ cs ≠ []) :
    lines.go line cs ≠ [] := by
  induction cs generalizing line with
  | nil =>
    rw [lines.go, if_neg (by rw [List.isEmpty_iff]; exact h.resolve_right fun hcs => hcs rfl)]
    exact List.cons_ne_nil _ _
  | cons c rest ih =>
    by_cases hc : c = '\n'
    · rw [hc, lines_go_newline]
      exact List.cons_ne_nil _ _
    · rw [lines_go_cons hc]
      exact ih (.inl (List.cons_ne_nil _ _))

/-- Lines are put together again as they were. -/
theorem intercalate_lines {line cs : List Char} (h : Untouched line cs) :
    List.intercalate ['\n'] (lines.go line cs) = line.reverse ++ chomp cs := by
  induction cs generalizing line with
  | nil =>
    rw [lines.go, chomp, List.append_nil]
    cases line with
    | nil => rfl
    | cons c line => exact List.intercalate_singleton
  | cons c rest ih =>
    by_cases hc : c = '\n'
    · rw [hc, untouched_newline] at h
      rw [hc, lines_go_newline, dropReturn_of_tidy h.1]
      -- a line end at the end begins no further line
      by_cases hrest : rest = []
      · rw [hrest, chomp, List.append_nil]
        exact List.intercalate_singleton
      · rw [List.intercalate_cons_of_ne_nil (lines_go_ne_nil (.inr hrest)), ih h.2,
          chomp_cons (.inr hrest), List.append_assoc]
        rfl
    · rw [untouched_cons hc] at h
      rw [lines_go_cons hc, ih h, chomp_cons (.inl hc), List.reverse_cons, List.append_assoc]
      rfl

/-- **A text whose lines all are tidy comes back from the first pass** as it was, but
for a line end at its end. -/
theorem withoutComments_of_untouched {cs : List Char} (h : Untouched [] cs) :
    withoutComments cs = chomp cs := by
  have hfilter : (lines cs).filter (fun l => !isComment l) = lines cs := by
    rw [List.filter_eq_self]
    intro l hl
    rw [isComment_of_mem_lines h l hl]
    rfl
  rw [withoutComments, hfilter]
  exact intercalate_lines h

/-! ## Pieces of lines -/

/-- A text that keeps lines tidy, whatever they have begun with. -/
def Keeps (cs : List Char) : Prop := ∀ line, Tidy line → Untouched line cs

theorem keeps_nil : Keeps [] := fun _ h => h

/-- A run of characters without a line end stays in the line. -/
theorem untouched_append {w : List Char} (h : '\n' ∉ w) (line cs : List Char) :
    Untouched line (w ++ cs) ↔ Untouched (w.reverse ++ line) cs := by
  induction w generalizing line with
  | nil => rfl
  | cons c w ih =>
    rw [List.mem_cons, not_or] at h
    rw [List.cons_append, untouched_cons (fun hc => h.1 hc.symm), ih h.2, List.reverse_cons,
      List.append_assoc]
    rfl

/-- A line put together from texts that are no comments is none. -/
theorem isComment_append {xs ys : List Char} (hxs : isComment xs = false)
    (hys : isComment ys = false) : isComment (xs ++ ys) = false := by
  induction xs with
  | nil => exact hys
  | cons x xs ih =>
    unfold isComment at hxs ih ⊢
    rw [List.cons_append]
    -- blanks decide nothing, and the first other character decides
    by_cases hx : isBlank x = true
    · have hskip : ∀ cs, trimStart (x :: cs) = trimStart cs := fun cs => by
        rw [trimStart, List.dropWhile_cons, if_pos hx]
        rfl
      rw [hskip] at hxs ⊢
      exact ih hxs
    · have hx := Bool.of_not_eq_true hx
      rw [trimStart_cons hx] at hxs ⊢
      exact hxs

/-- A word that starts no comment keeps a line tidy. -/
theorem Keeps.word {w cs : List Char} (h : Keeps cs) (hline : '\n' ∉ w)
    (hstart : isComment w = false) (hend : w.getLast? ≠ some '\r') : Keeps (w ++ cs) := by
  intro line hline'
  rw [untouched_append hline]
  refine h _ ⟨?_, ?_⟩
  · rw [List.reverse_append, List.reverse_reverse]
    exact isComment_append hline'.1 hstart
  · rw [List.head?_append, List.head?_reverse]
    cases hlast : w.getLast? with
    | none => exact hline'.2
    | some c => rwa [hlast] at hend

/-- **A gap**: blanks, and no carriage return, which a line end might take along. -/
structure IsGap (gap : List Char) : Prop where
  /-- There is nothing but blanks. -/
  blank : ∀ c ∈ gap, isBlank c = true
  /-- There is no carriage return. -/
  noReturn : '\r' ∉ gap

/-- A gap is known by its characters. -/
theorem isGap_of_all {gap : List Char} (h : gap.all (fun c => isBlank c && c != '\r') = true) :
    IsGap gap := by
  have hgap : ∀ c ∈ gap, isBlank c = true ∧ c ≠ '\r' := fun c hc => by
    have hc := List.all_eq_true.1 h c hc
    rwa [Bool.and_eq_true, bne_iff_ne] at hc
  exact ⟨fun c hc => (hgap c hc).1, fun hreturn => (hgap _ hreturn).2 rfl⟩

theorem isGap_nil : IsGap [] := isGap_of_all rfl

/-- A gap keeps lines tidy, wherever it ends them. -/
theorem Keeps.gap {gap cs : List Char} (h : Keeps cs) (hgap : IsGap gap) : Keeps (gap ++ cs) := by
  induction gap with
  | nil => exact h
  | cons c gap ih =>
    have hrest : Keeps (gap ++ cs) :=
      ih ⟨fun d hd => hgap.blank d (List.mem_cons_of_mem _ hd),
        fun hd => hgap.noReturn (List.mem_cons_of_mem _ hd)⟩
    -- a line end leaves a tidy line behind and begins another
    by_cases hc : c = '\n'
    · intro line hline
      rw [hc, List.cons_append, untouched_newline]
      exact ⟨hline, hrest [] tidy_nil⟩
    · refine hrest.word (w := [c]) ?_ ?_ ?_
      · rw [List.mem_singleton]
        exact fun h => hc h.symm
      · have hblank : trimStart ([c] ++ []) = trimStart [] := trimStart_append (fun d hd => by
          rw [List.mem_singleton.1 hd]
          exact hgap.blank c (List.mem_cons_self ..)) []
        rw [List.append_nil] at hblank
        rw [isComment, hblank]
        rfl
      · intro hreturn
        exact hgap.noReturn (Option.some.inj hreturn ▸ List.mem_cons_self ..)

/-! ## Sealed texts -/

/-- **Whether a text is sealed**: no comma in it ends a field, and no backslash at
its end protects what comes behind. -/
def isSealed : List Char → Bool
  | [] => true
  | ['\\'] => false
  | '\\' :: _ :: rest => isSealed rest
  | ',' :: _ => false
  | _ :: rest => isSealed rest

theorem isSealed_cons {c : Char} (hc : c ≠ '\\') (hcomma : c ≠ ',') (rest : List Char) :
    isSealed (c :: rest) = isSealed rest := by
  rw [isSealed]
  · rintro rfl rfl
    exact hc rfl
  · rintro d rest' rfl rfl
    exact hc rfl
  · exact fun h => hcomma h

theorem fields_go_cons {c : Char} (hc : c ≠ '\\') (hcomma : c ≠ ',') (field rest : List Char) :
    fields.go field (c :: rest) = fields.go (c :: field) rest := by
  rw [fields.go]
  · rintro d rest' rfl rfl
    exact hc rfl
  · exact fun h => hcomma h

/-- What is not sealed in one of the two ways is a character by itself. -/
theorem ne_backslash {c : Char} {rest : List Char} (hlone : c = '\\' → rest = [] → False)
    (hpair : ∀ d rest', c = '\\' → rest = d :: rest' → False) : c ≠ '\\' := by
  intro hc
  cases rest with
  | nil => exact hlone hc rfl
  | cons d rest => exact hpair d rest hc rfl

/-- Sealed texts one after another are a sealed text. -/
theorem isSealed_append {xs ys : List Char} (hxs : isSealed xs = true)
    (hys : isSealed ys = true) : isSealed (xs ++ ys) = true := by
  induction xs using isSealed.induct with
  | case1 => exact hys
  | case2 => exact absurd hxs Bool.false_ne_true
  | case3 c rest ih =>
    rw [isSealed] at hxs
    rw [List.cons_append, List.cons_append, isSealed]
    exact ih hxs
  | case4 rest => exact absurd hxs Bool.false_ne_true
  | case5 c rest hlone hpair hcomma ih =>
    have hc := ne_backslash hlone hpair
    rw [isSealed_cons hc hcomma] at hxs
    rw [List.cons_append, isSealed_cons hc hcomma]
    exact ih hxs

/-- A text without commas and backslashes is sealed. -/
theorem isSealed_of_forall {cs : List Char} (h : ∀ c ∈ cs, c ≠ '\\' ∧ c ≠ ',') :
    isSealed cs = true := by
  induction cs with
  | nil => rfl
  | cons c cs ih =>
    have hc := h c (List.mem_cons_self ..)
    rw [isSealed_cons hc.1 hc.2]
    exact ih fun d hd => h d (List.mem_cons_of_mem _ hd)

/-- Neither a comma nor a backslash is a blank. -/
theorem IsGap.isSealed {gap : List Char} (h : IsGap gap) : isSealed gap = true := by
  refine isSealed_of_forall fun c hc => ?_
  have hblank := h.blank c hc
  constructor <;> rintro rfl <;> exact Bool.false_ne_true hblank

/-- **A sealed text stays in the field.** -/
theorem fields_go_append {w : List Char} (h : isSealed w = true) (field cs : List Char) :
    fields.go field (w ++ cs) = fields.go (w.reverse ++ field) cs := by
  induction w using isSealed.induct generalizing field with
  | case1 => rfl
  | case2 => exact absurd h Bool.false_ne_true
  | case3 c rest ih =>
    rw [isSealed] at h
    rw [List.cons_append, List.cons_append, fields.go, ih h, List.reverse_cons,
      List.reverse_cons, List.append_assoc, List.append_assoc]
    rfl
  | case4 rest => exact absurd h Bool.false_ne_true
  | case5 c rest hlone hpair hcomma ih =>
    have hc := ne_backslash hlone hpair
    rw [isSealed_cons hc hcomma] at h
    rw [List.cons_append, fields_go_cons hc hcomma, ih h, List.reverse_cons, List.append_assoc]
    rfl

/-! ## Texts that are laid out -/

/-- **What can be laid out as a field.** -/
structure IsField (w : List Char) : Prop where
  /-- There is something in it. -/
  ne_nil : w ≠ []
  /-- There are no blanks around it. -/
  trimmed : trim w = w
  /-- It is in one line. -/
  oneLine : '\n' ∉ w
  /-- It starts no comment. -/
  noComment : w.head? ≠ some '#'
  /-- It ends where the next comma is, and not before. -/
  isSealed : isSealed w = true

namespace IsField

variable {w : List Char}

theorem isComment (h : IsField w) : isComment w = false := by
  have hstart : trimStart w = w := by
    cases w with
    | nil => rfl
    | cons c w => exact trimStart_cons ((trim_eq_self_iff.1 h.trimmed).1 c rfl) w
  rw [Description.isComment, hstart, beq_eq_false_iff_ne]
  exact h.noComment

theorem keeps (h : IsField w) {cs : List Char} (hcs : Keeps cs) : Keeps (w ++ cs) := by
  refine hcs.word h.oneLine h.isComment fun hreturn => ?_
  exact Bool.false_ne_true ((trim_eq_self_iff.1 h.trimmed).2 '\r' hreturn).symm

/-- A field between gaps is found by trimming. -/
theorem trim_gaps (h : IsField w) {before behind : List Char} (hbefore : IsGap before)
    (hbehind : IsGap behind) : trim (before ++ w ++ behind) = w :=
  trim_append_append hbefore.blank hbehind.blank h.trimmed

theorem trim_gap (h : IsField w) {before : List Char} (hbefore : IsGap before) :
    trim (before ++ w) = w := by
  have htrim := h.trim_gaps hbefore isGap_nil
  rwa [List.append_nil] at htrim

end IsField

/-- **Fields laid out** behind another one, each with a gap between the comma and
the field. -/
def laid (items : List (List Char × List Char)) : List Char :=
  items.flatMap fun p => ',' :: (p.1 ++ p.2)

/-- **How a text ends**: perhaps with a comma, and with a gap. -/
def ending (comma : Bool) (gap : List Char) : List Char := (if comma then [','] else []) ++ gap

theorem laid_cons (gap w : List Char) (items : List (List Char × List Char)) :
    laid ((gap, w) :: items) = ',' :: (gap ++ (w ++ laid items)) := by
  rw [laid, List.flatMap_cons, List.cons_append, List.append_assoc]
  rfl

/-- A comma keeps lines tidy. -/
theorem Keeps.comma {cs : List Char} (h : Keeps cs) : Keeps (',' :: cs) :=
  h.word (w := [',']) (by decide) (by decide) (by decide)

theorem keeps_ending (comma : Bool) {gap : List Char} (h : IsGap gap) :
    Keeps (ending comma gap) := by
  have hgap : Keeps gap := by
    have := keeps_nil.gap h
    rwa [List.append_nil] at this
  cases comma
  · exact hgap
  · exact hgap.comma

/-- Fields laid out keep lines tidy. -/
theorem Keeps.laid {cs : List Char} (h : Keeps cs) {items : List (List Char × List Char)}
    (hitems : ∀ p ∈ items, IsGap p.1 ∧ IsField p.2) : Keeps (laid items ++ cs) := by
  induction items with
  | nil => exact h
  | cons p items ih =>
    obtain ⟨gap, w⟩ := p
    have hp := hitems (gap, w) (List.mem_cons_self ..)
    rw [laid_cons, List.cons_append, List.append_assoc, List.append_assoc]
    exact ((hp.2.keeps (ih fun q hq => hitems q (List.mem_cons_of_mem _ hq))).gap hp.1).comma

/-- The end of a text is all that a line end can be taken from. -/
theorem chomp_laid {header : List Char} (hheader : IsField header)
    {items : List (List Char × List Char)} (hitems : ∀ p ∈ items, IsField p.2) (cs : List Char) :
    chomp (header ++ (laid items ++ cs)) = header ++ (laid items ++ chomp cs) := by
  have hlast : ∀ {w : List Char}, IsField w → '\n' ∉ w.getLast? := fun hw hnewline =>
    hw.oneLine (List.mem_of_mem_getLast? hnewline)
  rw [chomp_append (.inl (hlast hheader))]
  congr 1
  induction items with
  | nil => rfl
  | cons p items ih =>
    obtain ⟨gap, w⟩ := p
    have hw : IsField w := hitems (gap, w) (List.mem_cons_self ..)
    have hgap : w ++ (laid items ++ cs) ≠ [] := by
      rw [ne_eq, List.append_eq_nil_iff]
      exact fun h => hw.ne_nil h.1
    rw [laid_cons, List.cons_append, List.append_assoc, List.append_assoc,
      chomp_cons (.inl (by decide)), chomp_append (.inr hgap), chomp_append (.inl (hlast hw)),
      ih fun q hq => hitems q (List.mem_cons_of_mem _ hq)]
    simp only [List.cons_append, List.append_assoc]

theorem chomp_ending (comma : Bool) (gap : List Char) :
    chomp (ending comma gap) = ending comma (chomp gap) := by
  cases comma
  · rfl
  · exact chomp_cons (.inl (by decide))

theorem IsGap.chomp {gap : List Char} (h : IsGap gap) : IsGap (chomp gap) :=
  ⟨fun c hc => h.blank c (mem_of_mem_chomp hc), fun hc => h.noReturn (mem_of_mem_chomp hc)⟩

/-- The fields of a text, from inside one of them on. -/
theorem map_trim_fields_go {gap w : List Char} (hgap : IsGap gap) (hw : IsField w)
    {items : List (List Char × List Char)} (hitems : ∀ p ∈ items, IsGap p.1 ∧ IsField p.2)
    (comma : Bool) {closing : List Char} (hclosing : IsGap closing) :
    (fields.go (gap ++ w).reverse (laid items ++ ending comma closing)).map trim
      = w :: items.map Prod.snd := by
  induction items generalizing gap w with
  | nil =>
    cases comma with
    | false =>
      -- the gap at the end joins the last field
      have hgo := fields_go_append hclosing.isSealed (gap ++ w).reverse []
      rw [List.append_nil] at hgo
      show (fields.go (gap ++ w).reverse closing).map trim = [w]
      rw [hgo, fields.go, List.reverse_append, List.reverse_reverse, List.reverse_reverse,
        hw.trim_gaps hgap hclosing, if_neg (by rw [List.isEmpty_iff]; exact hw.ne_nil),
        List.map_singleton, hw.trim_gaps hgap hclosing]
    | true =>
      -- behind the comma nothing is left
      have hgo := fields_go_append hclosing.isSealed [] []
      rw [List.append_nil, List.append_nil] at hgo
      show (fields.go (gap ++ w).reverse (',' :: closing)).map trim = [w]
      rw [fields.go, hgo, fields.go, List.reverse_reverse, List.reverse_reverse,
        trim_blanks hclosing.blank, List.map_cons, hw.trim_gap hgap]
      rfl
  | cons p items ih =>
    obtain ⟨gap', w'⟩ := p
    obtain ⟨hgap', hw'⟩ := hitems (gap', w') (List.mem_cons_self ..)
    have hgo := fields_go_append (isSealed_append hgap'.isSealed hw'.isSealed) []
      (laid items ++ ending comma closing)
    rw [List.append_nil, List.append_assoc] at hgo
    rw [laid_cons, List.cons_append, fields.go, List.append_assoc, List.append_assoc, hgo,
      List.reverse_reverse, List.map_cons, hw.trim_gap hgap,
      ih hgap' hw' fun q hq => hitems q (List.mem_cons_of_mem _ hq)]
    rfl

/-- **The fields of a text that was laid out**, trimmed, are those it was put together
from. -/
theorem map_trim_fields {header : List Char} (hheader : IsField header)
    {items : List (List Char × List Char)} (hitems : ∀ p ∈ items, IsGap p.1 ∧ IsField p.2)
    (comma : Bool) {closing : List Char} (hclosing : IsGap closing) :
    (fields (withoutComments (header ++ (laid items ++ ending comma closing)))).map trim
      = header :: items.map Prod.snd := by
  have huntouched := hheader.keeps ((keeps_ending comma hclosing).laid hitems) [] tidy_nil
  rw [withoutComments_of_untouched huntouched, chomp_laid hheader fun p hp => (hitems p hp).2,
    chomp_ending, fields, fields_go_append hheader.isSealed, List.append_nil]
  exact map_trim_fields_go isGap_nil hheader hitems comma hclosing.chomp

end Teletype.Description
