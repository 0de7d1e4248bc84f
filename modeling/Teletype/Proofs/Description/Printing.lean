import Teletype.Proofs.Description.Statement

/-!
# Descriptions that are printed and read back

A description is printed as a header and a field for each thing it says, in any order,
with commas between them and gaps of blanks and line ends behind the commas. That is
the layout in which descriptions are handed around. What is printed is read back, the
names from the header (`headerNames_header`) and the rest from the fields.

But it is not always the description that was printed. A template may end in `@`, and
from its field nothing is read, as if the capability were taken back; so the
description that is read lacks the templates that end so (`ofText_text`). The two are
the same when there are no such templates, and only then (`ofText_text_eq_iff`).
-/

namespace Teletype.Description

open Text

/-! ## Headers -/

/-- **A name that can be written into a header.** -/
structure IsName (n : List Char) : Prop where
  /-- There is something in it. -/
  ne_nil : n ≠ []
  /-- There are no blanks around it. -/
  trimmed : trim n = n
  /-- It is in one line. -/
  oneLine : '\n' ∉ n
  /-- No other name begins in it. -/
  noBar : '|' ∉ n
  /-- No field begins in it. -/
  noComma : ',' ∉ n
  /-- Nothing in it protects what comes behind. -/
  noBackslash : '\\' ∉ n

/-- **Names as a header**, with bars between them. -/
def header (names : List String) : List Char :=
  List.intercalate ['|'] (names.map String.toList)

theorem header_singleton (n : String) : header [n] = n.toList := List.intercalate_singleton

theorem header_cons (n : String) {names : List String} (h : names ≠ []) :
    header (n :: names) = n.toList ++ '|' :: header names := by
  rw [header, List.map_cons, List.intercalate_cons_of_ne_nil (by simpa using h),
    List.append_assoc]
  rfl

/-- What is in a header is a bar or in a name. -/
theorem mem_header {names : List String} {c : Char} (h : c ∈ header names) :
    c = '|' ∨ ∃ n ∈ names, c ∈ n.toList := by
  induction names with
  | nil => exact absurd h List.not_mem_nil
  | cons n names ih =>
    by_cases hnames : names = []
    · rw [hnames, header_singleton] at h
      exact .inr ⟨n, List.mem_cons_self .., h⟩
    · rw [header_cons n hnames, List.mem_append, List.mem_cons] at h
      rcases h with h | h | h
      · exact .inr ⟨n, List.mem_cons_self .., h⟩
      · exact .inl h
      · exact (ih h).imp_right fun ⟨m, hm, hc⟩ => ⟨m, List.mem_cons_of_mem _ hm, hc⟩

/-- A header starts as its first name does. -/
theorem head?_header {n : String} (hn : n.toList ≠ []) (names : List String) :
    (header (n :: names)).head? = n.toList.head? := by
  by_cases hnames : names = []
  · rw [hnames, header_singleton]
  · obtain ⟨c, cs, hcs⟩ := List.exists_cons_of_ne_nil hn
    rw [header_cons n hnames, hcs]
    rfl

/-- A header ends with something that is not blank, as its last name does. -/
theorem isBlank_getLast?_header {names : List String} (h : ∀ n ∈ names, IsName n.toList) :
    ∀ c ∈ (header names).getLast?, isBlank c = false := by
  induction names with
  | nil => exact nofun
  | cons n names ih =>
    have hn := h n (List.mem_cons_self ..)
    have hrest := ih fun m hm => h m (List.mem_cons_of_mem _ hm)
    by_cases hnames : names = []
    · rw [hnames, header_singleton]
      exact (trim_eq_self_iff.1 hn.trimmed).2
    · intro c hc
      rw [header_cons n hnames, List.getLast?_append_cons] at hc
      cases hheader : header names with
      | nil =>
        rw [hheader] at hc
        obtain rfl : '|' = c := Option.some.inj hc
        decide
      | cons d ds =>
        rw [hheader, List.getLast?_cons_cons] at hc
        exact hrest c (hheader ▸ hc)

/-- **A header is laid out as a field.** -/
theorem isField_header {names : List String} (hne : names ≠ []) (h : ∀ n ∈ names, IsName n.toList)
    (hstart : ∀ n ∈ names.head?, n.toList.head? ≠ some '#') : IsField (header names) := by
  obtain ⟨n, others, rfl⟩ := List.exists_cons_of_ne_nil hne
  have hn := h n (List.mem_cons_self ..)
  have hhead := head?_header hn.ne_nil others
  refine ⟨?_, ?_, ?_, ?_, ?_⟩
  · intro hnil
    rw [hnil] at hhead
    exact hn.ne_nil (List.head?_eq_none_iff.1 hhead.symm)
  · refine trim_eq_self_iff.2 ⟨?_, isBlank_getLast?_header h⟩
    rw [hhead]
    exact (trim_eq_self_iff.1 hn.trimmed).1
  · -- a bar is no line end, and the names are without
    intro hnewline
    rcases mem_header hnewline with hbar | ⟨m, hm, hmem⟩
    · exact absurd hbar (by decide)
    · exact (h m hm).oneLine hmem
  · rw [hhead]
    exact hstart n rfl
  · refine isSealed_of_forall fun c hc => ?_
    rcases mem_header hc with rfl | ⟨m, hm, hmem⟩
    · decide
    · constructor <;> rintro rfl
      · exact (h m hm).noBackslash hmem
      · exact (h m hm).noComma hmem

/-! ## Names read back -/

theorem pieces_of_not_mem {p : List Char} (h : '|' ∉ p) : headerNames.pieces p = [p] := by
  induction p with
  | nil => rfl
  | cons c p ih =>
    rw [List.mem_cons, not_or] at h
    rw [headerNames.pieces, ih h.2, if_neg (by rw [beq_iff_eq]; exact fun hc => h.1 hc.symm)]

/-- A piece ends at the next bar. -/
theorem pieces_append {p : List Char} (h : '|' ∉ p) (rest : List Char) :
    headerNames.pieces (p ++ '|' :: rest) = p :: headerNames.pieces rest := by
  induction p with
  | nil => rfl
  | cons c p ih =>
    rw [List.mem_cons, not_or] at h
    rw [List.cons_append, headerNames.pieces, ih h.2,
      if_neg (by rw [beq_iff_eq]; exact fun hc => h.1 hc.symm)]

/-- The pieces of a header are its names. -/
theorem pieces_header {names : List String} (hne : names ≠ []) (h : ∀ n ∈ names, IsName n.toList) :
    headerNames.pieces (header names) = names.map String.toList := by
  induction names with
  | nil => exact absurd rfl hne
  | cons n names ih =>
    have hn := h n (List.mem_cons_self ..)
    by_cases hnames : names = []
    · rw [hnames, header_singleton]
      exact pieces_of_not_mem hn.noBar
    · rw [header_cons n hnames, pieces_append hn.noBar,
        ih hnames fun m hm => h m (List.mem_cons_of_mem _ hm), List.map_cons]

/-- **Names are read back from their header.** -/
theorem headerNames_header {names : List String} (hne : names ≠ [])
    (h : ∀ n ∈ names, IsName n.toList) (htrim : trim (header names) = header names) :
    headerNames (header names) = names := by
  rw [headerNames, htrim, pieces_header hne h, List.map_map]
  refine (List.map_congr_left fun n hn => ?_).trans (List.map_id _)
  show String.ofList (trim n.toList) = n
  rw [(h n hn).trimmed, String.ofList_toList]

/-! ## Printing -/

/-- **A description that can be printed.** -/
structure Printable (d : Description) : Prop where
  /-- It has a name. -/
  names_ne_nil : d.names ≠ []
  /-- Its names can be written into a header. -/
  isName : ∀ n ∈ d.names, IsName n.toList
  /-- Its primary name starts no comment. -/
  noComment : ∀ n ∈ d.names.head?, n.toList.head? ≠ some '#'
  /-- What it says can be written into fields. -/
  writable : ∀ s, d.Says s → s.Writable

/-- Everything a description says. -/
def statements (d : Description) : List Statement :=
  d.flags.map .flag ++ (d.numbers.map fun p => .number p.1 p.2)
    ++ d.texts.map fun p => .text p.1 p.2

theorem mem_statements {d : Description} {s : Statement} : s ∈ d.statements ↔ d.Says s := by
  have hall := Capability.mem_all
  cases s <;> simp [statements, flags, numbers, texts, Says, hall]

/-- **A printing of a description**: its header, everything it says, in some order and
each in a field, and the commas and gaps. -/
structure Printing where
  /-- What is printed. -/
  description : Description
  /-- It can be. -/
  printable : description.Printable
  /-- The fields, each with the gap in front of it. -/
  items : List (List Char × Statement)
  /-- The gaps are gaps. -/
  isGap : ∀ p ∈ items, IsGap p.1
  /-- The fields are about everything the description says. -/
  order : (items.map Prod.snd).Perm description.statements
  /-- Whether there is a comma behind the last field. -/
  comma : Bool
  /-- The gap at the end. -/
  closing : List Char
  /-- It is a gap. -/
  isGap_closing : IsGap closing

namespace Printing

variable (p : Printing)

/-- The fields as they stand in the text. -/
def forms : List (List Char × List Char) := p.items.map fun q => (q.1, q.2.form)

/-- **The text that is printed.** -/
def text : String :=
  String.ofList (header p.description.names ++ (laid p.forms ++ ending p.comma p.closing))

theorem says_iff {s : Statement} : s ∈ p.items.map Prod.snd ↔ p.description.Says s :=
  p.order.mem_iff.trans mem_statements

theorem isField_header : IsField (header p.description.names) :=
  Description.isField_header p.printable.names_ne_nil p.printable.isName p.printable.noComment

theorem isGap_and_isField : ∀ q ∈ p.forms, IsGap q.1 ∧ IsField q.2 := by
  intro q hq
  obtain ⟨r, hr, rfl⟩ := List.mem_map.1 hq
  have hsays : p.description.Says r.2 := p.says_iff.1 (List.mem_map_of_mem hr)
  exact ⟨p.isGap r hr, (p.printable.writable r.2 hsays).isField⟩

end Printing

/-- **A description printed line by line**, in the order of all capabilities. -/
def Printing.lineByLine (d : Description) (h : d.Printable) : Printing where
  description := d
  printable := h
  items := d.statements.map fun s => (['\n', '\t'], s)
  isGap := by
    intro p hp
    obtain ⟨s, -, rfl⟩ := List.mem_map.1 hp
    exact isGap_of_all rfl
  order := by
    rw [List.map_map]
    exact List.Perm.of_eq (List.map_id _)
  comma := true
  closing := ['\n']
  isGap_closing := isGap_of_all rfl

/-! ## Reading back -/

/-- The names of a header do not depend on blanks around it. -/
theorem headerNames_trim (header : List Char) : headerNames (trim header) = headerNames header := by
  rw [headerNames, headerNames, trim_trim]

/-- What a field says does not depend on blanks around it. -/
theorem statement?_trim (field : List Char) : statement? (trim field) = statement? field := by
  unfold statement?
  rw [trim_trim]

/-- **Fields count up to the blanks around them.** -/
theorem ofText_of_map_trim {source : String} {first : List Char} {others : List (List Char)}
    (h : (fields (withoutComments source.toList)).map trim = first :: others) :
    ofText source
      = (others.filterMap statement?).foldl state { names := headerNames first } := by
  unfold ofText
  cases hfields : fields (withoutComments source.toList) with
  | nil =>
    rw [hfields] at h
    exact absurd h.symm (List.cons_ne_nil _ _)
  | cons header rest =>
    rw [hfields, List.map_cons, List.cons.injEq] at h
    obtain ⟨rfl, rfl⟩ := h
    rw [List.filterMap_map, headerNames_trim,
      show statement? ∘ trim = statement? from funext statement?_trim]

/-- **A description without the templates that look like something taken back.** -/
def kept (d : Description) : Description :=
  { d with text := fun c => (d.text c).filter fun t => !(Statement.text c t).cancels }

theorem says_kept {d : Description} {s : Statement} :
    d.kept.Says s ↔ d.Says s ∧ s.cancels = false := by
  cases s with
  | flag c => exact (and_iff_left rfl).symm
  | number c n => exact (and_iff_left rfl).symm
  | text c t =>
    show (d.text c).filter (fun t => !(Statement.text c t).cancels) = some t ↔ _
    rw [Option.filter_eq_some_iff, Bool.not_eq_true']
    rfl

/-- **What is read from a text that was printed**: the description without the templates
that end in `@`. -/
theorem ofText_text (p : Printing) : ofText p.text = p.description.kept := by
  have hfields := map_trim_fields p.isField_header p.isGap_and_isField p.comma p.isGap_closing
  rw [← String.toList_ofList (l := header _ ++ _), ← Printing.text] at hfields
  have hread : (p.forms.map Prod.snd).filterMap statement?
      = (p.items.map Prod.snd).filter fun s => !s.cancels := by
    rw [← Statement.filterMap_form fun s hs => p.printable.writable s (p.says_iff.1 hs),
      Printing.forms, List.map_map, List.map_map]
    rfl
  rw [ofText_of_map_trim hfields, hread, headerNames_header p.printable.names_ne_nil
    p.printable.isName p.isField_header.trimmed]
  have hempty : ∀ s, ¬ Says { names := p.description.names } s := by
    rintro (_ | _ | _) <;> nofun
  have hkept : ∀ s ∈ (p.items.map Prod.snd).filter (fun s => !s.cancels),
      p.description.kept.Says s := by
    intro s hs
    rw [List.mem_filter, Bool.not_eq_true', p.says_iff] at hs
    exact says_kept.2 hs
  refine ext_of_says (names_foldl _ _) fun s => ?_
  rw [says_foldl hkept fun s hs => absurd hs (hempty s), or_iff_right (hempty s),
    List.mem_filter, Bool.not_eq_true', p.says_iff]
  exact says_kept.symm

/-- **When a description that was printed is read back**: exactly when none of its
templates ends in `@`. -/
theorem ofText_text_eq_iff (p : Printing) :
    ofText p.text = p.description
      ↔ ∀ c t, p.description.text c = some t → t.toList.getLast? ≠ some '@' := by
  rw [ofText_text]
  constructor
  · intro hkept c t ht
    have hsays : p.description.kept.Says (.text c t) := by
      rw [hkept]
      exact ht
    exact beq_eq_false_iff_ne.1 (says_kept.1 hsays).2
  · intro hlast
    refine ext_of_says rfl fun s => says_kept.trans (and_iff_left_of_imp fun hs => ?_)
    cases s with
    | flag c => rfl
    | number c n => rfl
    | text c t => exact beq_eq_false_iff_ne.2 (hlast c t hs)

/-- A description whose only template takes a parameter and ends in `@`: the field
`ich=\E[%p1%d@`. -/
def insertion : Description where
  names := ["t"]
  text c := if c = .parmIch then some "\\E[%p1%d@" else none

theorem says_insertion {s : Statement} (h : insertion.Says s) :
    s = .text .parmIch "\\E[%p1%d@" := by
  cases s with
  | flag c => exact absurd h Bool.false_ne_true
  | number c n => exact absurd h nofun
  | text c t =>
    by_cases hc : c = .parmIch
    · have ht : some "\\E[%p1%d@" = some t := by
        rw [← h]
        exact (if_pos hc).symm
      rw [hc, Option.some.inj ht]
    · have hnone : insertion.text c = none := if_neg hc
      exact absurd (hnone.symm.trans h) nofun

theorem printable_insertion : insertion.Printable where
  names_ne_nil := List.cons_ne_nil _ _
  isName := by
    intro n hn
    rw [List.mem_singleton.1 hn]
    constructor <;> decide
  noComment := by
    rintro n ⟨⟩
    decide
  writable := by
    intro s hs
    rw [says_insertion hs]
    exact ⟨rfl, by constructor <;> decide⟩

/-- **The description of an insertion is printed and not read back.** -/
theorem ofText_text_insertion : ¬ ∀ p : Printing, ofText p.text = p.description := by
  intro hall
  have hread := hall (.lineByLine insertion printable_insertion)
  rw [ofText_text] at hread
  -- what is read has no template, and what was printed has one
  have hsays : insertion.kept.Says (.text .parmIch "\\E[%p1%d@") :=
    congrFun (congrArg Description.text hread) .parmIch
  exact Bool.false_ne_true (says_kept.1 hsays).2.symm

end Teletype.Description
