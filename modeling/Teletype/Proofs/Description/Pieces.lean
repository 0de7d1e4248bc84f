import Mathlib.Data.List.Basic
import Teletype.Proofs.Description.Bare
import Teletype.Proofs.Description.Printing

/-!
# Descriptions cut into pieces

A text without its comments is cut at commas into pieces, and what is behind the last
comma is the last of them (`cut`). Unlike the fields that are read, the pieces can be
put together again (`joined_cut`), in another order too: a piece can stand in front of
another one when it ends where the next comma is, and behind one when no line of it is
a comment, and neither depends on any other piece (`IsPiece`, `pieces_joined`). Only a
text that ends in a backslash with nothing behind it has a last piece that nothing can
be put behind (`isPiece_of_mem_pieces`).

What is read from a text is what is read from its pieces one by one
(`ofText_eq_ofPieces`).
-/

namespace Teletype.Description

open Text

/-! ## Pieces -/

/-- **A text cut at every comma** that no backslash protects. -/
def cut : List Char → List (List Char)
  | [] => [[]]
  | '\\' :: c :: rest => (cut rest).modifyHead fun p => '\\' :: c :: p
  | ',' :: rest => [] :: cut rest
  | c :: rest => (cut rest).modifyHead fun p => c :: p

/-- **Pieces put together** with commas between them. -/
def joined (ps : List (List Char)) : List Char := List.intercalate [','] ps

/-- **The pieces of a description.** The first one is its header. -/
def pieces (source : List Char) : List (List Char) := cut (bare source)

/-- **Whether a text ends in an unpaired backslash**, one that protects nothing. -/
def dangles : List Char → Bool
  | [] => false
  | ['\\'] => true
  | '\\' :: _ :: rest => dangles rest
  | _ :: rest => dangles rest

/-- A piece as it is at the end of a text: it is sealed, or would be but for a backslash
at its end. -/
def IsLast (p : List Char) : Prop :=
  isSealed p = true ∨ ∃ w, isSealed w = true ∧ p = w ++ ['\\']

/-- A sealed text stays in the piece. -/
theorem cut_append {w : List Char} (h : isSealed w = true) (cs : List Char) :
    cut (w ++ cs) = (cut cs).modifyHead (w ++ ·) := by
  induction w using isSealed.induct with
  | case1 =>
    show cut cs = (cut cs).modifyHead id
    rw [List.modifyHead_id, id]
  | case2 => exact absurd h Bool.false_ne_true
  | case3 c rest ih =>
    rw [isSealed] at h
    rw [List.cons_append, List.cons_append, cut, ih h, List.modifyHead_modifyHead]
    rfl
  | case4 rest => exact absurd h Bool.false_ne_true
  | case5 c rest hlone hpair hcomma ih =>
    have hc := ne_backslash hlone hpair
    rw [isSealed_cons hc hcomma] at h
    rw [List.cons_append, cut, ih h, List.modifyHead_modifyHead]
    · rfl
    · rintro d rest' rfl -
      exact hc rfl
    · exact hcomma

/-- The first piece of a text, if there is another one. -/
theorem cut_comma {p : List Char} (h : isSealed p = true) (rest : List Char) :
    cut (p ++ ',' :: rest) = p :: cut rest := by
  rw [cut_append h, cut, List.modifyHead_cons, List.append_nil]

/-- The last piece of a text. -/
theorem cut_last {p : List Char} (h : IsLast p) : cut p = [p] := by
  rcases h with h | ⟨w, h, rfl⟩
  · have hcut := cut_append h []
    rwa [List.append_nil, cut, List.modifyHead_cons, List.append_nil] at hcut
  · rw [cut_append h]
    rfl

/-- Where the first comma is, if there is any. -/
theorem isLast_or_comma (cs : List Char) :
    IsLast cs ∨ ∃ p rest, isSealed p = true ∧ cs = p ++ ',' :: rest := by
  induction cs using isSealed.induct with
  | case1 => exact .inl (.inl rfl)
  | case2 => exact .inl (.inr ⟨[], rfl, rfl⟩)
  | case3 c rest ih =>
    rcases ih with (h | ⟨w, h, rfl⟩) | ⟨p, rest, h, rfl⟩
    · exact .inl (.inl h)
    · exact .inl (.inr ⟨'\\' :: c :: w, h, rfl⟩)
    · exact .inr ⟨'\\' :: c :: p, rest, h, rfl⟩
  | case4 rest => exact .inr ⟨[], rest, rfl, rfl⟩
  | case5 c rest hlone hpair hcomma ih =>
    have hc := ne_backslash hlone hpair
    have hseal : ∀ w, isSealed w = true → isSealed (c :: w) = true := fun w hw => by
      rwa [isSealed_cons hc hcomma]
    rcases ih with (h | ⟨w, h, rfl⟩) | ⟨p, rest, h, rfl⟩
    · exact .inl (.inl (hseal rest h))
    · exact .inl (.inr ⟨c :: w, hseal w h, rfl⟩)
    · exact .inr ⟨c :: p, rest, hseal p h, rfl⟩

/-- **Induction on the pieces of a text.** -/
@[elab_as_elim]
theorem pieces_induction {motive : List Char → Prop} (cs : List Char)
    (last : ∀ p, IsLast p → motive p)
    (comma : ∀ p rest, isSealed p = true → motive rest → motive (p ++ ',' :: rest)) :
    motive cs := by
  induction hn : cs.length using Nat.strongRecOn generalizing cs with
  | ind n ih =>
    rcases isLast_or_comma cs with h | ⟨p, rest, h, rfl⟩
    · exact last cs h
    · refine comma p rest h (ih rest.length ?_ rest rfl)
      rw [← hn, List.length_append, List.length_cons]
      omega

theorem cut_ne_nil (cs : List Char) : cut cs ≠ [] := by
  induction cs using pieces_induction with
  | last p h =>
    rw [cut_last h]
    exact List.cons_ne_nil _ _
  | comma p rest h ih =>
    rw [cut_comma h]
    exact List.cons_ne_nil _ _

theorem joined_cons (p : List Char) {ps : List (List Char)} (h : ps ≠ []) :
    joined (p :: ps) = p ++ ',' :: joined ps := by
  rw [joined, List.intercalate_cons_of_ne_nil h, List.append_assoc]
  rfl

/-- **A text is its pieces.** -/
theorem joined_cut (cs : List Char) : joined (cut cs) = cs := by
  induction cs using pieces_induction with
  | last p h =>
    rw [cut_last h]
    exact List.intercalate_singleton
  | comma p rest h ih => rw [cut_comma h, joined_cons p (cut_ne_nil rest), ih]

/-- Sealed pieces are cut where they were put together. -/
theorem cut_joined {p : List Char} {ps : List (List Char)} (h : ∀ q ∈ p :: ps, isSealed q = true) :
    cut (joined (p :: ps)) = p :: ps := by
  induction ps generalizing p with
  | nil =>
    rw [joined, List.intercalate_singleton]
    exact cut_last (.inl (h p (List.mem_cons_self ..)))
  | cons q ps ih =>
    rw [joined_cons p (List.cons_ne_nil q ps), cut_comma (h p (List.mem_cons_self ..)),
      ih fun r hr => h r (List.mem_cons_of_mem _ hr)]

/-! ## Backslashes at the end -/

theorem dangles_cons {c : Char} (h : c ≠ '\\') (rest : List Char) :
    dangles (c :: rest) = dangles rest := by
  rw [dangles]
  · rintro rfl rfl
    exact h rfl
  · rintro d rest' rfl rfl
    exact h rfl

/-- A character that is no backslash ends whatever a backslash in front of it can do. -/
theorem dangles_append_cons {c : Char} (h : c ≠ '\\') (xs ys : List Char) :
    dangles (xs ++ c :: ys) = dangles ys := by
  induction xs using dangles.induct with
  | case1 => exact dangles_cons h ys
  | case2 => rw [List.singleton_append, dangles]
  | case3 d rest ih => rw [List.cons_append, List.cons_append, dangles, ih]
  | case4 d rest hlone hpair ih =>
    rw [List.cons_append, dangles_cons (ne_backslash hlone hpair), ih]

/-- A sealed text protects nothing behind it. -/
theorem dangles_append {w : List Char} (h : isSealed w = true) (cs : List Char) :
    dangles (w ++ cs) = dangles cs := by
  induction w using isSealed.induct with
  | case1 => rfl
  | case2 => exact absurd h Bool.false_ne_true
  | case3 c rest ih =>
    rw [isSealed] at h
    rw [List.cons_append, List.cons_append, dangles, ih h]
  | case4 rest => exact absurd h Bool.false_ne_true
  | case5 c rest hlone hpair hcomma ih =>
    have hc := ne_backslash hlone hpair
    rw [isSealed_cons hc hcomma] at h
    rw [List.cons_append, dangles_cons hc, ih h]

/-- All pieces are sealed when the text has no unpaired backslash at its end. -/
theorem isSealed_of_mem_cut {cs : List Char} (h : dangles cs = false) :
    ∀ p ∈ cut cs, isSealed p = true := by
  induction cs using pieces_induction with
  | last p hp =>
    intro q hq
    rw [cut_last hp, List.mem_singleton] at hq
    subst hq
    refine hp.resolve_right ?_
    rintro ⟨w, hw, rfl⟩
    rw [dangles_append hw] at h
    exact Bool.false_ne_true h.symm
  | comma p rest hp ih =>
    rw [dangles_append_cons (by decide)] at h
    rw [cut_comma hp]
    intro q hq
    rcases List.mem_cons.1 hq with rfl | hq
    · exact hp
    · exact ih h q hq

/-- Comments at the end of a text may hide an unpaired backslash, and never make one. -/
theorem dangles_of_bare_go {line cs : List Char} (h : dangles (bare.go line cs) = true) :
    dangles (line.reverse ++ cs) = true := by
  induction cs generalizing line with
  | nil =>
    rw [bare.go] at h
    rw [List.append_nil]
    cases hcomment : isComment line.reverse
    · rwa [hcomment] at h
    · rw [hcomment] at h
      exact absurd h Bool.false_ne_true
  | cons c rest ih =>
    by_cases hc : c = '\n'
    · subst hc
      rw [bare_go_newline] at h
      rw [dangles_append_cons (by decide)]
      cases hcomment : isComment line.reverse
      · rw [hcomment, if_neg Bool.false_ne_true, List.append_assoc, List.singleton_append,
          dangles_append_cons (by decide)] at h
        exact ih h
      · rw [hcomment] at h
        exact ih h
    · rw [bare_go_cons hc] at h
      have hrest := ih h
      rwa [List.reverse_cons, List.append_assoc] at hrest

/-! ## Pieces that can be moved -/

/-- **What can be a piece** behind another one, and in front of one. -/
structure IsPiece (p : List Char) : Prop where
  /-- It ends where the next comma is, and not before. -/
  isSealed : isSealed p = true
  /-- No line of it is a comment. -/
  uncommented : Uncommented [','] p

/-- What is in front of a comma matters to the line that is under way, and to no other. -/
theorem uncommented_behind (w line cs : List Char) :
    Uncommented (w ++ ',' :: line) cs
      ↔ isComment line.reverse = false ∧ Uncommented (w ++ [',']) cs := by
  have hline : ∀ w : List Char,
      isComment (w ++ ',' :: line).reverse = isComment line.reverse := fun w => by
    rw [List.reverse_append, List.reverse_cons, List.append_assoc, List.singleton_append]
    exact isComment_append_of_not _ rfl
  have hcomma : ∀ w : List Char, isComment (w ++ [',']).reverse = false := fun w => by
    rw [List.reverse_append]
    rfl
  induction cs generalizing w with
  | nil =>
    show isComment (w ++ ',' :: line).reverse = false
      ↔ isComment line.reverse = false ∧ isComment (w ++ [',']).reverse = false
    rw [hline, and_iff_left (hcomma w)]
  | cons c rest ih =>
    by_cases hc : c = '\n'
    · subst hc
      rw [uncommented_newline, uncommented_newline, hline, and_iff_right (hcomma w)]
    · rw [uncommented_cons hc, uncommented_cons hc]
      exact ih (c :: w)

/-- **A comma keeps the two sides apart**: comments on one have nothing to do with the
other. -/
theorem uncommented_append_comma (line xs ys : List Char) :
    Uncommented line (xs ++ ',' :: ys) ↔ Uncommented line xs ∧ Uncommented [','] ys := by
  induction xs generalizing line with
  | nil =>
    rw [List.nil_append, uncommented_cons (by decide)]
    exact uncommented_behind [] line ys
  | cons c xs ih =>
    rw [List.cons_append]
    by_cases hc : c = '\n'
    · subst hc
      rw [uncommented_newline, uncommented_newline, ih, and_assoc]
    · rw [uncommented_cons hc, uncommented_cons hc, ih]

theorem uncommented_joined {line p : List Char} {ps : List (List Char)} :
    Uncommented line (joined (p :: ps))
      ↔ Uncommented line p ∧ ∀ q ∈ ps, Uncommented [','] q := by
  induction ps generalizing line p with
  | nil =>
    rw [joined, List.intercalate_singleton]
    exact (and_iff_left nofun).symm
  | cons q ps ih =>
    rw [joined_cons p (List.cons_ne_nil q ps), uncommented_append_comma, ih, List.forall_mem_cons]

/-- **Pieces are found again** in the text they are put together to, behind a header. -/
theorem pieces_joined {header : List Char} {fs : List (List Char)}
    (hheader : isSealed header = true ∧ Uncommented [] header) (hfs : ∀ f ∈ fs, IsPiece f) :
    pieces (joined (header :: fs)) = header :: fs := by
  have huncommented : Uncommented [] (joined (header :: fs)) :=
    uncommented_joined.2 ⟨hheader.2, fun f hf => (hfs f hf).uncommented⟩
  rw [pieces, bare_of_uncommented huncommented]
  exact cut_joined (List.forall_mem_cons.2 ⟨hheader.1, fun f hf => (hfs f hf).isSealed⟩)

/-- **The pieces of a text can be moved**, if no unpaired backslash is at its end. -/
theorem isPiece_of_mem_pieces {source header : List Char} {fs : List (List Char)}
    (hend : dangles source = false) (h : pieces source = header :: fs) :
    (isSealed header = true ∧ Uncommented [] header) ∧ ∀ f ∈ fs, IsPiece f := by
  have hbare : dangles (bare source) = false :=
    Bool.eq_false_iff.2 fun hdangles =>
      Bool.false_ne_true (hend.symm.trans (dangles_of_bare_go hdangles))
  have hsealed := isSealed_of_mem_cut hbare
  have huncommented := uncommented_bare source
  rw [← joined_cut (bare source)] at huncommented
  rw [show cut (bare source) = header :: fs from h] at hsealed huncommented
  have hparts := uncommented_joined.1 huncommented
  have hsealed := List.forall_mem_cons.1 hsealed
  exact ⟨⟨hsealed.1, hparts.1⟩, fun f hf => ⟨hsealed.2 f hf, hparts.2 f hf⟩⟩

/-! ## What pieces say -/

/-- **What a piece says**, if anything. -/
def reading (p : List Char) : Option Statement := statement? (unreturned p)

/-- **The description in the pieces of a text.** There is one unless there is nothing at
all. -/
def ofPieces : List (List Char) → Description
  | [] => {}
  | header :: fs =>
    if fs = [] ∧ trim (unreturned header) = [] then {}
    else (fs.filterMap reading).foldl state { names := headerNames (unreturned header) }

/-- A character stays, unless it is a carriage return in a line end. -/
theorem unreturned_cons_or (c : Char) (rest : List Char) :
    unreturned (c :: rest) = c :: unreturned rest
      ∨ ∃ rest', c = '\r' ∧ rest = '\n' :: rest' := by
  by_cases h : c ≠ '\r' ∨ rest.head? ≠ some '\n'
  · exact .inl (unreturned_cons h)
  · rw [not_or, not_ne_iff, not_ne_iff, List.head?_eq_some_iff] at h
    obtain ⟨hc, rest', hrest⟩ := h
    exact .inr ⟨rest', hc, hrest⟩

/-- Without carriage returns a sealed text is sealed. -/
theorem isSealed_unreturned {p : List Char} (h : isSealed p = true) :
    isSealed (unreturned p) = true := by
  induction p using isSealed.induct with
  | case1 => rfl
  | case2 => exact absurd h Bool.false_ne_true
  | case3 c rest ih =>
    rw [isSealed] at h
    rw [unreturned_cons (.inl (by decide))]
    rcases unreturned_cons_or c rest with hstay | ⟨rest', rfl, rfl⟩
    · rw [hstay, isSealed]
      exact ih h
    · -- the backslash protects the line end either way
      have hrest := ih h
      rw [unreturned_cons (.inl (by decide)), isSealed_cons (by decide) (by decide)] at hrest
      rwa [unreturned, isSealed]
  | case4 rest => exact absurd h Bool.false_ne_true
  | case5 c rest hlone hpair hcomma ih =>
    have hc := ne_backslash hlone hpair
    rw [isSealed_cons hc hcomma] at h
    rcases unreturned_cons_or c rest with hstay | ⟨rest', rfl, rfl⟩
    · rw [hstay, isSealed_cons hc hcomma]
      exact ih h
    · have hrest := ih h
      rwa [unreturned_cons (.inl (by decide))] at hrest

theorem IsLast.unreturned {p : List Char} (h : IsLast p) :
    IsLast (Description.unreturned p) := by
  rcases h with h | ⟨w, h, rfl⟩
  · exact .inl (isSealed_unreturned h)
  · exact .inr ⟨_, isSealed_unreturned h, unreturned_append (.inr (by decide))⟩

/-- The field up to the first comma. -/
theorem fields_comma {p : List Char} (h : isSealed p = true) (rest : List Char) :
    fields (p ++ ',' :: rest) = p :: fields rest := by
  rw [fields, fields_go_append h, fields.go, List.append_nil, List.reverse_reverse]
  rfl

/-- The last field, if it is one. -/
theorem fields_last {p : List Char} (h : IsLast p) :
    fields p = if (trim p).isEmpty then [] else [p] := by
  rcases h with h | ⟨w, h, rfl⟩
  · have hgo := fields_go_append h [] []
    rwa [List.append_nil, List.append_nil, fields.go, List.reverse_reverse] at hgo
  · have hgo := fields_go_append h [] ['\\']
    rw [List.append_nil] at hgo
    rw [fields, hgo, ← List.reverse_reverse (w ++ ['\\']), List.reverse_append]
    rfl

theorem unreturned_comma (p rest : List Char) :
    unreturned (p ++ ',' :: rest) = unreturned p ++ ',' :: unreturned rest := by
  have hseam : (',' :: rest).head? ≠ some '\n' := fun h => absurd (Option.some.inj h) (by decide)
  rw [unreturned_append (.inr hseam), unreturned_cons (.inl (by decide))]

/-- Nothing is said by blanks. -/
theorem statement?_of_trim {field : List Char} (h : trim field = []) : statement? field = none := by
  unfold statement?
  rw [h]
  rfl

/-- **What the fields of a text say** is what its pieces say. -/
theorem filterMap_fields (cs : List Char) :
    (fields (unreturned cs)).filterMap statement? = (cut cs).filterMap reading := by
  induction cs using pieces_induction with
  | last p h =>
    rw [fields_last h.unreturned, cut_last h]
    by_cases hblank : trim (unreturned p) = []
    · have hnone : reading p = none := statement?_of_trim hblank
      rw [hblank, List.filterMap_cons_none hnone]
      rfl
    · rw [if_neg (by rwa [List.isEmpty_iff])]
      rfl
  | comma p rest h ih =>
    rw [unreturned_comma, fields_comma (isSealed_unreturned h), cut_comma h, List.filterMap_cons,
      List.filterMap_cons, ih]
    rfl

/-- The fields of a text with its line ends are those that are read from it. -/
theorem map_trim_fields_ofList (source : List Char) :
    (fields (withoutComments (String.ofList source).toList)).map trim
      = (fields (unreturned (bare source))).map trim := by
  rw [String.toList_ofList]
  exact map_trim_fields_withoutComments source

/-- Without fields there is no description. -/
theorem ofText_of_map_trim_nil {source : String}
    (h : (fields (withoutComments source.toList)).map trim = []) : ofText source = {} := by
  rw [ofText, List.map_eq_nil_iff.1 h]

/-- **A description is read piece by piece.** -/
theorem ofText_eq_ofPieces (source : List Char) :
    ofText (String.ofList source) = ofPieces (pieces source) := by
  have hfields := map_trim_fields_ofList source
  rw [pieces]
  rcases isLast_or_comma (bare source) with hlast | ⟨p, rest, hp, hcs⟩
  · -- the header is all there is, if there is one
    rw [fields_last hlast.unreturned] at hfields
    rw [cut_last hlast, ofPieces]
    by_cases hblank : trim (unreturned (bare source)) = []
    · rw [if_pos ⟨rfl, hblank⟩]
      rw [hblank, List.isEmpty_nil, if_pos rfl] at hfields
      exact ofText_of_map_trim_nil hfields
    · rw [if_neg fun h => hblank h.2]
      rw [if_neg (by rwa [List.isEmpty_iff]), List.map_singleton] at hfields
      rw [ofText_of_map_trim hfields, headerNames_trim]
      rfl
  · rw [hcs, unreturned_comma, fields_comma (isSealed_unreturned hp), List.map_cons] at hfields
    rw [hcs, cut_comma hp, ofPieces, if_neg fun h => cut_ne_nil rest h.1,
      ofText_of_map_trim hfields, headerNames_trim, List.filterMap_map,
      show statement? ∘ trim = statement? from funext statement?_trim, filterMap_fields]

end Teletype.Description
