import Mathlib.Data.List.Nodup
import Mathlib.Data.List.Perm.Basic
import Teletype.Proofs.Description.Pieces

/-!
# The layout of descriptions

A description is read piece by piece, and so its layout does not count. Pieces that say
something about different capabilities may change places (`ofPieces_perm`). Pieces that
say nothing may be put in: `PassedOver` tells which ones those are by what stands in
them, and that nothing is read from them is a theorem. Comments are part of no piece,
and may be put in wherever a line starts, in the middle of a piece too
(`ofText_comment`).

There are two limits. Behind a last piece that ends in an unpaired backslash nothing can
be put, since the comma would be protected. And a text in which everything is blank or a
comment has no header, so a piece put in would become one.
-/

namespace Teletype.Description

open Text

/-! ## Order -/

/-- The capability a statement is about. -/
def Statement.capability : Statement → Capability
  | .flag c => c
  | .number c _ => c
  | .text c _ => c

/-- Values for two different capabilities can be given in either order. -/
theorem ite_comm_of_ne {α : Type} {c e : Capability} (h : c ≠ e) (v w : α) (f : Capability → α) :
    (fun x => if x = e then w else if x = c then v else f x)
      = fun x => if x = c then v else if x = e then w else f x := by
  funext x
  by_cases hx : x = e
  · rw [if_pos hx, if_neg (hx ▸ h.symm), if_pos hx]
  · rw [if_neg hx, if_neg hx]

/-- **Statements about different capabilities** can be made in either order. -/
theorem state_comm {r s : Statement} (h : r.capability = s.capability → r = s) (d : Description) :
    state (state d r) s = state (state d s) r := by
  by_cases hsame : r = s
  · rw [hsame]
  · have hne : r.capability ≠ s.capability := fun hc => hsame (h hc)
    cases r <;> cases s <;> try rfl
    case flag.flag c e =>
      refine Description.ext rfl ?_ rfl rfl
      funext x
      exact Bool.or_left_comm ..
    case number.number c n e m =>
      exact Description.ext rfl rfl (ite_comm_of_ne hne (some n) (some m) d.number) rfl
    case text.text c t e u =>
      exact Description.ext rfl rfl rfl (ite_comm_of_ne hne (some t) (some u) d.text)

/-- **Pieces that say something about different capabilities** can change places. -/
theorem ofPieces_perm {header : List Char} {fs fs' : List (List Char)} (hperm : fs'.Perm fs)
    (hdistinct : ((fs.filterMap reading).map Statement.capability).Nodup) :
    ofPieces (header :: fs') = ofPieces (header :: fs) := by
  have hnil : fs' = [] ↔ fs = [] := by
    rw [← List.length_eq_zero_iff, ← List.length_eq_zero_iff, hperm.length_eq]
  have hfold : (fs'.filterMap reading).foldl state { names := headerNames (unreturned header) }
      = (fs.filterMap reading).foldl state { names := headerNames (unreturned header) } := by
    refine ((hperm.filterMap reading).symm.foldl_eq' (fun r hr s hs d => ?_) _).symm
    exact state_comm (List.inj_on_of_nodup_map hdistinct hr hs) d
  simp only [ofPieces, hnil, hfold]

/-! ## Pieces that say nothing -/

/-- The name a field starts with: what is in front of the first equals or number sign. -/
def nameIn (field : List Char) : String :=
  String.ofList (trim ((trim field).takeWhile fun c => c != '=' && c != '#'))

/-- The kind of capability a field asks for: the first equals or number sign tells. -/
def kindIn (field : List Char) : CapabilityKind :=
  match (trim field).dropWhile fun c => c != '=' && c != '#' with
  | [] => .flag
  | mark :: _ => if mark == '=' then .text else .number

/-- **A field that is passed over.** -/
inductive PassedOver (field : List Char) : Prop
  /-- It is blank. -/
  | blank (h : trim field = [])
  /-- It takes a capability back. -/
  | cancelled (h : (trim field).getLast? = some '@')
  /-- It names no capability. -/
  | unknown (h : Capability.ofName? (nameIn field) = none)
  /-- It names a capability of another kind. -/
  | misused {c : Capability} (h : Capability.ofName? (nameIn field) = some c)
      (hkind : c.kind ≠ kindIn field)

/-- What a name stands for in a field, when it is used for the wrong kind or is none. -/
theorem lookup?_eq_none {name : List Char} {k : CapabilityKind}
    (h : ∀ c, Capability.ofName? (String.ofList (trim name)) = some c → c.kind ≠ k) :
    lookup? name k = none := by
  rw [lookup?, Capability.ofNameAndKind?, Option.filter_eq_none_iff]
  exact fun c hc => by simpa using h c hc

/-- **What is passed over says nothing.** -/
theorem PassedOver.statement?_eq_none {field : List Char} (h : PassedOver field) :
    statement? field = none := by
  have hname : (∀ c, Capability.ofName? (nameIn field) = some c → c.kind ≠ kindIn field) →
      statement? field = none := by
    intro h
    unfold nameIn kindIn at h
    unfold statement?
    dsimp only
    split
    · rfl
    · cases hdrop : (trim field).dropWhile fun c => c != '=' && c != '#' with
      | nil =>
        -- without a mark the name is all of the field
        have htake : (trim field).takeWhile (fun c => c != '=' && c != '#') = trim field := by
          rw [List.takeWhile_eq_self_iff, ← List.dropWhile_eq_nil_iff]
          exact hdrop
        rw [hdrop, htake] at h
        rw [lookup?_eq_none h]
        rfl
      | cons mark value =>
        rw [hdrop] at h
        dsimp only at h ⊢
        by_cases hmark : (mark == '=') = true
        · rw [if_pos hmark] at h ⊢
          rw [lookup?_eq_none h]
          rfl
        · rw [if_neg hmark] at h ⊢
          rw [lookup?_eq_none h]
  cases h with
  | blank h => exact statement?_of_trim h
  | cancelled h =>
    unfold statement?
    dsimp only
    rw [if_pos (by rw [h, Bool.or_eq_true]; exact .inr rfl)]
  | unknown h => exact hname fun c hc => absurd (h.symm.trans hc) nofun
  | misused h hkind => exact hname fun c hc => by rwa [← Option.some.inj (h.symm.trans hc)]

/-- **Pieces put in that say nothing**, any number of them and anywhere. -/
inductive Padded : List (List Char) → List (List Char) → Prop
  /-- There are no more pieces. -/
  | nil : Padded [] []
  /-- A piece stays. -/
  | keep (f : List Char) {fs fs' : List (List Char)} (h : Padded fs fs') :
      Padded (f :: fs) (f :: fs')
  /-- A piece is put in. -/
  | insert {f : List Char} (hf : PassedOver (unreturned f)) {fs fs' : List (List Char)}
      (h : Padded fs fs') : Padded fs (f :: fs')

/-- Such pieces do not change what is said. -/
theorem Padded.filterMap_reading {fs fs' : List (List Char)} (h : Padded fs fs') :
    fs'.filterMap reading = fs.filterMap reading := by
  induction h with
  | nil => rfl
  | keep f h ih => rw [List.filterMap_cons, List.filterMap_cons, ih]
  | insert hf h ih =>
    have hnone : reading _ = none := hf.statement?_eq_none
    rw [List.filterMap_cons_none hnone, ih]

/-- They leave a description alone that has a header. -/
theorem Padded.ofPieces {header : List Char} {fs fs' : List (List Char)} (h : Padded fs fs')
    (hheader : fs ≠ [] ∨ trim (unreturned header) ≠ []) :
    Description.ofPieces (header :: fs') = Description.ofPieces (header :: fs) := by
  have hempty : ¬ (fs = [] ∧ trim (unreturned header) = []) := by rwa [not_and_or]
  have hempty' : ¬ (fs' = [] ∧ trim (unreturned header) = []) := by
    rintro ⟨rfl, hblank⟩
    cases h
    exact hempty ⟨rfl, hblank⟩
  rw [Description.ofPieces, Description.ofPieces, if_neg hempty, if_neg hempty',
    h.filterMap_reading]

/-- A text that is not blank but for comments has a header, or something behind it. -/
theorem ne_nil_or_of_pieces {source header : List Char} {fs : List (List Char)}
    (h : pieces source = header :: fs) (hblank : trim (bare source) ≠ []) :
    fs ≠ [] ∨ trim (unreturned header) ≠ [] := by
  by_cases hfs : fs = []
  · subst hfs
    have hheader : bare source = header := by
      rw [← joined_cut (bare source), show cut (bare source) = [header] from h]
      exact List.intercalate_singleton
    rw [hheader] at hblank
    refine .inr fun hunreturned => hblank (trim_blanks fun c hc => ?_)
    rcases mem_unreturned hc with rfl | hc
    · decide
    · exact trim_eq_nil_iff.1 hunreturned c hc
  · exact .inl hfs

/-! ## Comments -/

/-- **A comment line**, without its end. -/
structure IsCommentLine (comment : List Char) : Prop where
  /-- It is one line. -/
  oneLine : '\n' ∉ comment
  /-- It is a comment. -/
  isComment : isComment comment = true

/-- **A place where a line starts**: behind nothing, or behind a line end. -/
def AtLineStart (before : List Char) : Prop := before = [] ∨ before.getLast? = some '\n'

/-- Descriptions are read alike when their fields are alike, up to blanks. -/
theorem ofText_congr {cs ds : List Char}
    (h : (fields (unreturned (bare cs))).map trim = (fields (unreturned (bare ds))).map trim) :
    ofText (String.ofList cs) = ofText (String.ofList ds) := by
  have hcs := (map_trim_fields_ofList cs).trans h
  have hds := map_trim_fields_ofList ds
  cases hfields : (fields (unreturned (bare ds))).map trim with
  | nil =>
    rw [ofText_of_map_trim_nil (hcs.trans hfields), ofText_of_map_trim_nil (hds.trans hfields)]
  | cons first others =>
    rw [ofText_of_map_trim (hcs.trans hfields), ofText_of_map_trim (hds.trans hfields)]

/-- **A comment line put in** between two lines, or behind the last one. -/
theorem ofText_comment {before comment : List Char} (hbefore : AtLineStart before)
    (hcomment : IsCommentLine comment) (behind : List Char) :
    ofText (String.ofList (before ++ (comment ++ '\n' :: behind)))
        = ofText (String.ofList (before ++ behind))
      ∧ ofText (String.ofList (before ++ comment)) = ofText (String.ofList before) := by
  obtain ⟨hline, hend⟩ := bare_comment hcomment.oneLine hcomment.isComment behind
  constructor <;> apply ofText_congr
  · rw [bare_append hbefore, hline, bare_append hbefore]
  · rw [bare_append hbefore, hend, List.append_nil]

/-- **A comment line put behind a line without an end**, which gets one. -/
theorem ofText_comment_end (before : List Char) {comment : List Char}
    (hcomment : IsCommentLine comment) :
    ofText (String.ofList (before ++ '\n' :: comment)) = ofText (String.ofList before) := by
  obtain ⟨-, hend⟩ := bare_comment hcomment.oneLine hcomment.isComment []
  have hbare : bare (before ++ '\n' :: comment) = bare (before ++ ['\n']) := by
    rw [bare, bare_go_append_newline, hend, List.append_nil]
    rfl
  apply ofText_congr
  rw [hbare]
  rcases bare_go_newline_end [] before with h | h
  · rw [bare, h, bare]
  · rw [bare, h, map_trim_fields_newline, bare]

/-! ## Kinds -/

/-- The kind of capability a statement is for. -/
def Statement.kind : Statement → CapabilityKind
  | .flag _ => .flag
  | .number _ _ => .number
  | .text _ _ => .text

theorem kind_of_lookup? {name : List Char} {k : CapabilityKind} {c : Capability}
    (h : lookup? name k = some c) : c.kind = k := by
  rw [lookup?, Capability.ofNameAndKind?, Option.filter_eq_some_iff] at h
  exact beq_iff_eq.1 h.2

/-- **What is read from a field** is about a capability of the right kind. -/
theorem kind_of_statement? {field : List Char} {s : Statement} (h : statement? field = some s) :
    s.capability.kind = s.kind := by
  unfold statement? at h
  dsimp only at h
  split at h
  · exact absurd h nofun
  · split at h
    · obtain ⟨c, hc, rfl⟩ := Option.map_eq_some_iff.1 h
      exact kind_of_lookup? hc
    · split at h
      · obtain ⟨c, hc, rfl⟩ := Option.map_eq_some_iff.1 h
        exact kind_of_lookup? hc
      · split at h
        · rename_i hc hn
          obtain rfl := Option.some.inj h
          exact kind_of_lookup? hc
        · exact absurd h nofun

/-- What is said after a statement was said before, or is the statement. -/
theorem says_of_says_state {d : Description} {r s : Statement} (h : (state d r).Says s) :
    d.Says s ∨ s = r := by
  cases r <;> cases s <;> try exact .inl h
  case flag.flag c x =>
    rcases Bool.or_eq_true_iff.1 h with hx | hx
    · exact .inr (congrArg Statement.flag (beq_iff_eq.1 hx))
    · exact .inl hx
  case number.number c n x m =>
    by_cases hx : x = c
    · have hm : some n = some m := (if_pos hx).symm.trans h
      exact .inr (by rw [hx, Option.some.inj hm])
    · exact .inl ((if_neg hx).symm.trans h)
  case text.text c t x u =>
    by_cases hx : x = c
    · have hu : some t = some u := (if_pos hx).symm.trans h
      exact .inr (by rw [hx, Option.some.inj hu])
    · exact .inl ((if_neg hx).symm.trans h)

/-- What statements add up to is what some of them say, or was said before. -/
theorem mem_of_says_foldl {ss : List Statement} {d : Description} {s : Statement}
    (h : (ss.foldl state d).Says s) : d.Says s ∨ s ∈ ss := by
  induction ss generalizing d with
  | nil => exact .inl h
  | cons r ss ih =>
    rcases ih h with h | h
    · refine (says_of_says_state h).imp_right fun hs => ?_
      rw [hs]
      exact List.mem_cons_self ..
    · exact .inr (List.mem_cons_of_mem r h)

/-- **A description that is read says nothing out of kind.** -/
theorem kind_of_says_ofText {source : String} {s : Statement} (h : (ofText source).Says s) :
    s.capability.kind = s.kind := by
  have hempty : ∀ names, ¬ Says { names := names } s := fun names => by
    rcases s with (_ | _ | _) <;> nofun
  unfold ofText at h
  split at h
  · exact absurd h (hempty [])
  · rcases mem_of_says_foldl h with h | h
    · exact absurd h (hempty _)
    · obtain ⟨field, -, hfield⟩ := List.mem_filterMap.1 h
      exact kind_of_statement? hfield

/-! ## Layout -/

/-- **The layout of a description does not count.** Every text is a header and fields, the
pieces it is cut into, and when it has no unpaired backslash at its end, these fields and
others can be put together behind the header in any order, and are found again. However
they come to be in a text, with comments or without:

* fields in another order are read alike, if no two of them say something about the same
  capability;
* fields that are blank, take a capability back, or name none or one of another kind can
  be put in behind a header;
* comment lines can be put in between two lines, and at the end.

And what is read, from any text, has each capability in the part of its own kind only. -/
theorem ofText_layout :
    (∀ source : List Char, ∃ header fs, pieces source = header :: fs
      ∧ (dangles source = false → ∀ fs', (∀ f ∈ fs', f ∈ fs ∨ IsPiece f) →
          pieces (joined (header :: fs')) = header :: fs')
      ∧ (((fs.filterMap reading).map Statement.capability).Nodup → ∀ fs', fs'.Perm fs →
          ∀ target, pieces target = header :: fs' →
            ofText (String.ofList target) = ofText (String.ofList source))
      ∧ ((∃ c ∈ bare source, isBlank c = false) → ∀ fs', Padded fs fs' →
          ∀ target, pieces target = header :: fs' →
            ofText (String.ofList target) = ofText (String.ofList source)))
    ∧ (∀ before comment, IsCommentLine comment →
        (AtLineStart before →
          (∀ behind, ofText (String.ofList (before ++ (comment ++ '\n' :: behind)))
            = ofText (String.ofList (before ++ behind)))
          ∧ ofText (String.ofList (before ++ comment)) = ofText (String.ofList before))
        ∧ ofText (String.ofList (before ++ '\n' :: comment)) = ofText (String.ofList before))
    ∧ ∀ text c, ((ofText text).flag c = true → c.kind = .flag)
        ∧ ((ofText text).number c ≠ none → c.kind = .number)
        ∧ ((ofText text).text c ≠ none → c.kind = .text) := by
  refine ⟨fun source => ?_, fun before comment hcomment => ⟨fun hbefore => ⟨?_, ?_⟩, ?_⟩,
    fun text c => ⟨?_, ?_, ?_⟩⟩
  · obtain ⟨header, fs, hpieces⟩ := List.exists_cons_of_ne_nil (cut_ne_nil (bare source))
    refine ⟨header, fs, hpieces, fun hend fs' hfs' => ?_,
      fun hdistinct fs' hperm target htarget => ?_,
      fun ⟨c, hc, hblank⟩ fs' hpadded target htarget => ?_⟩
    · obtain ⟨hheader, hfs⟩ := isPiece_of_mem_pieces hend hpieces
      exact pieces_joined hheader fun f hf => (hfs' f hf).elim (hfs f) id
    · rw [ofText_eq_ofPieces, ofText_eq_ofPieces, htarget, ofPieces_perm hperm hdistinct,
        show pieces source = header :: fs from hpieces]
    · have hne : trim (bare source) ≠ [] := fun htrim =>
        Bool.false_ne_true (hblank.symm.trans (trim_eq_nil_iff.1 htrim c hc))
      rw [ofText_eq_ofPieces, ofText_eq_ofPieces, htarget,
        hpadded.ofPieces (ne_nil_or_of_pieces hpieces hne),
        show pieces source = header :: fs from hpieces]
  · exact fun behind => (ofText_comment hbefore hcomment behind).1
  · exact (ofText_comment hbefore hcomment []).2
  · exact ofText_comment_end before hcomment
  · exact fun hflag => kind_of_says_ofText (s := .flag c) hflag
  · intro hnumber
    obtain ⟨n, hn⟩ := Option.ne_none_iff_exists'.1 hnumber
    exact kind_of_says_ofText (s := .number c n) hn
  · intro htext
    obtain ⟨t, ht⟩ := Option.ne_none_iff_exists'.1 htext
    exact kind_of_says_ofText (s := .text c t) ht

/-- A short description is read alike with its fields in another order, with a capability
taken back among them, and with a comment in front. -/
theorem ofText_layout_short :
    pieces (joined ["t|test".toList, "cols#80".toList, "am".toList])
        = ["t|test".toList, "cols#80".toList, "am".toList]
      ∧ ofText "t|test,cols#80,am" = ofText "t|test,am,cols#80"
      ∧ ofText "t|test,am,km@,cols#80" = ofText "t|test,am,cols#80"
      ∧ ofText "#c\nt|test,am,cols#80" = ofText "t|test,am,cols#80" := by
  have hshort : pieces "t|test,am,cols#80".toList
      = ["t|test".toList, "am".toList, "cols#80".toList] := by decide
  obtain ⟨hpieces, hcomments, -⟩ := ofText_layout
  obtain ⟨header, fs, hsource, hcut, hperm, hpadded⟩ := hpieces "t|test,am,cols#80".toList
  obtain ⟨rfl, rfl⟩ := List.cons.inj (hshort.symm.trans hsource)
  refine ⟨?_, ?_, ?_, ?_⟩
  · refine hcut (by decide) _ fun f hf => .inl ?_
    exact (List.Perm.swap ..).mem_iff.1 hf
  · have hread := hperm (by decide +kernel) _ (List.Perm.swap ..)
      "t|test,cols#80,am".toList (by decide)
    rwa [String.ofList_toList, String.ofList_toList] at hread
  · have hcancelled : PassedOver (unreturned "km@".toList) := .cancelled (by decide)
    have hread := hpadded ⟨'t', by decide⟩ _ (.keep _ (.insert hcancelled (.keep _ .nil)))
      "t|test,am,km@,cols#80".toList (by decide)
    rwa [String.ofList_toList, String.ofList_toList] at hread
  · obtain ⟨hlines, -⟩ := hcomments [] "#c".toList ⟨by decide, by decide⟩
    have hread := (hlines (.inl rfl)).1 "t|test,am,cols#80".toList
    have htext : String.ofList ([] ++ ("#c".toList ++ '\n' :: "t|test,am,cols#80".toList))
        = "#c\nt|test,am,cols#80" := by decide
    rwa [htext, List.nil_append, String.ofList_toList] at hread

end Teletype.Description
