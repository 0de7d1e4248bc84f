import Mathlib.Data.List.TakeWhile
import Teletype.Proofs.Description.Fields

/-!
# Descriptions without their comments

The first pass over a description takes its lines apart, drops the comments and puts
the others together again. On the way line ends are lost: the last one, and with every
other one a carriage return in front of it. So a part of what is left, a field for
instance, is not a part of the text, and to take it from one place of the text and put
it at another means nothing.

Here the comments are taken out and every other character stays (`bare`). What a
comment line does in a text is plain then, wherever it is put in: nothing
(`bare_append`, `bare_comment`). And nothing is gained by what is kept. The carriage
returns can be taken out afterwards (`unreturned`), the text is that of the first pass
but for a line end at its end (`unreturned_bare`), and blanks at the end do not count
when fields are trimmed (`map_trim_fields_append`). So the fields are the same in both
(`map_trim_fields_withoutComments`).
-/

namespace Teletype.Description

open Text

/-! ## Without comments -/

/-- **A text without its comments.** Every other line keeps its end as it is. -/
def bare (cs : List Char) : List Char := go [] cs
where
  /-- The text, given the characters of the current line so far in reverse. -/
  go (line : List Char) : List Char → List Char
    | [] => if isComment line.reverse then [] else line.reverse
    | '\n' :: rest =>
      (if isComment line.reverse then [] else line.reverse ++ ['\n']) ++ go [] rest
    | c :: rest => go (c :: line) rest

/-- **A text without comments**, behind the characters of its first line in reverse. -/
def Uncommented : List Char → List Char → Prop
  | line, [] => isComment line.reverse = false
  | line, '\n' :: rest => isComment line.reverse = false ∧ Uncommented [] rest
  | line, c :: rest => Uncommented (c :: line) rest

theorem bare_go_newline (line rest : List Char) :
    bare.go line ('\n' :: rest)
      = (if isComment line.reverse then [] else line.reverse ++ ['\n']) ++ bare.go [] rest := by
  rw [bare.go]

theorem bare_go_cons {c : Char} (h : c ≠ '\n') (line rest : List Char) :
    bare.go line (c :: rest) = bare.go (c :: line) rest := by
  rw [bare.go]
  exact fun hc => h hc

theorem uncommented_newline (line rest : List Char) :
    Uncommented line ('\n' :: rest) ↔ isComment line.reverse = false ∧ Uncommented [] rest := by
  rw [Uncommented]

theorem uncommented_cons {c : Char} (h : c ≠ '\n') (line rest : List Char) :
    Uncommented line (c :: rest) ↔ Uncommented (c :: line) rest := by
  rw [Uncommented]
  exact fun hc => h hc

/-- A run of characters without a line end stays in the line. -/
theorem bare_go_append {w : List Char} (h : '\n' ∉ w) (line cs : List Char) :
    bare.go line (w ++ cs) = bare.go (w.reverse ++ line) cs := by
  induction w generalizing line with
  | nil => rfl
  | cons c w ih =>
    rw [List.mem_cons, not_or] at h
    rw [List.cons_append, bare_go_cons (fun hc => h.1 hc.symm), ih h.2, List.reverse_cons,
      List.append_assoc]
    rfl

theorem uncommented_append {w : List Char} (h : '\n' ∉ w) (line cs : List Char) :
    Uncommented line (w ++ cs) ↔ Uncommented (w.reverse ++ line) cs := by
  induction w generalizing line with
  | nil => rfl
  | cons c w ih =>
    rw [List.mem_cons, not_or] at h
    rw [List.cons_append, uncommented_cons (fun hc => h.1 hc.symm), ih h.2, List.reverse_cons,
      List.append_assoc]
    rfl

/-- A text without comments loses nothing. -/
theorem bare_go_of_uncommented {line cs : List Char} (h : Uncommented line cs) :
    bare.go line cs = line.reverse ++ cs := by
  induction cs generalizing line with
  | nil =>
    have hline : isComment line.reverse = false := h
    rw [bare.go, hline, List.append_nil]
    rfl
  | cons c rest ih =>
    by_cases hc : c = '\n'
    · subst hc
      rw [uncommented_newline] at h
      rw [bare_go_newline, h.1, ih h.2]
      exact List.append_assoc ..
    · rw [uncommented_cons hc] at h
      rw [bare_go_cons hc, ih h, List.reverse_cons, List.append_assoc]
      rfl

theorem bare_of_uncommented {cs : List Char} (h : Uncommented [] cs) : bare cs = cs :=
  bare_go_of_uncommented h

/-- **No comment is left.** -/
theorem uncommented_bare_go {line : List Char} (hline : '\n' ∉ line) (cs : List Char) :
    Uncommented [] (bare.go line cs) := by
  have hstart : ∀ rest, Uncommented [] (line.reverse ++ rest) ↔ Uncommented line rest :=
    fun rest => by
      rw [uncommented_append (by rwa [List.mem_reverse]), List.reverse_reverse, List.append_nil]
  induction cs generalizing line with
  | nil =>
    rw [bare.go]
    cases hcomment : isComment line.reverse
    · have hend := (hstart []).2 hcomment
      rwa [List.append_nil] at hend
    · rfl
  | cons c rest ih =>
    by_cases hc : c = '\n'
    · subst hc
      have hrest : Uncommented [] (bare.go [] rest) := ih List.not_mem_nil fun _ => Iff.rfl
      rw [bare_go_newline]
      cases hcomment : isComment line.reverse
      · have hnext := (hstart ('\n' :: bare.go [] rest)).2
          ((uncommented_newline _ _).2 ⟨hcomment, hrest⟩)
        rwa [← List.singleton_append, ← List.append_assoc] at hnext
      · exact hrest
    · rw [bare_go_cons hc]
      refine ih (by rw [List.mem_cons, not_or]; exact ⟨fun h => hc h.symm, hline⟩) fun rest' => ?_
      rw [List.reverse_cons, List.append_assoc, hstart]
      exact uncommented_cons hc _ _

theorem uncommented_bare (cs : List Char) : Uncommented [] (bare cs) :=
  uncommented_bare_go List.not_mem_nil cs

/-! ### Comments put in -/

/-- A line end ends all that a line can do. -/
theorem bare_go_append_newline (line xs ys : List Char) :
    bare.go line (xs ++ '\n' :: ys) = bare.go line (xs ++ ['\n']) ++ bare ys := by
  induction xs generalizing line with
  | nil =>
    rw [List.nil_append, List.nil_append, bare_go_newline, bare_go_newline, List.append_assoc]
    rfl
  | cons c xs ih =>
    rw [List.cons_append, List.cons_append]
    by_cases hc : c = '\n'
    · subst hc
      rw [bare_go_newline, bare_go_newline, ih, List.append_assoc]
    · rw [bare_go_cons hc, bare_go_cons hc, ih]

/-- What ends with a line, if it is not empty, does not matter to what follows. -/
theorem bare_append {before : List Char} (h : before = [] ∨ before.getLast? = some '\n')
    (behind : List Char) : bare (before ++ behind) = bare before ++ bare behind := by
  rcases h with rfl | h
  · rfl
  · obtain ⟨front, rfl⟩ := List.getLast?_eq_some_iff.1 h
    rw [List.append_assoc]
    exact bare_go_append_newline [] front behind

/-- A comment is nothing, with its line end or, at the end of a text, without. -/
theorem bare_comment {comment : List Char} (hline : '\n' ∉ comment)
    (h : isComment comment = true) (cs : List Char) :
    bare (comment ++ '\n' :: cs) = bare cs ∧ bare comment = [] := by
  have hend := bare_go_append hline [] []
  rw [List.append_nil, List.append_nil, bare.go, List.reverse_reverse, if_pos h] at hend
  refine ⟨?_, hend⟩
  rw [bare, bare_go_append hline, List.append_nil, bare_go_newline, List.reverse_reverse,
    if_pos h]
  rfl

/-- A line end at the end of a text stays there, unless a comment takes it along. -/
theorem bare_go_newline_end (line cs : List Char) :
    bare.go line (cs ++ ['\n']) = bare.go line cs
      ∨ bare.go line (cs ++ ['\n']) = bare.go line cs ++ ['\n'] := by
  induction cs generalizing line with
  | nil =>
    rw [List.nil_append, bare_go_newline, show bare.go line [] = _ from bare.go.eq_1 line]
    cases isComment line.reverse
    · exact .inr (List.append_nil _)
    · exact .inl rfl
  | cons c cs ih =>
    rw [List.cons_append]
    by_cases hc : c = '\n'
    · subst hc
      rw [bare_go_newline, bare_go_newline, List.append_assoc]
      exact (ih []).imp (congrArg _) (congrArg _)
    · rw [bare_go_cons hc, bare_go_cons hc]
      exact ih (c :: line)

/-! ## Line ends without carriage returns -/

/-- **A text whose line ends all are NL.** -/
def unreturned : List Char → List Char
  | [] => []
  | '\r' :: '\n' :: rest => '\n' :: unreturned rest
  | c :: rest => c :: unreturned rest

theorem unreturned_cons {c : Char} {rest : List Char} (h : c ≠ '\r' ∨ rest.head? ≠ some '\n') :
    unreturned (c :: rest) = c :: unreturned rest := by
  rw [unreturned]
  rintro rest' rfl rfl
  exact h.elim (fun hc => hc rfl) fun hrest => hrest rfl

/-- Texts one after another, with no line end on the seam. -/
theorem unreturned_append {xs ys : List Char}
    (h : xs.getLast? ≠ some '\r' ∨ ys.head? ≠ some '\n') :
    unreturned (xs ++ ys) = unreturned xs ++ unreturned ys := by
  induction xs using unreturned.induct with
  | case1 => rfl
  | case2 rest ih =>
    rw [List.cons_append, List.cons_append, unreturned, unreturned, ih]
    · rfl
    · cases rest with
      | nil => exact .inl nofun
      | cons d rest =>
        rwa [List.getLast?_cons_cons, List.getLast?_cons_cons] at h
  | case3 c rest hreturn ih =>
    have hc : c ≠ '\r' ∨ rest.head? ≠ some '\n' := by
      rw [← not_and_or]
      rintro ⟨rfl, hrest⟩
      obtain ⟨rest', rfl⟩ := List.head?_eq_some_iff.1 hrest
      exact hreturn rest' rfl rfl
    rw [unreturned_cons hc, List.cons_append]
    cases rest with
    | nil =>
      rw [List.getLast?_singleton] at h
      exact unreturned_cons (h.imp_left fun hc hreturn => hc (congrArg some hreturn))
    | cons d rest =>
      rw [List.getLast?_cons_cons] at h
      have hseam : unreturned (c :: (d :: rest ++ ys)) = c :: unreturned (d :: rest ++ ys) :=
        unreturned_cons hc
      rw [hseam, ih h]
      rfl

/-- Without line ends there is nothing to do. -/
theorem unreturned_of_not_mem {cs : List Char} (h : '\n' ∉ cs) : unreturned cs = cs := by
  induction cs with
  | nil => rfl
  | cons c cs ih =>
    rw [List.mem_cons, not_or] at h
    rw [unreturned_cons (.inr fun hhead => h.2 (List.mem_of_mem_head? hhead)), ih h.2]

/-- Nothing but carriage returns goes. -/
theorem mem_unreturned {c : Char} {cs : List Char} (h : c ∈ cs) :
    c = '\r' ∨ c ∈ unreturned cs := by
  induction cs using unreturned.induct with
  | case1 => exact absurd h List.not_mem_nil
  | case2 rest ih =>
    rw [unreturned]
    rcases List.mem_cons.1 h with hc | h
    · exact .inl hc
    · rcases List.mem_cons.1 h with rfl | h
      · exact .inr (List.mem_cons_self ..)
      · exact (ih h).imp_right (List.mem_cons_of_mem _)
  | case3 d rest hreturn ih =>
    rw [unreturned]
    · rcases List.mem_cons.1 h with rfl | h
      · exact .inr (List.mem_cons_self ..)
      · exact (ih h).imp_right (List.mem_cons_of_mem _)
    · exact hreturn

/-- A line and its end, as the first pass takes it. -/
theorem unreturned_line {line : List Char} (h : '\n' ∉ line) (rest : List Char) :
    unreturned (line.reverse ++ '\n' :: rest)
      = (lines.dropReturn line).reverse ++ '\n' :: unreturned rest := by
  have hline : ∀ w : List Char, '\n' ∉ w → '\n' ∉ w.reverse := fun w hw => by
    rwa [List.mem_reverse]
  unfold lines.dropReturn
  split
  · rename_i w
    rw [List.mem_cons, not_or] at h
    have hseam : (['\r'] ++ '\n' :: rest).head? ≠ some '\n' := fun hhead =>
      absurd (Option.some.inj hhead) (by decide)
    rw [List.reverse_cons, List.append_assoc, unreturned_append (.inr hseam),
      unreturned_of_not_mem (hline w h.2)]
    rfl
  · rename_i hreturn
    have hlast : line.reverse.getLast? ≠ some '\r' := by
      rw [List.getLast?_reverse]
      intro hhead
      obtain ⟨w, rfl⟩ := List.head?_eq_some_iff.1 hhead
      exact hreturn w rfl
    rw [unreturned_append (.inl hlast), unreturned_of_not_mem (hline line h),
      unreturned_cons (.inl (by decide))]

/-! ## The first pass -/

/-- What would be no comment by itself makes no line a comment, and none of a comment. -/
theorem isComment_append_of_not (xs : List Char) {ys : List Char} (h : isComment ys = false) :
    isComment (xs ++ ys) = isComment xs := by
  unfold isComment trimStart at *
  induction xs with
  | nil => exact h
  | cons x xs ih =>
    -- blanks decide nothing, and the first other character decides
    rw [List.cons_append, List.dropWhile_cons, List.dropWhile_cons]
    split
    · exact ih
    · rfl

theorem isComment_dropReturn (line : List Char) :
    isComment (lines.dropReturn line).reverse = isComment line.reverse := by
  unfold lines.dropReturn
  split
  · rw [List.reverse_cons, isComment_append_of_not _ (by rfl)]
  · rfl

/-- **The first pass loses a line end at the end**, and what line ends are. There is one to
lose when there is a line and the last one has its end. -/
theorem unreturned_bare_go {line : List Char} (h : '\n' ∉ line) (cs : List Char) :
    (unreturned (bare.go line cs)
        = ((lines.go line cs).filter fun l => !isComment l).flatMap (· ++ ['\n']))
      ∨ ((lines.go line cs).filter fun l => !isComment l) ≠ []
        ∧ unreturned (bare.go line cs)
          = List.intercalate ['\n'] ((lines.go line cs).filter fun l => !isComment l) := by
  induction cs generalizing line with
  | nil =>
    rw [bare.go, lines.go]
    cases line with
    | nil => exact .inl rfl
    | cons c line =>
      rw [List.isEmpty_cons, if_neg Bool.false_ne_true, List.filter_cons, List.filter_nil]
      cases hcomment : isComment (c :: line).reverse
      · refine .inr ⟨List.cons_ne_nil _ _, ?_⟩
        have hline : '\n' ∉ (c :: line).reverse := by rwa [List.mem_reverse]
        exact (unreturned_of_not_mem hline).trans List.intercalate_singleton.symm
      · exact .inl rfl
  | cons c rest ih =>
    by_cases hc : c = '\n'
    · subst hc
      rw [bare_go_newline, lines_go_newline, List.filter_cons, isComment_dropReturn]
      cases hcomment : isComment line.reverse
      · rw [if_neg Bool.false_ne_true, if_pos (by rfl), List.append_assoc]
        show unreturned (line.reverse ++ '\n' :: bare.go [] rest) = _ ∨ _ ∧
          unreturned (line.reverse ++ '\n' :: bare.go [] rest) = _
        rw [unreturned_line h]
        rcases ih List.not_mem_nil with hrest | ⟨hne, hrest⟩
        · refine .inl ?_
          rw [hrest, List.flatMap_cons, List.append_assoc]
          rfl
        · refine .inr ⟨List.cons_ne_nil _ _, ?_⟩
          rw [hrest, List.intercalate_cons_of_ne_nil hne, List.append_assoc]
          rfl
      · exact ih List.not_mem_nil
    · rw [bare_go_cons hc, lines_go_cons hc]
      exact ih (by rw [List.mem_cons, not_or]; exact ⟨fun hn => hc hn.symm, h⟩)

/-- Lines with their ends are lines put together, with one more end. -/
theorem flatMap_newline {ls : List (List Char)} (h : ls ≠ []) :
    ls.flatMap (· ++ ['\n']) = List.intercalate ['\n'] ls ++ ['\n'] := by
  induction ls with
  | nil => exact absurd rfl h
  | cons l ls ih =>
    rw [List.flatMap_cons]
    by_cases hls : ls = []
    · rw [hls, List.intercalate_singleton]
      exact List.append_nil _
    · rw [ih hls, List.intercalate_cons_of_ne_nil hls]
      simp only [List.append_assoc]

/-- **The two ways to take comments out** differ by line ends only. -/
theorem unreturned_bare (cs : List Char) :
    unreturned (bare cs) = withoutComments cs
      ∨ unreturned (bare cs) = withoutComments cs ++ ['\n'] := by
  rcases unreturned_bare_go List.not_mem_nil cs with h | ⟨-, h⟩
  · by_cases hls : ((lines cs).filter fun l => !isComment l) = []
    · refine .inl ?_
      rw [bare, h, withoutComments, hls]
      exact congrArg (List.flatMap (· ++ ['\n'])) hls
    · exact .inr (h.trans (flatMap_newline hls))
  · exact .inl h

/-! ## Blanks at the end -/

/-- Nothing is left of blanks, and of nothing else. -/
theorem trim_eq_nil_iff {cs : List Char} : trim cs = [] ↔ ∀ c ∈ cs, isBlank c = true := by
  refine ⟨fun h => ?_, trim_blanks⟩
  have hend : ∀ c ∈ trimStart cs, isBlank c = true := by
    have hreverse := reverse_trimEnd (trimStart cs)
    rw [← trim, h, List.reverse_nil, eq_comm, trimStart, List.dropWhile_eq_nil_iff] at hreverse
    exact fun c hc => hreverse c (List.mem_reverse.2 hc)
  -- what starts with something not blank is not all blanks
  cases hstart : trimStart cs with
  | nil => exact List.dropWhile_eq_nil_iff.1 hstart
  | cons c rest =>
    have hc : isBlank c = false := isBlank_head?_trimStart (by rw [hstart]; rfl)
    rw [hstart] at hend
    exact absurd (hend c (List.mem_cons_self ..)) (by rw [hc]; exact Bool.false_ne_true)

theorem trim_append_blanks (cs : List Char) {gap : List Char} (h : ∀ c ∈ gap, isBlank c = true) :
    trim (cs ++ gap) = trim cs := by
  by_cases hcs : ∀ c ∈ cs, isBlank c = true
  · rw [trim_blanks hcs, trim_blanks fun c hc => (List.mem_append.1 hc).elim (hcs c) (h c)]
  · -- what is left of the start reaches up to the blanks
    have hstart : trimStart (cs ++ gap) = trimStart cs ++ gap := by
      rw [trimStart, List.dropWhile_append, if_neg]
      · rfl
      · rw [List.isEmpty_iff, List.dropWhile_eq_nil_iff]
        exact hcs
    rw [trim, trim, hstart, trimEnd_append h]

theorem isBlank_lineEnd : (∀ c ∈ ['\n'], isBlank c = true) ∧ ∀ c ∈ ['\r'], isBlank c = true :=
  ⟨List.forall_mem_singleton.2 rfl, List.forall_mem_singleton.2 rfl⟩

/-- Blanks behind the characters of a field go to its end. -/
theorem map_trim_fields_go_blanks (field : List Char) {gap : List Char}
    (h : ∀ c ∈ gap, isBlank c = true) :
    (fields.go field gap).map trim = (fields.go field []).map trim := by
  have hsealed : isSealed gap = true := isSealed_of_forall fun c hc => by
    constructor <;> rintro rfl <;> exact Bool.false_ne_true (h _ hc)
  have hgo := fields_go_append hsealed field []
  rw [List.append_nil] at hgo
  rw [hgo, fields.go, fields.go, List.reverse_append, List.reverse_reverse,
    trim_append_blanks _ h]
  split
  · rfl
  · rw [List.map_singleton, List.map_singleton, trim_append_blanks _ h]

/-- A backslash in front of them takes the first one along. -/
theorem map_trim_fields_go_backslash (field : List Char) {gap : List Char}
    (h : ∀ c ∈ gap, isBlank c = true) :
    (fields.go field ('\\' :: gap)).map trim = (fields.go field ['\\']).map trim := by
  have hlone : fields.go field ['\\'] = fields.go ('\\' :: field) [] := rfl
  cases gap with
  | nil => rfl
  | cons d gap =>
    have hgap := List.forall_mem_cons.1 h
    have hone := map_trim_fields_go_blanks ('\\' :: field) (List.forall_mem_singleton.2 hgap.1)
    have hd : d ≠ '\\' ∧ d ≠ ',' := by
      constructor <;> rintro rfl <;> exact Bool.false_ne_true hgap.1
    have hpair : fields.go field ('\\' :: d :: gap) = fields.go (d :: '\\' :: field) gap := by
      rw [fields.go]
    rw [fields_go_cons hd.1 hd.2] at hone
    rw [hpair, hlone, map_trim_fields_go_blanks _ hgap.2, hone]

/-- **Blanks at the end of a text do not count.** -/
theorem map_trim_fields_append {gap : List Char} (h : ∀ c ∈ gap, isBlank c = true)
    (cs : List Char) : (fields (cs ++ gap)).map trim = (fields cs).map trim := by
  have hgo : ∀ field cs,
      (fields.go field (cs ++ gap)).map trim = (fields.go field cs).map trim := by
    intro field cs
    induction field, cs using fields.go.induct with
    | case1 field => exact map_trim_fields_go_blanks field h
    | case2 field => exact map_trim_fields_go_blanks field h
    | case3 field c rest ih =>
      rw [List.cons_append, List.cons_append, fields.go, fields.go]
      exact ih
    | case4 field rest ih =>
      rw [List.cons_append, fields.go, fields.go, List.map_cons, List.map_cons, ih]
    | case5 field c rest hpair hcomma ih =>
      by_cases hlone : c = '\\' ∧ rest = []
      · obtain ⟨rfl, rfl⟩ := hlone
        exact map_trim_fields_go_backslash field h
      · have hc : c ≠ '\\' := ne_backslash (fun hc hrest => hlone ⟨hc, hrest⟩) hpair
        rw [List.cons_append, fields_go_cons hc hcomma, fields_go_cons hc hcomma, ih]
  exact hgo [] cs

/-- **The fields of a description**, trimmed, from the text with its line ends. -/
theorem map_trim_fields_withoutComments (cs : List Char) :
    (fields (withoutComments cs)).map trim = (fields (unreturned (bare cs))).map trim := by
  rcases unreturned_bare cs with h | h
  · rw [h]
  · rw [h, map_trim_fields_append isBlank_lineEnd.1]

/-- **One more line end at the end** does not count, whatever it takes along. -/
theorem map_trim_fields_newline (cs : List Char) :
    (fields (unreturned (cs ++ ['\n']))).map trim = (fields (unreturned cs)).map trim := by
  by_cases hlast : cs.getLast? = some '\r'
  · obtain ⟨front, rfl⟩ := List.getLast?_eq_some_iff.1 hlast
    have hboth : unreturned (front ++ (['\r'] ++ ['\n'])) = unreturned front ++ ['\n'] :=
      unreturned_append (.inr (by decide))
    have hreturn : unreturned (front ++ ['\r']) = unreturned front ++ ['\r'] :=
      unreturned_append (.inr (by decide))
    rw [List.append_assoc, hboth, hreturn, map_trim_fields_append isBlank_lineEnd.1,
      map_trim_fields_append isBlank_lineEnd.2]
  · have hend : unreturned (cs ++ ['\n']) = unreturned cs ++ ['\n'] :=
      unreturned_append (.inl hlast)
    rw [hend, map_trim_fields_append isBlank_lineEnd.1]

end Teletype.Description
