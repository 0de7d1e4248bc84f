import Teletype.Proofs.Report.Reading

/-!
# Finding a report

A report is looked for in one window. A byte that arrives joins the window, and when the
window is a report the search is over. Otherwise bytes are given up from the front until
what is left can still become one. **No report is missed that way, although it may begin
inside a window that cannot become one, or end inside a window that still can**
(`find_first`).

The first half is what giving up means: a window is given up only as far as it has to be
(`giveUp_spec`), and bytes that cannot become a report with what there is cannot with
more. The second half is about two windows on the same bytes that both can become a
report, one longer than the other (`outline_concat_eq`). Let one more byte make a report
of the shorter one. The outline of the longer one is a beginning of the parts that ends
with the outline of the shorter one, which lacks one part at the most. If the two are
equal the byte makes a report of the longer one as well. Otherwise the outline is moved
by one part against itself, and all parts would have to be the same, but there are
literal bytes and numbers among them.
-/

namespace Teletype

/-- What a search comes to when its input ends: nothing, or the failure there. -/
def Supply.ending {α : Type} (supply : Supply) : Except TerminalError (Option α) :=
  match supply.failure with
  | none => .ok none
  | some e => .error e

namespace ReportShape

/-! ## Two windows on the same bytes -/

/-- A list that is moved against itself holds one thing only. -/
theorem eq_of_cons_eq_concat {α : Type} {a b : α} {l : List α} (h : a :: l = l ++ [b]) :
    ∀ c ∈ a :: l, c = a := by
  induction l generalizing a with
  | nil => simp
  | cons d l ih =>
    rw [List.cons_append, List.cons.injEq] at h
    obtain ⟨rfl, h⟩ := h
    intro c hc
    rcases List.mem_cons.1 hc with rfl | hc
    · rfl
    · exact ih h c hc

/-- A shape with numbers in it, which can be told apart, has literal bytes as well. -/
theorem Clear.exists_literal {parts : List ReportPart} (h : Clear parts)
    (hcount : parts.count .number = 2) : ∃ b, .literal b ∈ parts := by
  by_contra hnone
  have hall : ∀ part ∈ parts, part = .number := by
    intro part hpart
    cases part with
    | literal b => exact absurd ⟨b, hpart⟩ hnone
    | number => rfl
  have hparts : parts = [.number, .number] := by
    rw [List.eq_replicate_of_mem hall, List.count_replicate_self] at hcount
    rw [List.eq_replicate_of_mem hall, hcount]
    rfl
  exact h.apart (hparts ▸ List.infix_refl _)

section

variable {parts : List ReportPart} {before window : List UInt8} {b : UInt8}

/-- **A byte that makes a report of a window makes one of any longer window** that can
still become one. -/
theorem outline_concat_eq (hnumber : .number ∈ parts) {c : UInt8} (hliteral : .literal c ∈ parts)
    (hlong : outline (before ++ window) <+: parts) (hshort : outline (window ++ [b]) = parts) :
    outline (before ++ (window ++ [b])) = parts := by
  have hwindow : outline window <+: parts := hshort ▸ outline_prefix_append window [b]
  have hsuffix := outline_suffix_append before window
  have hlength : parts.length ≤ (outline window).length + 1 :=
    hshort ▸ length_outline_concat window b
  by_cases heq : (outline window).length = (outline (before ++ window)).length
  · rw [outline_append_cancel (hsuffix.eq_of_length heq).symm, hshort]
  · -- the longer window has all parts in its outline already, the shorter all but one
    exfalso
    have hlt := Nat.lt_of_le_of_ne hsuffix.length_le heq
    have hall : outline (before ++ window) = parts :=
      hlong.eq_of_length (Nat.le_antisymm hlong.length_le (Nat.le_trans hlength hlt))
    rw [hall] at hsuffix hlt
    obtain ⟨front, hfront⟩ := hsuffix
    obtain ⟨behind, hbehind⟩ := hwindow
    have hone : front.length = 1 ∧ behind.length = 1 := by
      have h₁ := congrArg List.length hfront
      have h₂ := congrArg List.length hbehind
      rw [List.length_append] at h₁ h₂
      omega
    obtain ⟨first, rfl⟩ := List.length_eq_one_iff.1 hone.1
    obtain ⟨last, rfl⟩ := List.length_eq_one_iff.1 hone.2
    have hsame : ∀ part ∈ parts, part = first :=
      hfront ▸ eq_of_cons_eq_concat (hfront.trans hbehind.symm)
    exact absurd ((hsame _ hnumber).trans (hsame _ hliteral).symm) (by simp)

end

/-! ## Giving up -/

/-- **Bytes are given up as far as they have to be**: what is left can still become a
report, and with any of the bytes just given up in front of it, it could not. -/
theorem giveUp_spec {shape : ReportShape} (hclear : Clear shape.parts)
    (dropped window : List UInt8) :
    ∃ front, (giveUp shape dropped window).dropped = dropped ++ front
      ∧ window = front ++ (giveUp shape dropped window).held
      ∧ outline (giveUp shape dropped window).held <+: shape.parts
      ∧ ∀ before, before <:+ front → before ≠ [] →
          ¬ outline (before ++ (giveUp shape dropped window).held) <+: shape.parts := by
  induction window generalizing dropped with
  | nil =>
    refine ⟨[], (List.append_nil _).symm, rfl, List.nil_prefix, fun before hbefore hne => ?_⟩
    exact absurd (List.suffix_nil.1 hbefore) hne
  | cons b window ih =>
    rw [giveUp]
    split
    · next hcould =>
      refine ⟨[], (List.append_nil _).symm, rfl, (couldBecome_iff hclear).1 hcould,
        fun before hbefore hne => ?_⟩
      exact absurd (List.suffix_nil.1 hbefore) hne
    · next hcould =>
      obtain ⟨front, hdropped, hwindow, hheld, hfront⟩ := ih (dropped ++ [b])
      refine ⟨b :: front, by simpa using hdropped, by rw [List.cons_append, ← hwindow], hheld,
        fun before hbefore hne => ?_⟩
      rcases List.suffix_cons_iff.1 hbefore with rfl | hbefore
      · rw [List.cons_append, ← hwindow]
        exact fun hbegins => hcould ((couldBecome_iff hclear).2 hbegins)
      · exact hfront before hbefore hne

/-! ## The search -/

/-- Whether bytes are a report, of whatever cursor. -/
def IsReport (shape : ReportShape) (bytes : List UInt8) : Prop :=
  ∃ cursor, shape.Reports bytes cursor

/-- **The first report in some bytes**: the one that ends first, and of those that end
there the one that begins first. -/
structure FirstReport (shape : ReportShape) (bytes before report behind : List UInt8) : Prop where
  /-- It stands among the bytes. -/
  split : bytes = before ++ report ++ behind
  /-- It is a report. -/
  isReport : shape.IsReport report
  /-- No other ends before it. -/
  earliest : ∀ before' report' behind', bytes = before' ++ report' ++ behind' →
    shape.IsReport report' → (before ++ report).length ≤ (before' ++ report').length
  /-- None that ends where it does begins before it. -/
  leftmost : ∀ before' report', before ++ report = before' ++ report' →
    shape.IsReport report' → before.length ≤ before'.length

/-- **How a search stands to the bytes it has seen**: they are those given up and those
held, there is no report among them, and the bytes held are as many as can still become
one. -/
structure Searching (shape : ReportShape) (seen : List UInt8) (s : Search) : Prop where
  /-- Every byte is accounted for. -/
  split : seen = s.dropped ++ s.held
  /-- Nothing has been found. -/
  none : ∀ report, report <:+: seen → ¬ shape.IsReport report
  /-- What is held can become a report. -/
  held : outline s.held <+: shape.parts
  /-- Nothing longer can. -/
  longest : ∀ before, before <:+ s.dropped → before ≠ [] →
    ¬ outline (before ++ s.held) <+: shape.parts

/-- What a template describes has two numbers. -/
theorem count_of_ofTemplate? {template : String} {shape : ReportShape}
    (h : ofTemplate? template = some shape) : shape.parts.count .number = 2 := by
  simp only [ofTemplate?, Option.bind_eq_bind, Option.bind_eq_some_iff] at h
  obtain ⟨⟨parts, oneBased⟩, -, h⟩ := h
  split at h
  · next hcount => exact Option.some.inj h ▸ hcount
  · cases h

/-- Each number in the parts has its digits. -/
theorem Spells.length_fields {parts : List ReportPart} {bytes : List UInt8}
    {fields : List (List UInt8)} (h : Spells parts bytes fields) :
    fields.length = parts.count .number := by
  induction h with
  | nil => rfl
  | literal b _ ih => rw [ih, List.count_cons_of_ne (by simp)]
  | number _ _ _ ih => rw [List.length_cons, ih, List.count_cons_self]

/-- An end of two lists one behind the other lies in the second, or reaches into the
first. -/
theorem suffix_append_cases {α : Type} {l front rest : List α} (h : l <:+ front ++ rest) :
    l <:+ rest ∨ ∃ before, before ≠ [] ∧ before <:+ front ∧ l = before ++ rest := by
  rcases List.suffix_or_suffix_of_suffix h (List.suffix_append front rest) with h' | ⟨before, rfl⟩
  · exact .inl h'
  · by_cases hne : before = []
    · exact .inl (hne ▸ List.suffix_refl rest)
    · exact .inr ⟨before, hne, ((List.suffix_append_inj_of_length_eq rfl).1 h).1, rfl⟩

section

variable {shape : ReportShape} {seen : List UInt8} {s : Search} {b : UInt8}

/-! What one request does: it comes upon the end, the byte makes a report, or the search
goes on. -/

theorem runOn_await_nil {supply : Supply} (h : supply.bytes = []) (requests : Nat) :
    (shape.await Supply.next (requests + 1) s).runOn supply = (supply.ending, supply) := by
  obtain ⟨bytes, failure⟩ := supply
  obtain rfl : bytes = [] := h
  cases failure <;> rfl

theorem runOn_await_cons {supply : Supply} {rest : List UInt8} (h : supply.bytes = b :: rest)
    (requests : Nat) :
    (shape.await Supply.next (requests + 1) s).runOn supply =
      match s.push shape b with
      | .inl found => (.ok (some found), { supply with bytes := rest })
      | .inr s => (shape.await Supply.next requests s).runOn { supply with bytes := rest } := by
  obtain ⟨bytes, failure⟩ := supply
  obtain rfl : bytes = b :: rest := h
  rw [await, Action.runOn_bind]
  show (match s.push shape b with
    | .inl found => (pure (some found) : Action Supply _)
    | .inr s => shape.await Supply.next requests s).runOn _ = _
  cases s.push shape b <;> rfl

variable (hclear : Clear shape.parts) (hcount : shape.parts.count .number = 2)

include hclear hcount

/-- **Bytes are a report when their outline is the parts.** -/
theorem isReport_iff {bytes : List UInt8} : shape.IsReport bytes ↔ outline bytes = shape.parts := by
  rw [← exists_spells_iff hclear]
  constructor
  · rintro ⟨_, row, column, h, -⟩
    exact ⟨_, h⟩
  · rintro ⟨fields, h⟩
    obtain ⟨row, column, rfl⟩ := List.length_eq_two.1 (h.length_fields.trans hcount)
    exact ⟨_, row, column, h, rfl⟩

/-- Nothing is no report. -/
theorem not_isReport_nil : ¬ shape.IsReport [] := by
  rw [isReport_iff hclear hcount]
  intro h
  rw [← h] at hcount
  exact absurd hcount (by decide)

/-- Before the first byte the search stands as it should. -/
theorem Searching.start : Searching shape [] {} where
  split := rfl
  none _ h := List.infix_nil.1 h ▸ not_isReport_nil hclear hcount
  held := List.nil_prefix
  longest _ h hne := absurd (List.suffix_nil.1 h) hne

/-- **The report found is the first.** -/
theorem Searching.found (hs : Searching shape seen s) (hreport : shape.IsReport (s.held ++ [b]))
    (behind : List UInt8) :
    FirstReport shape (seen ++ b :: behind) s.dropped (s.held ++ [b]) behind where
  split := by simp [hs.split]
  isReport := hreport
  earliest before' report' behind' hsplit hreport' := by
    by_contra hlt
    have hbegins : before' ++ report' <+: seen := by
      refine List.prefix_of_prefix_length_le ⟨behind', hsplit.symm⟩ (List.prefix_append _ _) ?_
      rw [hs.split]
      simp only [List.length_append, List.length_singleton] at hlt ⊢
      omega
    exact hs.none report' ((List.suffix_append before' report').isInfix.trans hbegins.isInfix)
      hreport'
  leftmost before' report' hsplit hreport' := by
    rcases suffix_append_cases (hsplit ▸ List.suffix_append before' report') with
      h | ⟨x, hne, hx, rfl⟩
    · have := congrArg List.length hsplit
      have := h.length_le
      simp only [List.length_append] at *
      omega
    · refine absurd ?_ (hs.longest x hx hne)
      rw [isReport_iff hclear hcount, ← List.append_assoc] at hreport'
      exact hreport' ▸ outline_prefix_append (x ++ s.held) [b]

/-- **A byte that makes no report leaves the search as it should stand.** -/
theorem Searching.giveUp (hs : Searching shape seen s) (hno : ¬ shape.IsReport (s.held ++ [b])) :
    Searching shape (seen ++ [b]) (giveUp shape s.dropped (s.held ++ [b])) := by
  obtain ⟨front, hdropped, hwindow, hheld, hfront⟩ := giveUp_spec hclear s.dropped (s.held ++ [b])
  refine ⟨?_, fun report hwithin hreport => ?_, hheld, fun before hbefore hne => ?_⟩
  · rw [hdropped, List.append_assoc, ← hwindow, ← List.append_assoc, hs.split]
  · rcases List.infix_concat_iff.1 hwithin with hsuffix | hwithin
    · rcases List.suffix_concat_iff.1 hsuffix with rfl | ⟨window, rfl, hseen⟩
      · exact not_isReport_nil hclear hcount hreport
      · -- what would be a report now could become one before, so that it is among the bytes held
        rw [isReport_iff hclear hcount] at hreport hno
        have hwindow : outline window <+: shape.parts := hreport ▸ outline_prefix_append window [b]
        rcases suffix_append_cases (hs.split ▸ hseen) with
          ⟨before, hbefore⟩ | ⟨before, hne, hbefore, rfl⟩
        · obtain ⟨c, hc⟩ := hclear.exists_literal hcount
          have hnumber : ReportPart.number ∈ shape.parts :=
            List.count_pos_iff.1 (by rw [hcount]; decide)
          refine hno ?_
          rw [← hbefore, List.append_assoc]
          exact outline_concat_eq hnumber hc (hbefore ▸ hs.held) hreport
        · exact hs.longest before hbefore hne hwindow
    · exact hs.none report hwithin hreport
  · rw [hdropped] at hbefore
    rcases suffix_append_cases hbefore with hbefore | ⟨x, hx, hsuffix, rfl⟩
    · exact hfront before hbefore hne
    · rw [List.append_assoc, ← hwindow, ← List.append_assoc]
      exact fun hbegins => hs.longest x hsuffix hx ((outline_prefix_append _ [b]).trans hbegins)

/-- **A search run to its end** comes upon the first report among all bytes, or has gone
through them without one. -/
theorem Searching.runOn_await (hs : Searching shape seen s) {supply : Supply}
    (hruns : ShortRuns (seen ++ supply.bytes)) {requests : Nat}
    (hrequests : supply.bytes.length < requests) :
    (∃ before report behind cursor,
      FirstReport shape (seen ++ supply.bytes) before report behind
        ∧ shape.Reports report cursor
        ∧ (shape.await Supply.next requests s).runOn supply
            = (.ok (some (cursor, before)), { supply with bytes := behind }))
    ∨ ((∀ part, part <:+: seen ++ supply.bytes → ¬ shape.IsReport part)
        ∧ (shape.await Supply.next requests s).runOn supply
            = (supply.ending, { supply with bytes := [] })) := by
  induction requests generalizing seen s supply with
  | zero => exact absurd hrequests (Nat.not_lt_zero _)
  | succ requests ih =>
    cases hbytes : supply.bytes with
    | nil =>
      refine .inr ⟨by rw [List.append_nil]; exact hs.none, ?_⟩
      rw [runOn_await_nil hbytes, ← hbytes]
    | cons b rest =>
      rw [runOn_await_cons hbytes, Search.push]
      rw [hbytes] at hruns hrequests
      have hwindow : s.held ++ [b] <:+: seen ++ b :: rest :=
        ⟨s.dropped, rest, by simp [hs.split]⟩
      have hcursor : ∀ cursor, shape.cursor? (s.held ++ [b]) = some cursor
          ↔ shape.Reports (s.held ++ [b]) cursor :=
        fun _ => cursor?_eq_some_iff hclear (hruns.of_infix hwindow)
      cases hfound : shape.cursor? (s.held ++ [b]) with
      | some cursor =>
        have hreports := (hcursor cursor).1 hfound
        exact .inl ⟨s.dropped, s.held ++ [b], rest, cursor,
          hs.found hclear hcount ⟨cursor, hreports⟩ rest, hreports, rfl⟩
      | none =>
        have hno : ¬ shape.IsReport (s.held ++ [b]) := by
          rintro ⟨cursor, hreports⟩
          exact Option.some_ne_none cursor (((hcursor cursor).2 hreports).symm.trans hfound)
        have hseen : seen ++ [b] ++ rest = seen ++ b :: rest := List.append_assoc ..
        rw [← hseen] at hruns ⊢
        exact @ih _ _ (hs.giveUp hclear hcount hno) { supply with bytes := rest } hruns
          (Nat.lt_of_succ_lt_succ hrequests)

end

/-- **A search finds the first report, and accounts for every byte.** If there is a
report among the bytes, it takes them up to the end of the first one, tells the cursor of
that, and hands back the bytes before it, in order. Otherwise it takes all bytes, and
comes to the end of input or to the failure there, with nothing handed back. -/
theorem find_first {template : String} {shape : ReportShape}
    (htemplate : ofTemplate? template = some shape) (hclear : Clear shape.parts)
    (supply : Supply) (hruns : ShortRuns supply.bytes) :
    ((∃ part, part <:+: supply.bytes ∧ shape.IsReport part) →
      ∃ before report behind cursor, FirstReport shape supply.bytes before report behind
        ∧ shape.Reports report cursor
        ∧ shape.find.runOn supply
            = (.ok (some (cursor, before)), { supply with bytes := behind }))
    ∧ ((∀ part, part <:+: supply.bytes → ¬ shape.IsReport part) →
      shape.find.runOn supply = (supply.ending, { supply with bytes := [] })) := by
  have hcount := count_of_ofTemplate? htemplate
  have hruns' : ShortRuns ([] ++ supply.bytes) := hruns
  have hrun := (Searching.start hclear hcount).runOn_await hclear hcount hruns' (Nat.lt_succ_self _)
  rw [List.nil_append] at hrun
  have hfind : shape.find.runOn supply
      = (shape.await Supply.next (supply.bytes.length + 1) {}).runOn supply := rfl
  rw [hfind]
  refine ⟨?_, fun hnone => ?_⟩
  · rintro ⟨part, hwithin, hpart⟩
    rcases hrun with hfound | ⟨hnone, -⟩
    · exact hfound
    · exact absurd hpart (hnone part hwithin)
  · rcases hrun with ⟨before, report, behind, -, hfirst, -, -⟩ | ⟨-, hend⟩
    · refine absurd hfirst.isReport (hnone report ⟨before, behind, ?_⟩)
      exact hfirst.split.symm
    · exact hend

/-- The shape of the reports of an ANSI terminal. -/
def ansi : ReportShape where
  parts := [.literal 0x1b, .literal 0x5b, .number, .literal 0x3b, .number, .literal 0x52]
  oneBased := true

/-- The beginning of a report that does not go on as one, and a report. -/
def falseStart : List UInt8 := [0x1b, 0x5b, 0x78, 0x1b, 0x5b, 0x31, 0x32, 0x3b, 0x34, 0x30, 0x52]

theorem find_first_falseStart :
    ofTemplate? "\\E[%i%d;%dR" = some ansi ∧ Clear ansi.parts ∧ ShortRuns falseStart
      ∧ ∃ before report behind cursor, FirstReport ansi falseStart before report behind
        ∧ ansi.Reports report cursor
        ∧ ansi.find.runOn ⟨falseStart, none⟩ = (.ok (some (cursor, before)), ⟨behind, none⟩) := by
  have htemplate : ofTemplate? "\\E[%i%d;%dR" = some ansi := by decide
  have hclear : Clear ansi.parts := by
    refine ⟨fun b hb => ?_, by decide⟩
    simp only [ansi, List.mem_cons, ReportPart.literal.injEq, reduceCtorEq, false_or, or_false,
      List.not_mem_nil] at hb
    rcases hb with rfl | rfl | rfl | rfl <;> rfl
  have hruns : ShortRuns falseStart := fun digits hdigits _ =>
    Nat.le_trans hdigits.length_le (Nat.le_of_ble_eq_true rfl)
  have hspells : Spells ansi.parts [0x1b, 0x5b, 0x31, 0x32, 0x3b, 0x34, 0x30, 0x52]
      [[0x31, 0x32], [0x34, 0x30]] :=
    .literal 0x1b (.literal 0x5b (.cons_digit rfl (.single
      (.literal 0x3b (.cons_digit rfl (.single (.literal 0x52 .nil) rfl))) rfl)))
  exact ⟨htemplate, hclear, hruns, (find_first htemplate hclear ⟨falseStart, none⟩ hruns).1
    ⟨_, ⟨[0x1b, 0x5b, 0x78], [], rfl⟩, _, _, _, hspells, rfl⟩⟩

/-! ## What the search goes by -/

/-- **The walk and the reader decide about words.** The walk along the parts finds out whether
some more bytes, or none, make a word of the shape. Where runs of digits are short, the reader
finds a cursor in the words and in nothing else. -/
theorem couldMatch_exact {template : String} {shape : ReportShape}
    (htemplate : ofTemplate? template = some shape) (hclear : Clear shape.parts)
    (bytes : List UInt8) :
    (shape.couldMatch bytes = true ↔ ∃ more fields, Spells shape.parts (bytes ++ more) fields)
    ∧ (ShortRuns bytes →
      ((shape.cursor? bytes).isSome = true ↔ ∃ fields, Spells shape.parts bytes fields)) := by
  have hcount := count_of_ofTemplate? htemplate
  refine ⟨couldBecome_iff_exists hclear, fun hruns => ?_⟩
  rw [exists_spells_iff hclear, ← isReport_iff hclear hcount, Option.isSome_iff_exists]
  exact exists_congr fun _ => cursor?_eq_some_iff hclear hruns

/-- The shape of reports that are nothing but two numbers, with a semicolon between them. -/
def numbers : ReportShape where
  parts := [.number, .literal 0x3b, .number]
  oneBased := false

/-- The row `12` and the semicolon: a column is still to come. -/
theorem couldMatch_exact_rowOnly :
    ofTemplate? "%d;%d" = some numbers ∧ Clear numbers.parts ∧ ShortRuns [0x31, 0x32, 0x3b]
      ∧ (∃ more fields, Spells numbers.parts ([0x31, 0x32, 0x3b] ++ more) fields)
      ∧ ¬ ∃ fields, Spells numbers.parts [0x31, 0x32, 0x3b] fields := by
  have htemplate : ofTemplate? "%d;%d" = some numbers := by decide
  have hclear : Clear numbers.parts := by
    refine ⟨fun b hb => ?_, by decide⟩
    simp only [numbers, List.mem_cons, ReportPart.literal.injEq, reduceCtorEq, false_or, or_false,
      List.not_mem_nil] at hb
    rw [hb]
    rfl
  have hruns : ShortRuns [0x31, 0x32, 0x3b] := fun digits hdigits _ =>
    Nat.le_trans hdigits.length_le (Nat.le_of_ble_eq_true rfl)
  obtain ⟨hwalk, hreader⟩ := couldMatch_exact htemplate hclear [0x31, 0x32, 0x3b]
  exact ⟨htemplate, hclear, hruns, hwalk.1 (by decide),
    fun hword => absurd ((hreader hruns).2 hword) (by decide)⟩

end ReportShape

end Teletype
