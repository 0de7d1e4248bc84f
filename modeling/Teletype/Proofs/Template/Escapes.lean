import Mathlib.Data.List.Basic
import Mathlib.Tactic.ByContra
import Teletype.Proofs.Template.Tree

/-!
# Texts without operators

A text in which no operator and no padding starts (`Plain`) has nothing in it but escapes and
bytes that stand for themselves. Expanding it resolves the escapes and does nothing else, so it
must come to what `unescape` makes of the text. The two are written apart, and they treat the
end of a text in their own ways: an escape that is cut off there, a caret or a percent sign that
nothing follows. That they agree is shown piece by piece, along the recursion of `unescape`
(`run_plain`).

A text in front of a template is another matter. What is cut off at its end would go on in the
template: a backslash or a caret takes the next byte, an octal number of fewer than three digits
takes a digit, and a dollar sign makes padding of a `<`. **A text whose escapes are all there
(`Whole`), and which does not end in a dollar sign, leaves the template behind it alone**
(`run_whole_append`). The run then arrives at the template with some bytes written, which
nothing in the template can see (`run_behind`). Both together are `expand?_unescape`.
-/

namespace Teletype.Template

/-! ## What has been written cannot be seen -/

namespace State

/-- The state with bytes written before everything else. -/
def behind (written : List UInt8) (st : State) : State := { st with out := written ++ st.out }

@[simp] theorem write_nil (st : State) : st.write [] = st := by
  rw [write, List.append_nil]

@[simp] theorem write_write (st : State) (bytes more : List UInt8) :
    (st.write bytes).write more = st.write (bytes ++ more) := by
  simp only [write, List.append_assoc]

theorem behind_write (written : List UInt8) (st : State) (bytes : List UInt8) :
    (st.behind written).write bytes = (st.write bytes).behind written := by
  simp only [write, behind, List.append_assoc]

theorem start_write (params : List Param) (bytes : List UInt8) :
    (start params).write bytes = (start params).behind bytes := by
  simp [write, behind, start]

end State

section

variable (written : List UInt8) (op : Op) (st : State)

theorem Op.exec?_behind :
    op.exec? (st.behind written) = (op.exec? st).map (State.behind written) := by
  cases op with
  | emit b => exact congrArg some (st.behind_write written [b])
  | emitTop => exact congrArg some (st.drop.behind_write written _)
  | oneBased =>
    show (st.behind written).countFromOne? = st.countFromOne?.map _
    unfold State.countFromOne?
    show ((st.params 0).succ?.bind fun first => (st.params 1).succ?.bind fun second => some _)
      = ((st.params 0).succ?.bind fun first => (st.params 1).succ?.bind fun second => some _).map _
    cases (st.params 0).succ? <;> cases (st.params 1).succ? <;> rfl
  | binary op =>
    show (op.value? st.drop.top.toInt st.top.toInt).map _
      = ((op.value? st.drop.top.toInt st.top.toInt).map _).map _
    cases op.value? st.drop.top.toInt st.top.toInt <;> rfl
  | convert c =>
    show (c.render? st.top).map _ = ((c.render? st.top).map _).map _
    cases c.render? st.top with
    | none => rfl
    | some cs => exact congrArg some (st.drop.behind_write written _)
  | nothing | unreadable | push i | store name | load name | constant n | length | not
  | complement | branch | otherwise => rfl

theorem Op.next_behind (rest : List UInt8) :
    op.next (st.behind written) rest = op.next st rest := by
  cases op <;> rfl

theorem run_cons (b : UInt8) (bytes : List UInt8) :
    run st (b :: bytes) = ((piece b bytes).1.exec? st).bind fun after =>
      run after ((piece b bytes).1.next st (piece b bytes).2) :=
  run_of_piece (Prod.eta _).symm st

/-- **A run takes no notice of what has been written**, and leaves it in front. -/
theorem run_behind (template : List UInt8) :
    run (st.behind written) template = (run st template).map (State.behind written) := by
  induction st, template using run.induct with
  | case1 st => rw [run, run, Option.map_some]
  | case2 st b rest hnone =>
    rw [run_cons, run_cons, Op.exec?_behind, hnone]
    rfl
  | case3 st b rest after hafter ih =>
    rw [run_cons, run_cons, Op.exec?_behind, hafter]
    simp only [Option.map_some, Option.bind_some, Op.next_behind]
    exact ih

end

/-! ## Pieces that are written -/

section

variable {b : UInt8} {bytes rest : List UInt8}

/-- A byte that starts nothing is a piece of its own. -/
theorem piece_of_starts_nothing (hbackslash : b ≠ 0x5c) (hcaret : b ≠ 0x5e)
    (hpercent : b = 0x25 → rest = []) (hpadding : b = 0x24 → rest.head? ≠ some 0x3c) :
    piece b rest = (.emit b, rest) := by
  by_cases hlast : b = 0x25
  · rw [hpercent hlast, hlast]
    rfl
  by_cases hdollar : b = 0x24
  · rw [hdollar]
    cases rest with
    | nil => rfl
    | cons c rest =>
      have hc : (c == 0x3c) = false :=
        beq_eq_false_iff_ne.2 fun h => hpadding hdollar (congrArg some h)
      show (if c == 0x3c then _ else _) = _
      rw [hc]
      rfl
  · exact Token.piece_literal (by simp [isLiteral, hlast, hbackslash, hcaret, hdollar]) rest

theorem piece_backslash (bytes : List UInt8) :
    piece 0x5c bytes = (.emit (escape bytes).1, (escape bytes).2) := rfl

theorem piece_caret (c : UInt8) (rest : List UInt8) :
    piece 0x5e (c :: rest) = (.emit (caretByte c), rest) := rfl

/-- The run writes the byte and goes on. -/
theorem run_of_emit {c : UInt8} (h : piece b bytes = (.emit c, rest)) (st : State) :
    run st (b :: bytes) = run (st.write [c]) rest :=
  run_of_piece h st

theorem unescape_of_ne (hbackslash : b ≠ 0x5c) (hcaret : b ≠ 0x5e) (rest : List UInt8) :
    unescape (b :: rest) = b :: unescape rest := by
  rw [unescape.eq_def]
  simp only [beq_iff_eq, hbackslash, hcaret, if_false]

theorem unescape_backslash (rest : List UInt8) :
    unescape (0x5c :: rest) = (escape rest).1 :: unescape (escape rest).2 := by
  rw [unescape.eq_def]
  rfl

theorem unescape_caret (c : UInt8) (rest : List UInt8) :
    unescape (0x5e :: c :: rest) = caretByte c :: unescape rest := by
  rw [unescape.eq_def]
  rfl

theorem octal_suffix (more value : Nat) (rest : List UInt8) :
    (octal more value rest).2 <:+ rest := by
  induction more generalizing value rest with
  | zero => exact List.suffix_refl rest
  | succ more ih =>
    cases rest with
    | nil => exact List.suffix_refl []
    | cons b rest =>
      unfold octal
      split
      · exact (ih ..).trans (List.suffix_cons b rest)
      · exact List.suffix_refl _

/-- What an escape leaves is an end of what followed the backslash. -/
theorem escape_suffix (rest : List UInt8) : (escape rest).2 <:+ rest := by
  cases rest with
  | nil => exact List.suffix_refl []
  | cons b rest =>
    simp only [escape]
    split
    · exact (octal_suffix ..).trans (List.suffix_cons b rest)
    · exact List.suffix_cons b rest

end

/-! ## Plain texts -/

/-- **A text in which no operator and no padding starts.** -/
structure Plain (text : List UInt8) : Prop where
  /-- A percent sign stands at the end, if anywhere, and nothing follows it there. -/
  percent : 0x25 ∉ text.dropLast
  /-- No dollar sign is followed by a `<`. -/
  padding : ¬ [0x24, 0x3c] <:+: text

section

variable {text rest : List UInt8} {b : UInt8}

theorem Plain.of_suffix (h : Plain text) (hrest : rest <:+ text) : Plain rest where
  percent hmem := by
    obtain ⟨front, rfl⟩ := hrest
    have hne : rest ≠ [] := by
      rintro rfl
      exact List.not_mem_nil hmem
    refine h.percent ?_
    rw [List.dropLast_append_of_ne_nil hne]
    exact List.mem_append_right front hmem
  padding hpart := h.padding (hpart.trans hrest.isInfix)

theorem Plain.percent_last (h : Plain (b :: rest)) (hb : b = 0x25) : rest = [] := by
  by_contra hne
  refine h.percent ?_
  rw [List.dropLast_cons_of_ne_nil hne, hb]
  exact List.mem_cons_self

/-- What follows a dollar sign where there is no padding. -/
theorem head?_ne_of_padding (h : ¬ [0x24, 0x3c] <:+: b :: rest) (hb : b = 0x24) :
    rest.head? ≠ some 0x3c := by
  intro hhead
  obtain ⟨behind, rfl⟩ := List.head?_eq_some_iff.1 hhead
  exact h ⟨[], behind, by rw [hb]; rfl⟩

/-- **A run over a plain text writes what its escapes stand for**, and does nothing else. -/
theorem run_plain (h : Plain text) (st : State) :
    run st text = some (st.write (unescape text)) := by
  induction text using unescape.induct generalizing st with
  | case1 =>
    rw [run, unescape, State.write_nil]
  | case2 b rest hb ih =>
    obtain rfl : b = 0x5c := beq_iff_eq.1 hb
    have hleft := h.of_suffix ((escape_suffix rest).trans (List.suffix_cons _ rest))
    rw [unescape_backslash, run_of_emit (piece_backslash rest), ih hleft, State.write_write]
    rfl
  | case3 b hb hcaret =>
    obtain rfl : b = 0x5e := beq_iff_eq.1 hcaret
    have hpiece : piece 0x5e [] = (.emit 0x5e, []) := rfl
    rw [run_of_emit hpiece, run, unescape.eq_def]
    rfl
  | case4 b hb hcaret c rest ih =>
    obtain rfl : b = 0x5e := beq_iff_eq.1 hcaret
    have hrest : Plain rest := h.of_suffix ⟨[0x5e, c], rfl⟩
    rw [unescape_caret, run_of_emit (piece_caret c rest), ih hrest, State.write_write]
    rfl
  | case5 b rest hb hcaret ih =>
    rw [beq_iff_eq] at hb hcaret
    have hpiece := piece_of_starts_nothing hb hcaret h.percent_last
      (head?_ne_of_padding h.padding)
    rw [unescape_of_ne hb hcaret, run_of_emit hpiece, ih (h.of_suffix (List.suffix_cons b rest)),
      State.write_write]
    rfl

end

/-! ## Texts whose escapes are all there -/

/-- Whether a byte is an octal digit. -/
def isOctal (b : UInt8) : Bool := (octalDigit? b).isSome

/-- **A text in which no escape is cut off at the end.** -/
inductive Whole : List UInt8 → Prop
  | nil : Whole []
  /-- A byte that starts no escape. -/
  | byte {b : UInt8} {rest : List UInt8} (hbackslash : b ≠ 0x5c) (hcaret : b ≠ 0x5e) :
      Whole rest → Whole (b :: rest)
  /-- A caret has a byte behind it. -/
  | caret {b : UInt8} {rest : List UInt8} : Whole rest → Whole (0x5e :: b :: rest)
  /-- A backslash has a byte behind it, and the escape is over unless that is an octal digit. -/
  | named {b : UInt8} {rest : List UInt8} (hb : isOctal b = false) :
      Whole rest → Whole (0x5c :: b :: rest)
  /-- An octal number has three digits, or fewer and a byte behind them that is none. -/
  | octal {digits rest : List UInt8} (hne : digits ≠ [])
      (hdigits : ∀ d ∈ digits, isOctal d = true)
      (hover : digits.length = 3 ∨ digits.length < 3 ∧ ∃ c ∈ rest.head?, isOctal c = false) :
      Whole rest → Whole (0x5c :: (digits ++ rest))

section

variable {digits text rest : List UInt8} {b : UInt8}

/-- An octal number that is over is read the same whatever follows it. -/
theorem exists_octal_append (hdigits : ∀ d ∈ digits, isOctal d = true) {more : Nat} (value : Nat)
    (hlength : digits.length ≤ more) :
    ∃ n, ∀ rest : List UInt8, digits.length = more ∨ (∃ c ∈ rest.head?, isOctal c = false) →
      octal more value (digits ++ rest) = (n, rest) := by
  induction digits generalizing more value with
  | nil =>
    refine ⟨value, fun rest hover => ?_⟩
    cases more with
    | zero => rfl
    | succ more =>
      obtain ⟨c, hc, hnone⟩ := hover.resolve_left (by simp)
      obtain ⟨behind, rfl⟩ := List.head?_eq_some_iff.1 hc
      have hnone : octalDigit? c = none :=
        Option.isNone_iff_eq_none.1 (Option.isSome_eq_false_iff.1 hnone)
      rw [List.nil_append, octal, hnone]
  | cons d digits ih =>
    obtain ⟨v, hv⟩ := Option.isSome_iff_exists.1 (hdigits d List.mem_cons_self)
    obtain ⟨more, rfl⟩ : ∃ m, more = m + 1 :=
      Nat.exists_eq_add_one.2 (Nat.lt_of_lt_of_le (Nat.succ_pos _) hlength)
    obtain ⟨n, hn⟩ := ih (fun e he => hdigits e (List.mem_cons_of_mem d he)) (value * 8 + v)
      (Nat.le_of_succ_le_succ hlength)
    refine ⟨n, fun rest hover => ?_⟩
    rw [List.cons_append, octal, hv]
    exact hn rest (hover.imp_left Nat.succ.inj)

/-- **An octal escape that is over** stands for the same byte whatever follows it. -/
theorem exists_escape_append (hne : digits ≠ []) (hdigits : ∀ d ∈ digits, isOctal d = true)
    (hlength : digits.length ≤ 3) :
    ∃ byte, ∀ rest : List UInt8, digits.length = 3 ∨ (∃ c ∈ rest.head?, isOctal c = false) →
      escape (digits ++ rest) = (byte, rest) := by
  obtain ⟨d, digits, rfl⟩ := List.exists_cons_of_ne_nil hne
  obtain ⟨v, hv⟩ := Option.isSome_iff_exists.1 (hdigits d List.mem_cons_self)
  obtain ⟨n, hn⟩ := exists_octal_append (fun e he => hdigits e (List.mem_cons_of_mem d he)) v
    (Nat.le_of_succ_le_succ hlength)
  refine ⟨octalByte n, fun rest hover => ?_⟩
  rw [List.cons_append, escape, hv]
  simp only [hn rest (hover.imp_left Nat.succ.inj)]

/-- **A text that leaves alone what stands behind it**, as far as operators and padding go. -/
structure Detached (text : List UInt8) : Prop where
  /-- There is no percent sign. -/
  percent : 0x25 ∉ text
  /-- No dollar sign is followed by a `<`. -/
  padding : ¬ [0x24, 0x3c] <:+: text
  /-- None is at the end. -/
  dollar : text.getLast? ≠ some 0x24

theorem Detached.of_suffix (h : Detached text) (hrest : rest <:+ text) : Detached rest where
  percent hmem := h.percent (hrest.mem hmem)
  padding hpart := h.padding (hpart.trans hrest.isInfix)
  dollar hlast := by
    obtain ⟨front, rfl⟩ := hrest
    refine h.dollar ?_
    rw [List.getLast?_append, hlast]
    rfl

/-- **A run over a whole text arrives at what stands behind it**, with what the text stands for
written. -/
theorem run_whole_append (hwhole : Whole text) (h : Detached text) (st : State)
    (template : List UInt8) :
    run st (text ++ template) = run (st.write (unescape text)) template := by
  induction hwhole generalizing st with
  | nil => rw [unescape, State.write_nil, List.nil_append]
  | @byte b rest hbackslash hcaret _ ih =>
    have hpiece : piece b (rest ++ template) = (.emit b, rest ++ template) := by
      refine piece_of_starts_nothing hbackslash hcaret ?_ fun hb => ?_
      · rintro rfl
        exact absurd List.mem_cons_self h.percent
      · -- the dollar sign has a byte of its own text behind it
        have hne : rest ≠ [] := by
          rintro rfl
          exact h.dollar (congrArg some hb)
        rw [List.head?_append_of_ne_nil _ hne]
        exact head?_ne_of_padding h.padding hb
    rw [unescape_of_ne hbackslash hcaret, List.cons_append, run_of_emit hpiece,
      ih (h.of_suffix (List.suffix_cons b rest)), State.write_write]
    rfl
  | @caret b rest _ ih =>
    rw [unescape_caret, List.cons_append, List.cons_append, run_of_emit (piece_caret b _),
      ih (h.of_suffix ⟨[0x5e, b], rfl⟩), State.write_write]
    rfl
  | @named b rest hb _ ih =>
    have hnone : octalDigit? b = none :=
      Option.isNone_iff_eq_none.1 (Option.isSome_eq_false_iff.1 hb)
    have hescape : ∀ rest, escape (b :: rest) = (namedEscape b, rest) := fun rest => by
      rw [escape, hnone]
    have hpiece :
        piece 0x5c (b :: (rest ++ template)) = (.emit (namedEscape b), rest ++ template) := by
      rw [piece_backslash, hescape]
    rw [unescape_backslash, hescape, List.cons_append, List.cons_append, run_of_emit hpiece,
      ih (h.of_suffix ⟨[0x5c, b], rfl⟩), State.write_write]
    rfl
  | @octal digits rest hne hdigits hover _ ih =>
    have hlength : digits.length ≤ 3 := hover.elim Nat.le_of_eq fun hfew => Nat.le_of_lt hfew.1
    obtain ⟨byte, hescape⟩ := exists_escape_append hne hdigits hlength
    have hover' : digits.length = 3 ∨ ∃ c ∈ (rest ++ template).head?, isOctal c = false := by
      refine hover.imp_right ?_
      rintro ⟨-, c, hc, hnone⟩
      refine ⟨c, ?_, hnone⟩
      obtain ⟨behind, rfl⟩ := List.head?_eq_some_iff.1 hc
      rfl
    have hpiece : piece 0x5c (digits ++ (rest ++ template)) = (.emit byte, rest ++ template) := by
      rw [piece_backslash, hescape _ hover']
    rw [unescape_backslash, hescape rest (hover.imp_right And.right), List.cons_append,
      List.append_assoc, run_of_emit hpiece,
      ih (h.of_suffix ((List.suffix_append digits rest).trans (List.suffix_cons 0x5c _))),
      State.write_write]
    rfl

end

/-- **Expanding and resolving escapes agree and compose.** A text in which no operator and no
padding starts expands to what its escapes stand for. If it has no percent sign at all, no escape
of it is cut off and no dollar sign is at its end, it may stand in front of any template: that
fails when it does without the text, and otherwise expands to the same behind what the text stands
for. -/
theorem expand?_unescape {text : List UInt8} (hpercent : 0x25 ∉ text.dropLast)
    (hpadding : ¬ [0x24, 0x3c] <:+: text) (params : List Param) :
    expand? text params = some (unescape text)
    ∧ (0x25 ∉ text → Whole text → text.getLast? ≠ some 0x24 → ∀ template,
      expand? (text ++ template) params = (expand? template params).map (unescape text ++ ·)) := by
  refine ⟨?_, fun hnone hwhole hdollar template => ?_⟩
  · rw [expand?, run_plain ⟨hpercent, hpadding⟩]
    rfl
  · rw [expand?, run_whole_append hwhole ⟨hnone, hpadding, hdollar⟩, State.start_write,
      run_behind, expand?, Option.map_map, Option.map_map]
    rfl

/-- An escape character, a bracket and a line feed: `\E[\012`. -/
def lineFeed : List UInt8 := [0x5c, 0x45, 0x5b, 0x5c, 0x30, 0x31, 0x32]

/-- An octal number of three digits in front of a template that starts with a digit. -/
theorem expand?_unescape_digits :
    0x25 ∉ lineFeed.dropLast ∧ ¬ [0x24, 0x3c] <:+: lineFeed ∧ 0x25 ∉ lineFeed ∧ Whole lineFeed
      ∧ lineFeed.getLast? ≠ some 0x24
      ∧ expand? lineFeed [.int 5] = some [0x1b, 0x5b, 0x0a]
      ∧ expand? (lineFeed ++ Text.bytesOf "7%p1%d") [.int 5]
        = (expand? (Text.bytesOf "7%p1%d") [.int 5]).map ([0x1b, 0x5b, 0x0a] ++ ·) := by
  have hpercent : 0x25 ∉ lineFeed.dropLast := by decide
  have hpadding : ¬ [0x24, 0x3c] <:+: lineFeed := fun h =>
    absurd (h.subset List.mem_cons_self) (by decide)
  have hdigits : ∀ d ∈ [0x30, 0x31, 0x32], isOctal d = true := by
    simp only [List.forall_mem_cons]
    exact ⟨rfl, rfl, rfl, nofun⟩
  have hwhole : Whole lineFeed :=
    .named rfl (.byte (by decide) (by decide)
      (@Whole.octal [0x30, 0x31, 0x32] [] (by decide) hdigits (.inl rfl) .nil))
  have hunescape : unescape lineFeed = [0x1b, 0x5b, 0x0a] := by decide +kernel
  obtain ⟨halone, hfront⟩ := expand?_unescape hpercent hpadding [.int 5]
  rw [hunescape] at halone hfront
  exact ⟨hpercent, hpadding, by decide, hwhole, by decide, halone,
    hfront (by decide) hwhole (by decide) _⟩

end Teletype.Template
