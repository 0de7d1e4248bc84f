import Teletype.Proofs.Stty.Differences
import Teletype.Stty.Client

/-!
# Changes that are refused

`stty` may make some of the changes that it is asked for and fail over the others. It does not
say which. So the settings are listed once more, and what is asked for now, of the settings as
they are, is reported as refused (`set_reports`).

That this is no false report has two reasons. What was made is not asked for again, since a
change that holds leaves no difference in its field – unless another value was asked for than
the one wanted, as for a zero byte, which a target must not hold (`ZeroFree`). And what was
refused is asked for again in the same words, since what is asked for of a field depends on
that field alone (`request?_congr`). So the second request is the first without the changes
that were made (`requested_made`).
-/

namespace Teletype.Stty

open Attributes

/-! ## A tool that does a part -/

/-- **A `stty` that makes some changes and refuses the others.** -/
structure Grudging where
  /-- The device it is told to speak of, if it is told one. -/
  device : Option String := none
  /-- How it lists attributes. -/
  listing : Attributes → String
  /-- Of which fields it makes changes. -/
  grants : Field → Bool
  /-- The command that fails when it was asked for changes. -/
  command : String
  /-- How that command ends. -/
  status : String
  /-- What it complains of. -/
  complaint : String
  /-- It complains that it made a part of the changes only. -/
  partial_complaint : partialComplaint.toList <:+: complaint.toList

/-- **A terminal that is reached by way of `stty`**, and how it was. -/
structure Line where
  /-- The attributes of the terminal. -/
  attributes : Attributes
  /-- The arguments of the calls so far. -/
  calls : List (List String) := []

namespace Grudging

/-- The arguments behind those that name the device. -/
def behindDevice (s : Grudging) (args : List String) : List String :=
  match s.device with
  | some _ => args.drop 2
  | none => args

/-- The attributes after those of some changes that are made. -/
def made (s : Grudging) (cs : List Change) (a : Attributes) : Attributes :=
  (cs.filter fun change => s.grants change.field).foldl Attributes.change a

/-- **A call**: either a listing, or words that ask for changes. Some changes are made of those
asked for, and the call fails. Words that ask for nothing change nothing. -/
def call (s : Grudging) (args : List String) (line : Line) : Except TerminalError String × Line :=
  let line := { line with calls := line.calls ++ [args] }
  if s.behindDevice args = ["-a"] then (.ok (s.listing line.attributes), line)
  else
    (.error (.command s.command s.status s.complaint),
      { line with
        attributes := s.made ((Change.read? (s.behindDevice args)).getD []) line.attributes })

/-- The calls as actions. -/
def run (s : Grudging) (args : List String) : Action Line String :=
  Action.ofStep (s.call (forDevice s.device args))

end Grudging

/-- A text occurs in another when it is a stretch of it. -/
theorem occursIn_iff {part cs : List Char} : occursIn part cs = true ↔ part <:+: cs := by
  induction cs with
  | nil => simp [occursIn]
  | cons c rest ih => simp [occursIn, ih, List.infix_cons_iff]

/-! ## What is asked for once more -/

/-- **Attributes that give no slot for a character a zero byte**, which is asked for as no byte
and would never be told to have been reached. -/
def ZeroFree (a : Attributes) : Prop := ∀ c, c.isCount = false → a.char c ≠ some 0

instance (a : Attributes) : (change : Change) → Decidable (change.Holds a)
  | .flag f on => inferInstanceAs (Decidable (a.flag f = on))
  | .slot c value => inferInstanceAs (Decidable (a.char c = value))

/-- The change that makes a field what it is in some attributes. -/
def Change.to (a : Attributes) : Field → Change
  | .flag f => .flag f (a.flag f)
  | .slot c => .slot c (a.char c)

section

variable {target current a b : Attributes} {x : Field} {change : Change} {s : Grudging}

@[simp] theorem Change.field_to (a : Attributes) (x : Field) : (Change.to a x).field = x := by
  cases x <;> rfl

/-- A field is as it is in other attributes when the two do not differ in it. -/
theorem Change.holds_to_iff : (Change.to b x).Holds a ↔ ¬ Differ a b x := by
  cases x <;> exact (Decidable.not_not).symm

/-- What is asked for of a field depends on the field alone. -/
theorem request?_congr (h : ¬ Differ a b x) : request? target a x = request? target b x := by
  cases x with
  | flag f =>
    have hflag : a.flag f = b.flag f := Decidable.not_not.1 h
    simp only [request?, hflag]
  | slot c =>
    have hchar : a.char c = b.char c := Decidable.not_not.1 h
    simp only [request?, hchar]

/-- **What is asked for is the value wanted.** -/
theorem eq_to_of_request? (h : ZeroFree target)
    (hchange : request? target current x = some change) : change = Change.to target x := by
  cases x with
  | flag f =>
    simp only [request?, Option.ite_none_left_eq_some] at hchange
    exact (Option.some.inj hchange.2).symm
  | slot c =>
    simp only [request?, Option.ite_none_left_eq_some] at hchange
    obtain ⟨-, hchange⟩ := hchange
    split at hchange
    · obtain ⟨n, hn, rfl⟩ := Option.map_eq_some_iff.1 hchange
      rw [Change.to, hn]
    · next hcount =>
      have heffective : effective (target.char c) = target.char c := by
        have hzero := h c (Bool.eq_false_iff.2 hcount)
        cases hc : target.char c with
        | none => rfl
        | some b =>
          have hb : b ≠ 0 := by
            rintro rfl
            exact hzero hc
          rw [effective, Option.filter_some, if_pos (bne_iff_ne.2 hb)]
      rw [← Option.some.inj hchange, heffective, Change.to]

/-- **What is asked for holds exactly when the field is as it is wanted.** -/
theorem holds_iff_of_request? (h : ZeroFree target)
    (hchange : request? target current x = some change) :
    change.Holds a ↔ ¬ Differ a target x := by
  rw [eq_to_of_request? h hchange, Change.holds_to_iff]

theorem request?_eq_none_of_not_differ (h : ¬ Differ a target x) :
    request? target a x = none := by
  rw [← Option.not_isSome_iff_eq_none, isSome_request?_iff]
  rintro ⟨-, hdiffer⟩
  cases x <;> exact h (Ne.symm hdiffer)

/-! ## What was made, and what was refused -/

theorem mem_requested : change ∈ requested target current ↔
    request? target current change.field = some change := by
  rw [requested, List.mem_filterMap]
  constructor
  · rintro ⟨x, -, hx⟩
    rwa [(field_and_askable_of_mem_request? hx).1]
  · exact fun h => ⟨change.field, Field.mem_all _, h⟩

/-- A field of which no change is made stays as it is. -/
theorem holds_made_of_notMem
    (h : ∀ other ∈ requested target current,
      other.field = change.field → s.grants other.field = false) :
    change.Holds (s.made (requested target current) current) ↔ change.Holds current := by
  refine Change.holds_foldl_of_notMem fun hmem => ?_
  obtain ⟨other, hother, hfield⟩ := List.mem_map.1 hmem
  obtain ⟨hother, hgranted⟩ := List.mem_filter.1 hother
  exact Bool.false_ne_true ((h other hother hfield).symm.trans hgranted)

/-- **A change that was asked for holds exactly when it was made.** -/
theorem holds_made_iff (h : ZeroFree target) (hchange : change ∈ requested target current) :
    change.Holds (s.made (requested target current) current) ↔ s.grants change.field = true := by
  have hrequest := mem_requested.1 hchange
  cases hgrants : s.grants change.field with
  | true =>
    refine iff_of_true (Change.holds_foldl ?_ (List.mem_filter.2 ⟨hchange, hgrants⟩)) rfl
    exact (nodup_fields_requested target current).sublist (List.filter_sublist.map _)
  | false =>
    refine iff_of_false (fun hholds => ?_) Bool.false_ne_true
    rw [holds_made_of_notMem fun other _ hfield => hfield ▸ hgrants,
      holds_iff_of_request? h hrequest] at hholds
    rw [request?_eq_none_of_not_differ hholds] at hrequest
    cases hrequest

/-- Of the changes that were asked for, those that do not hold are those that were refused. -/
theorem filter_not_holds_made (h : ZeroFree target) (s : Grudging) (current : Attributes) :
    ((requested target current).filter fun change =>
        ¬ change.Holds (s.made (requested target current) current))
      = (requested target current).filter fun change => !s.grants change.field := by
  refine List.filter_congr fun change hchange => ?_
  cases hgrants : s.grants change.field <;> simp [holds_made_iff h hchange, hgrants]

/-- A field of which every change is refused stays as it is. -/
theorem not_differ_made_of_refused
    (h : ∀ other ∈ requested target current, other.field = x → s.grants other.field = false) :
    ¬ Differ (s.made (requested target current) current) current x := by
  rw [← Change.holds_to_iff, holds_made_of_notMem, Change.holds_to_iff]
  · cases x <;> exact fun hdiffer => hdiffer rfl
  · exact fun other hother hfield => h other hother (hfield.trans (Change.field_to current x))

/-- **Nothing else changes.** -/
theorem not_differ_made (h : x ∉ (requested target current).map Change.field) :
    ¬ Differ (s.made (requested target current) current) current x :=
  not_differ_made_of_refused fun _ hother hfield =>
    absurd (hfield ▸ List.mem_map_of_mem hother) h

/-- **What is asked for once more is what was refused**, in the same order. -/
theorem requested_made (h : ZeroFree target) (s : Grudging) (current : Attributes) :
    requested target (s.made (requested target current) current)
      = (requested target current).filter fun change => !s.grants change.field := by
  conv_rhs => rw [requested, List.filter_filterMap]
  refine List.filterMap_congr fun x _ => ?_
  cases hrequest : request? target current x with
  | none =>
    have hx : x ∉ (requested target current).map Change.field := by
      rw [mem_fields_requested, ← isSome_request?_iff, hrequest]
      exact Bool.false_ne_true
    rw [request?_congr (not_differ_made hx), hrequest]
    rfl
  | some change =>
    have hfield := (field_and_askable_of_mem_request? hrequest).1
    have hchange : change ∈ requested target current := mem_requested.2 (hfield ▸ hrequest)
    have hholds := holds_made_iff (s := s) h hchange
    cases hgrants : s.grants change.field with
    | true =>
      rw [hgrants, iff_true_right rfl, holds_iff_of_request? h hrequest] at hholds
      rw [request?_eq_none_of_not_differ hholds, Option.filter_some, hgrants]
      rfl
    | false =>
      have hsame : ¬ Differ (s.made (requested target current) current) current x :=
        not_differ_made_of_refused fun other _ hother => by rw [hother, ← hfield, hgrants]
      rw [request?_congr hsame, hrequest, Option.filter_some, hgrants]
      rfl

/-! ## The calls -/

namespace Grudging

theorem behindDevice_forDevice (s : Grudging) (args : List String) :
    s.behindDevice (forDevice s.device args) = args := by
  unfold behindDevice forDevice
  cases s.device <;> rfl

theorem runOn_run_listing (s : Grudging) (line : Line) :
    (s.run ["-a"]).runOn line
      = (.ok (s.listing line.attributes),
        { line with calls := line.calls ++ [forDevice s.device ["-a"]] }) := by
  simp only [run, Action.runOn_ofStep, call, behindDevice_forDevice, if_true]

/-- The words that ask for changes are no request for a listing. -/
theorem changes_ne_listing (target current : Attributes) : changes target current ≠ ["-a"] := by
  intro heq
  have hread := read?_changes target current
  rw [heq, show Change.read? ["-a"] = none by decide] at hread
  cases hread

theorem runOn_run_changes (s : Grudging) (target current : Attributes) (line : Line) :
    (s.run (changes target current)).runOn line
      = (.error (.command s.command s.status s.complaint),
        { attributes := s.made (requested target current) line.attributes,
          calls := line.calls ++ [forDevice s.device (changes target current)] }) := by
  simp only [run, Action.runOn_ofStep, call, behindDevice_forDevice, changes_ne_listing, if_false,
    read?_changes, Option.getD_some]

/-- Attributes that are listed as they are, are read. -/
theorem runOn_getAttributes (line : Line)
    (h : attributes (s.listing line.attributes) = line.attributes) :
    (getAttributes s.run).runOn line
      = (.ok line.attributes,
        { line with calls := line.calls ++ [forDevice s.device ["-a"]] }) := by
  simp only [getAttributes, Action.runOn_bind, runOn_run_listing, Action.runOn_pure, h]

/-- The failure is known for one of changes of which a part was made. -/
theorem isPartial_failure (s : Grudging) :
    isPartial (.command s.command s.status s.complaint) = true :=
  occursIn_iff.2 s.partial_complaint

/-- **What has come of setting attributes**, and the terminal afterwards. -/
def set (s : Grudging) (target current : Attributes) : Except TerminalError Unit × Line :=
  (setAttributes s.run target).runOn { attributes := current }

theorem changes_eq_nil_iff : changes target current = [] ↔ requested target current = [] := by
  rw [changes_eq, List.flatMap_eq_nil_iff]
  constructor
  · intro h
    refine List.eq_nil_iff_forall_not_mem.2 fun change hchange => ?_
    have hwords := h change hchange
    cases change <;> exact List.cons_ne_nil _ _ hwords
  · exact fun h => h ▸ nofun

/-- **What is made and what is called for.** When nothing is asked for, no change is called for.
Otherwise a part is made, and what is asked for once more is the report. -/
theorem set_eq (hlist : attributes (s.listing current) = current)
    (hlistMade : attributes (s.listing (s.made (requested target current) current))
      = s.made (requested target current) current) :
    let after := s.made (requested target current) current
    s.set target current
      = (if requested target after = [] then .ok ()
          else .error (.partialApply (changes target after)),
        { attributes := after,
          calls := (if requested target current = [] then [["-a"]]
            else [["-a"], changes target current, ["-a"]]).map (forDevice s.device) }) := by
  intro after
  have hread := s.runOn_getAttributes { attributes := current } hlist
  by_cases hasked : requested target current = []
  · have hafter : after = current := by
      rw [show after = s.made [] current from hasked ▸ rfl]
      rfl
    simp only [set, setAttributes, Action.runOn_bind, hread, changes_eq_nil_iff.2 hasked,
      List.isEmpty_nil, if_true, Action.runOn_pure, List.nil_append, hafter, if_pos hasked]
    rfl
  · have hreadAfter := s.runOn_getAttributes
      { attributes := after,
        calls := [forDevice s.device ["-a"], forDevice s.device (changes target current)] }
      hlistMade
    have hchanges : (changes target current).isEmpty = false :=
      List.isEmpty_eq_false_iff.2 (changes_eq_nil_iff.not.2 hasked)
    simp only [set, setAttributes, afterPartial, Action.runOn_bind, hread, hchanges,
      Bool.false_eq_true, if_false, Action.runOn_attempt, runOn_run_changes, isPartial_failure,
      if_true, List.nil_append, List.cons_append, if_neg hasked]
    rw [hreadAfter]
    by_cases hagain : requested target after = []
    · rw [if_pos hagain]
      simp only [changes_eq_nil_iff.2 hagain]
      rfl
    · rw [if_neg hagain]
      simp only [List.isEmpty_eq_false_iff.2 (changes_eq_nil_iff.not.2 hagain)]
      rfl

end Grudging

/-- Nothing is asked for exactly when no field differs that can be asked for. -/
theorem requested_eq_nil_iff :
    requested target current = [] ↔ ∀ x, Expressible target x → ¬ Differ target current x := by
  rw [← List.map_eq_nil_iff (f := Change.field), List.eq_nil_iff_forall_not_mem]
  simp only [mem_fields_requested, not_and]

/-- **What was refused is reported exactly.** Let a target hold no zero byte, and let a `stty` make
any part of the changes that it is asked for and fail, its listings being read as what they
show. Attributes are set then exactly when every change that was asked for holds in the end,
and otherwise the report is the words of those that do not, in the order in which they were
asked for. Those that hold are those that were made, and no other field has changed. When no
field differs that can be asked for, only a listing was called for, and otherwise one call asked
for the changes, between two listings. -/
theorem set_reports (s : Grudging) (h : ZeroFree target)
    (hlist : attributes (s.listing current) = current)
    (hlistMade : attributes (s.listing (s.made (requested target current) current))
      = s.made (requested target current) current) :
    let asked := requested target current
    let result := (s.set target current).1
    let line := (s.set target current).2
    (result = .ok () ↔ ∀ change ∈ asked, change.Holds line.attributes)
    ∧ ((∃ change ∈ asked, ¬ change.Holds line.attributes) → result = .error (.partialApply
        ((asked.filter fun change => ¬ change.Holds line.attributes).flatMap Change.words)))
    ∧ (∀ change ∈ asked, change.Holds line.attributes ↔ s.grants change.field = true)
    ∧ (∀ x, x ∉ asked.map Change.field → ¬ Differ line.attributes current x)
    ∧ ((∀ x, Expressible target x → ¬ Differ target current x) →
        line.calls = [forDevice s.device ["-a"]])
    ∧ ((∃ x, Expressible target x ∧ Differ target current x) →
        line.calls = [["-a"], asked.flatMap Change.words, ["-a"]].map (forDevice s.device)) := by
  intro asked result line
  have hholds : ∀ change ∈ asked,
      change.Holds (s.made asked current) ↔ s.grants change.field = true :=
    fun change hchange => holds_made_iff h hchange
  have hagain : requested target (s.made asked current)
      = asked.filter fun change => ¬ change.Holds (s.made asked current) :=
    (requested_made h s current).trans (filter_not_holds_made h s current).symm
  have hnone : requested target (s.made asked current) = []
      ↔ ∀ change ∈ asked, change.Holds (s.made asked current) := by
    rw [hagain, List.filter_eq_nil_iff]
    simp only [decide_eq_true_eq, not_not]
  simp only [result, line, Grudging.set_eq hlist hlistMade]
  refine ⟨?_, fun hrefused => ?_, hholds, fun x hx => not_differ_made hx, fun hsame => ?_,
    fun hdiffer => ?_⟩
  · rw [← hnone]
    show (if requested target (s.made asked current) = [] then _ else _) = _ ↔ _
    split
    · next hnil => exact iff_of_true rfl hnil
    · next hsome => exact iff_of_false nofun hsome
  · obtain ⟨change, hchange, hrefused⟩ := hrefused
    rw [if_neg (hnone.not.2 fun hall => hrefused (hall change hchange)), changes_eq, hagain]
  · rw [if_pos (requested_eq_nil_iff.2 hsame)]
    rfl
  · obtain ⟨x, hx, hdiffer⟩ := hdiffer
    rw [if_neg (requested_eq_nil_iff.not.2 fun hsame => hsame x hx hdiffer), changes_eq]

/-- Three changes on a device, of which the second is refused. -/
theorem set_reports_icanon :
    let s : Grudging :=
      { device := some "/dev/pts/7"
        listing := Attributes.listing
        grants := fun x => !(x matches .flag .icanon)
        command := "stty -F /dev/pts/7 -echo -icanon intr ^X"
        status := "exit status: 1"
        complaint := "stty: /dev/pts/7: " ++ partialComplaint
        partial_complaint := ⟨"stty: /dev/pts/7: ".toList, [], rfl⟩ }
    let current := Attributes.usual
    let target := ((current.setFlag .echo false).setFlag .icanon false).setChar .intr (some 0x18)
    ZeroFree target
    ∧ attributes (s.listing current) = current
    ∧ attributes (s.listing (s.made (requested target current) current))
      = s.made (requested target current) current
    ∧ (s.set target current).1 = .error (.partialApply ["-icanon"]) := by
  intro s current target
  have hslots : ∀ c ∈ ControlChar.all, c.isCount = false → target.char c ≠ some 0 := by decide
  have htarget : ZeroFree target := fun c => hslots c c.mem_all
  have hlegible : ∀ a ∈ [current, s.made (requested target current) current],
      ∀ c ∈ ControlChar.all, c.isCount = false →
        (a.char c).all (fun b => decide (Legible b)) = true := by decide +kernel
  have hlisted : ∀ a ∈ [current, s.made (requested target current) current],
      attributes (s.listing a) = a := by
    intro a ha
    refine attributes_listing a fun c hcount b hb => ?_
    have hc := hlegible a ha c c.mem_all hcount
    rwa [hb, Option.all_some, decide_eq_true_iff] at hc
  have hlist := hlisted current List.mem_cons_self
  have hlistMade := hlisted _ (List.mem_cons_of_mem _ List.mem_cons_self)
  have hreports := set_reports s htarget hlist hlistMade
  have hicanon : Change.flag .icanon false ∈ requested target current := mem_requested.2 rfl
  refine ⟨htarget, hlist, hlistMade, (hreports.2.1 ⟨_, hicanon, ?_⟩).trans ?_⟩
  · rw [hreports.2.2.1 _ hicanon]
    exact Bool.false_ne_true
  · rw [Grudging.set_eq hlist hlistMade, filter_not_holds_made htarget]
    rfl

end

end Teletype.Stty
