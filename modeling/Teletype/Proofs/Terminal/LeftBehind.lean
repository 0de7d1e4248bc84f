import Mathlib.Logic.Equiv.Basic
import Teletype.Device.System
import Teletype.Proofs.Signal.Registry
import Teletype.Terminal.SharedHandlers

/-!
# Registrations left behind

A token that the process has given to a terminal is, until it is given up, in exactly one
place: in the record, in the hands of a call that installs a handler, or in the hands of the
call that closes (`Placed`). Each step gives a token to a call, moves one from place to
place, or takes one out of its place and out of the registry. So once nobody has anything
in hand, a registration is left behind exactly if its token is in the record.

To close is to empty the record. Whoever finds the terminal open and asks no more may
record a token after that, and nobody comes back for it. So **a closed terminal has left a
registration behind exactly if some call recorded a token when the record had been emptied**
(`leavesBehind_iff`). That this can happen is shown by a call that asks just before the
terminal is marked as closed (`leavesBehind_overtaken`).
-/

namespace Teletype.SharedHandlers

variable {δ : Type} {s s' : SharedHandlers δ} {c : Nat} {stage : Stage} {token old : Token}

/-- **Where a token may be.** -/
inductive Place where
  /-- In the record. -/
  | record
  /-- In the hands of a call that installs a handler. -/
  | call (c : Nat)
  /-- In the hands of the call that closes. -/
  | closer
  deriving DecidableEq

/-- **Whether a token is in a place.** -/
def Held (s : SharedHandlers δ) : Place → Token → Prop
  | .record, token => s.terminal.owner.token token.signal = some token
  | .call c, token => (s.call c).token? = some token
  | .closer, token => token ∈ s.closing.tokens

/-- **Tokens are in one place each**, and those that are nowhere have been given up. -/
structure Placed (s : SharedHandlers δ) : Prop where
  /-- The registry is one. -/
  bounded : s.terminal.registry.Bounded
  /-- What the terminal was given was given out. -/
  issued : ∀ token ∈ s.given, token.id ≤ s.terminal.registry.issued
  /-- What the terminal was given and is in force is somewhere. -/
  covered : ∀ token ∈ s.given, token ∈ s.terminal.registry.tokens → ∃ p, s.Held p token
  /-- What is somewhere was given to the terminal. -/
  given : ∀ p token, s.Held p token → token ∈ s.given
  /-- What is somewhere is in force. -/
  inForce : ∀ p token, s.Held p token → token ∈ s.terminal.registry.tokens
  /-- Nothing is in two places. -/
  unique : ∀ p q token, s.Held p token → s.Held q token → p = q
  /-- Nothing is to be given up twice. -/
  nodup : s.closing.tokens.Nodup

/-- **What calls know is right.** -/
structure Filed (s : SharedHandlers δ) : Prop where
  /-- Tokens are recorded under their own signals, which the platform can deliver. -/
  record : ∀ signal token, s.terminal.owner.token signal = some token →
    token.signal = signal ∧ signal.isNative = true
  /-- A call has a token if the platform can deliver its signal, and then of this signal. -/
  call : ∀ c signal token?, s.call c = .registered signal token? →
    (∀ token, token? = some token → token.signal = signal) ∧ token?.isSome = signal.isNative
  /-- Before anybody closes the terminal it is open. -/
  opened : s.closing = .idle → s.terminal.closed = false

/-! ## Where tokens are -/

theorem held_setCall {p : Place} : (s.setCall c stage).Held p token ↔
    p = .call c ∧ stage.token? = some token ∨ p ≠ .call c ∧ s.Held p token := by
  cases p with
  | record => simp [Held, setCall]
  | closer => simp [Held, setCall]
  | call d =>
    by_cases hd : d = c
    · simp [Held, setCall, hd]
    · simp [Held, setCall, hd]

/-- A call that has no token and gets none. -/
theorem held_setCall_of_none {p : Place} (hbefore : (s.call c).token? = none)
    (hafter : stage.token? = none) : (s.setCall c stage).Held p token ↔ s.Held p token := by
  rw [held_setCall, hafter]
  by_cases hp : p = .call c
  · simp [hp, Held, hbefore]
  · simp [hp]

namespace Placed

/-- **Tokens move**, each along a permutation of the places. -/
theorem move (h : s.Placed)
    (hheld : ∀ token, ∃ f : Equiv.Perm Place, ∀ p, s'.Held p token ↔ s.Held (f p) token)
    (hregistry : s'.terminal.registry = s.terminal.registry) (hgiven : s'.given = s.given)
    (hnodup : s'.closing.tokens.Nodup) : s'.Placed := by
  refine
    { bounded := hregistry ▸ h.bounded
      issued := ?_
      covered := ?_
      given := fun p token hp => ?_
      inForce := fun p token hp => ?_
      unique := fun p q token hp hq => ?_
      nodup := hnodup }
  · rw [hgiven, hregistry]
    exact h.issued
  · rw [hgiven, hregistry]
    intro token htoken hforce
    obtain ⟨f, hf⟩ := hheld token
    obtain ⟨p, hp⟩ := h.covered token htoken hforce
    exact ⟨f.symm p, (hf _).mpr (by rwa [Equiv.apply_symm_apply])⟩
  · obtain ⟨f, hf⟩ := hheld token
    rw [hgiven]
    exact h.given _ token ((hf p).mp hp)
  · obtain ⟨f, hf⟩ := hheld token
    rw [hregistry]
    exact h.inForce _ token ((hf p).mp hp)
  · obtain ⟨f, hf⟩ := hheld token
    exact f.injective (h.unique _ _ token ((hf p).mp hp) ((hf q).mp hq))

/-- No token moves. -/
theorem stay (h : s.Placed) (hheld : ∀ p token, s'.Held p token ↔ s.Held p token)
    (hregistry : s'.terminal.registry = s.terminal.registry) (hgiven : s'.given = s.given)
    (hclosing : s'.closing.tokens = s.closing.tokens) : s'.Placed :=
  h.move (fun token => ⟨Equiv.refl _, fun p => hheld p token⟩) hregistry hgiven
    (hclosing ▸ h.nodup)

/-- **The process gives a token** to a call that has none. -/
theorem give (h : s.Placed) {signal : Signal} {action : Option Unit}
    (htoken : (s.terminal.registry.register signal action).1 = some token)
    (hfree : (s.call c).token? = none)
    (hheld : ∀ p x, s'.Held p x ↔ p = .call c ∧ x = token ∨ p ≠ .call c ∧ s.Held p x)
    (hregistry : s'.terminal.registry = (s.terminal.registry.register signal action).2)
    (hgiven : s'.given = token :: s.given)
    (hclosing : s'.closing.tokens = s.closing.tokens) : s'.Placed := by
  have hmem (x : Token) : x ∈ (s.terminal.registry.register signal action).2.tokens ↔
      x = token ∨ x ∈ s.terminal.registry.tokens := by
    rw [Registry.mem_tokens_register, htoken, Option.some.injEq, eq_comm]
  obtain ⟨-, hid, hissued⟩ := Registry.register_eq_some htoken
  have hnew : token ∉ s.given := fun hmem => by
    have hle := h.issued token hmem
    rw [hid] at hle
    exact absurd hle (Nat.not_succ_le_self _)
  have hcall {p : Place} {x : Token} (hp : s.Held p x) : p ≠ .call c := by
    rintro rfl
    rw [Held, hfree] at hp
    cases hp
  refine
    { bounded := hregistry ▸ h.bounded.register signal action
      issued := ?_
      covered := ?_
      given := fun p x hp => ?_
      inForce := fun p x hp => ?_
      unique := fun p q x hp hq => ?_
      nodup := hclosing ▸ h.nodup }
  · rw [hgiven, hregistry, hissued]
    intro x hx
    rcases List.mem_cons.mp hx with rfl | hx
    · exact Nat.le_of_eq (congrArg Token.id hid)
    · exact Nat.le_succ_of_le (h.issued x hx)
  · rw [hgiven, hregistry]
    intro x hx hforce
    by_cases heq : x = token
    · exact ⟨.call c, (hheld _ _).mpr (.inl ⟨rfl, heq⟩)⟩
    · obtain ⟨p, hp⟩ := h.covered x ((List.mem_cons.mp hx).resolve_left heq)
        (((hmem x).mp hforce).resolve_left heq)
      exact ⟨p, (hheld _ _).mpr (.inr ⟨hcall hp, hp⟩)⟩
  · rw [hgiven]
    rcases (hheld p x).mp hp with ⟨-, rfl⟩ | ⟨-, hp⟩
    · exact List.mem_cons_self
    · exact List.mem_cons_of_mem _ (h.given p x hp)
  · rw [hregistry, hmem]
    exact ((hheld p x).mp hp).imp And.right fun hp => h.inForce p x hp.2
  · rcases (hheld p x).mp hp with ⟨rfl, rfl⟩ | ⟨-, hp⟩
    · rcases (hheld q x).mp hq with ⟨rfl, -⟩ | ⟨-, hq⟩
      · rfl
      · exact absurd (h.given q x hq) hnew
    · rcases (hheld q x).mp hq with ⟨rfl, rfl⟩ | ⟨-, hq⟩
      · exact absurd (h.given p x hp) hnew
      · exact h.unique p q x hp hq

/-- **A token is given up** by whoever has it. -/
theorem giveUp (h : s.Placed) {place : Place} (hold : s.Held place old)
    (hheld : ∀ p x, s'.Held p x ↔ s.Held p x ∧ (p = place → x ≠ old))
    (hregistry : s'.terminal.registry = s.terminal.registry.unregister old)
    (hgiven : s'.given = s.given) (hnodup : s'.closing.tokens.Nodup) : s'.Placed := by
  refine
    { bounded := hregistry ▸ h.bounded.unregister old
      issued := hgiven ▸ hregistry ▸ h.issued
      covered := ?_
      given := fun p x hp => hgiven ▸ h.given p x ((hheld p x).mp hp).1
      inForce := fun p x hp => ?_
      unique := fun p q x hp hq => h.unique p q x ((hheld p x).mp hp).1 ((hheld q x).mp hq).1
      nodup := hnodup }
  · rw [hgiven, hregistry]
    intro x hx hforce
    obtain ⟨hforce, hne⟩ := Registry.mem_tokens_unregister.mp hforce
    obtain ⟨p, hp⟩ := h.covered x hx hforce
    exact ⟨p, (hheld p x).mpr ⟨hp, fun _ => hne⟩⟩
  · obtain ⟨hp, hne⟩ := (hheld p x).mp hp
    rw [hregistry, Registry.mem_tokens_unregister]
    refine ⟨h.inForce p x hp, ?_⟩
    rintro rfl
    -- it would be in two places
    exact hne (h.unique p place x hp hold) rfl

/-- **Others leave it as it is.** -/
theorem others (h : s.Placed) {registry : Registry Unit} (hbounded : registry.Bounded)
    (hissued : s.terminal.registry.issued ≤ registry.issued)
    (htokens : ∀ x ∈ s.given, x ∈ registry.tokens ↔ x ∈ s.terminal.registry.tokens) :
    (s.setRegistry registry).Placed := by
  have hheld (p : Place) (x : Token) : (s.setRegistry registry).Held p x ↔ s.Held p x := by
    cases p <;> rfl
  exact
    { bounded := hbounded
      issued := fun x hx => Nat.le_trans (h.issued x hx) hissued
      covered := fun x hx hforce => (h.covered x hx ((htokens x hx).mp hforce)).imp
        fun p hp => (hheld p x).mpr hp
      given := fun p x hp => h.given p x ((hheld p x).mp hp)
      inForce := fun p x hp =>
        have hp := (hheld p x).mp hp
        (htokens x (h.given p x hp)).mpr (h.inForce p x hp)
      unique := fun p q x hp hq => h.unique p q x ((hheld p x).mp hp) ((hheld q x).mp hq)
      nodup := h.nodup }

end Placed

theorem Filed.setCall (h : s.Filed) (hstage : ∀ signal token?, stage = .registered signal token? →
    (∀ token, token? = some token → token.signal = signal) ∧ token?.isSome = signal.isNative) :
    (s.setCall c stage).Filed where
  record := h.record
  call d signal token? hd := by
    by_cases hdc : d = c
    · rw [hdc, setCall_call_self] at hd
      exact hstage signal token? hd
    · rw [setCall_call_of_ne hdc] at hd
      exact h.call d signal token? hd
  opened := h.opened

theorem exists_recorded {signal : Signal} {token? : Option Token}
    (hc : s.call c = .registered signal token?) : ∃ holder stage,
      (∀ x t, stage ≠ .registered x t) ∧ stage.token? = s.terminal.owner.token signal ∧
        s.recorded c = { s with
          terminal := { s.terminal with owner := s.terminal.owner.hold signal token? }
          holder }.setCall c stage := by
  cases hold : s.terminal.owner.token signal with
  | none => exact ⟨s.holder, .returned, fun _ _ => nofun, rfl, recorded_of_none hc hold⟩
  | some old => exact ⟨some c, .replacing old, fun _ _ => nofun, rfl, recorded_of_some hc hold⟩

/-- A token recorded changes places with the one that was recorded for its signal. -/
theorem Filed.exists_moved (h : s.Filed) {signal : Signal} {token? : Option Token}
    (hc : s.call c = .registered signal token?) {holder : Option Nat} (x : Token) :
    ∃ f : Equiv.Perm Place, ∀ p,
      (p = .call c ∧ s.terminal.owner.token signal = some x ∨ p ≠ .call c ∧
        { s with
          terminal := { s.terminal with owner := s.terminal.owner.hold signal token? }
          holder }.Held p x) ↔ s.Held (f p) x := by
  have htoken : (s.call c).token? = token? := congrArg Stage.token? hc
  by_cases hx : x.signal = signal
  · refine ⟨Equiv.swap .record (.call c), fun p => ?_⟩
    cases p with
    | record =>
      rw [Equiv.swap_apply_left]
      simp [Held, Owner.hold_token, hx, htoken]
    | closer =>
      rw [Equiv.swap_apply_of_ne_of_ne (by simp) (by simp)]
      simp [Held]
    | call d =>
      by_cases hd : d = c
      · rw [hd, Equiv.swap_apply_right]
        simp [Held, hx]
      · rw [Equiv.swap_apply_of_ne_of_ne (by simp) (by simp [hd])]
        simp [Held, hd]
  · have hbefore : token? ≠ some x := fun hsome => hx ((h.call c signal token? hc).1 x hsome)
    have hafter : s.terminal.owner.token signal ≠ some x := fun hsome =>
      hx (h.record signal x hsome).1
    refine ⟨Equiv.refl _, fun p => ?_⟩
    cases p with
    | record => simp [Held, Owner.hold_token, hx]
    | closer => simp [Held]
    | call d =>
      by_cases hd : d = c
      · simp [Held, hd, htoken, hbefore, hafter]
      · simp [Held, hd]

theorem Filed.setCall_of_ne (h : s.Filed) (hstage : ∀ x t, stage ≠ .registered x t) :
    (s.setCall c stage).Filed :=
  h.setCall fun x t hx => absurd hx (hstage x t)

/-- **What is always so.** -/
structure Sound (s : SharedHandlers δ) : Prop where
  /-- Tokens are where they should be. -/
  placed : s.Placed
  /-- What calls know is right. -/
  filed : s.Filed

/-! ## One act -/

namespace Sound

variable {signal : Signal} {handler : Handler} {token? : Option Token}

/-- A call goes on that has no token and gets none. -/
theorem setCall (h : s.Sound) (hbefore : (s.call c).token? = none) (hafter : stage.token? = none)
    (hstage : ∀ x t, stage ≠ .registered x t) : (s.setCall c stage).Sound where
  placed := h.placed.stay (fun _ _ => held_setCall_of_none hbefore hafter) rfl rfl rfl
  filed := h.filed.setCall_of_ne hstage

theorem installed (h : s.Sound) (hc : s.call c = .idle) :
    (s.installed c signal handler).Sound := by
  have hsame : { s with terminal :=
      { s.terminal with signals := s.terminal.signals.install signal handler } }.Sound :=
    { placed := h.placed.stay (fun p _ => by cases p <;> rfl) rfl rfl rfl
      filed := ⟨h.filed.record, h.filed.call, h.filed.opened⟩ }
  exact hsame.setCall (congrArg Stage.token? hc) rfl fun _ _ => nofun

theorem asked (h : s.Sound) (hc : s.call c = .installed signal handler) : (s.asked c).Sound := by
  have hfree : (s.call c).token? = none := congrArg Stage.token? hc
  rw [asked_of_installed hc]
  split
  · exact h.setCall hfree rfl fun _ _ => nofun
  · exact h.setCall hfree rfl fun _ _ => nofun

theorem registered (h : s.Sound) (hc : s.call c = .passed signal handler) :
    (s.registered c).Sound := by
  have hfree : (s.call c).token? = none := congrArg Stage.token? hc
  rw [registered_of_passed hc]
  dsimp only
  cases htoken : (s.terminal.registry.register signal (Owner.actionFor () handler)).1 with
  | none =>
    obtain ⟨hnative, hregistry⟩ := Registry.register_eq_none htoken
    rw [hregistry]
    refine
      { placed := h.placed.stay (fun p token => (held_setCall_of_none hfree rfl).trans ?_) rfl rfl
          rfl
        filed := Filed.setCall ⟨h.filed.record, h.filed.call, h.filed.opened⟩
          fun x token? hstage => ?_ }
    · cases p <;> rfl
    · cases hstage
      exact ⟨fun _ hnone => (by cases hnone), hnative.symm⟩
  | some token =>
    obtain ⟨hnative, hid, -⟩ := Registry.register_eq_some htoken
    refine
      { placed := h.placed.give htoken hfree (fun p x => held_setCall.trans ?_) rfl rfl rfl
        filed := Filed.setCall ⟨h.filed.record, h.filed.call, h.filed.opened⟩
          fun x token? hstage => ?_ }
    · cases p <;> simp [Held, Stage.token?, setRegistry, eq_comm]
    · cases hstage
      exact ⟨fun x hx => by rw [← Option.some.inj hx, hid], hnative.symm⟩

theorem recorded (h : s.Sound) (hc : s.call c = .registered signal token?) :
    (s.recorded c).Sound := by
  obtain ⟨holder, stage, hstage, hold, heq⟩ := exists_recorded hc
  rw [heq]
  refine
    { placed := h.placed.move (fun x => ?_) rfl rfl h.placed.nodup
      filed := Filed.setCall_of_ne ⟨fun x t hx => ?_, h.filed.call, h.filed.opened⟩ hstage }
  · obtain ⟨f, hf⟩ := h.filed.exists_moved hc x
    exact ⟨f, fun p => (held_setCall.trans (by rw [hold])).trans (hf p)⟩
  · obtain ⟨hsignal, hnative⟩ := h.filed.call c signal token? hc
    rcases Owner.hold_eq_some_iff.mp hx with ⟨rfl, hnew⟩ | ⟨-, hx⟩
    · exact ⟨hsignal t hnew, by rw [← hnative, hnew]; rfl⟩
    · exact h.filed.record x t hx

theorem gaveUp (h : s.Sound) (hc : s.call c = .replacing old) : (s.gaveUp c).Sound := by
  have hold : s.Held (.call c) old := congrArg Stage.token? hc
  rw [gaveUp_of_replacing hc]
  refine
    { placed := h.placed.giveUp hold (fun p x => held_setCall.trans ?_) rfl rfl h.placed.nodup
      filed := Filed.setCall_of_ne ⟨h.filed.record, h.filed.call, h.filed.opened⟩
        fun _ _ => nofun }
  by_cases hp : p = .call c
  · have hheld : s.Held (.call c) x ↔ x = old := by simp [Held, hc, Stage.token?, eq_comm]
    simp [hp, Stage.token?, hheld]
  · cases p <;> simp [hp, Stage.token?, Held, setRegistry]

theorem begun (h : s.Sound) (hclosing : s.closing = .idle) : s.begun.Sound := by
  rw [begun_of_open (h.filed.opened hclosing)]
  exact
    { placed := h.placed.stay (fun p token => by cases p <;> simp [Held, hclosing, Closing.tokens])
        rfl rfl (by rw [hclosing]; rfl)
      filed := ⟨h.filed.record, h.filed.call, nofun⟩ }

/-- What was in the record is with the one who closes. -/
theorem drained (h : s.Sound) (hclosing : s.closing = .begun) : s.drained.Sound := by
  have hfiled (signal : Signal) (token : Token)
      (ht : s.terminal.owner.token signal = some token) : token.signal = signal :=
    (h.filed.record signal token ht).1
  rw [drained_of_begun hclosing]
  refine
    { placed := h.placed.move (fun x => ⟨Equiv.swap .record .closer, fun p => ?_⟩) rfl rfl
        (Owner.nodup_tokens hfiled)
      filed := ⟨nofun, h.filed.call, nofun⟩ }
  cases p with
  | record =>
    rw [Equiv.swap_apply_left]
    simp [Held, hclosing, Closing.tokens]
  | closer =>
    rw [Equiv.swap_apply_right]
    exact Owner.mem_tokens_of_filed hfiled
  | call d =>
    rw [Equiv.swap_apply_of_ne_of_ne (by simp) (by simp)]
    exact Iff.rfl

theorem surrendered {tokens : List Token} (h : s.Sound) (hclosing : s.closing = .giving tokens)
    (htoken : token ∈ tokens) : (s.surrendered token).Sound := by
  have hheld : s.Held .closer token := by rw [Held, hclosing]; exact htoken
  have hnodup : tokens.Nodup := by
    have hnodup := h.placed.nodup
    rwa [hclosing] at hnodup
  rw [surrendered_of_giving hclosing]
  refine
    { placed := h.placed.giveUp hheld (fun p x => ?_) rfl rfl (hnodup.erase _)
      filed := ⟨h.filed.record, h.filed.call, nofun⟩ }
  cases p with
  | closer => simp [Held, hclosing, Closing.tokens, hnodup.mem_erase_iff, and_comm]
  | record => simp [Held, setRegistry]
  | call d => simp [Held, setRegistry]

theorem registeredOther (h : s.Sound) (signal : Signal) (action : Option Unit) :
    (s.setRegistry (s.terminal.registry.register signal action).2).Sound where
  placed := by
    refine h.placed.others (h.placed.bounded.register signal action) Registry.issued_le_register
      fun x hx => ?_
    rw [Registry.mem_tokens_register]
    refine or_iff_right fun hnew => ?_
    obtain ⟨-, rfl, -⟩ := Registry.register_eq_some hnew
    exact absurd (h.placed.issued _ hx) (Nat.not_succ_le_self _)
  filed := ⟨h.filed.record, h.filed.call, h.filed.opened⟩

theorem gaveUpOther (h : s.Sound) (htoken : token ∉ s.given) :
    (s.setRegistry (s.terminal.registry.unregister token)).Sound where
  placed := h.placed.others (h.placed.bounded.unregister token) (Nat.le_refl _) fun x hx => by
    rw [Registry.mem_tokens_unregister]
    exact and_iff_left (ne_of_mem_of_not_mem hx htoken)
  filed := ⟨h.filed.record, h.filed.call, h.filed.opened⟩

variable [Device δ]

theorem finished (h : s.Sound) (hclosing : s.closing = .giving []) : s.finished.Sound := by
  rw [finished_of_giving hclosing]
  exact
    { placed := h.placed.stay (fun p token => by cases p <;> simp [Held, hclosing, Closing.tokens,
        Terminal.changeDevice]) rfl rfl (by rw [hclosing]; rfl)
      filed := ⟨h.filed.record, h.filed.call, nofun⟩ }

/-- **Every act keeps it.** -/
theorem after (h : s.Sound) {a : Act} (he : s.Enabled a) : (s.after a).Sound := by
  cases a with
  | install c signal handler => exact h.installed he
  | ask c =>
    obtain ⟨_, _, hc⟩ := he
    exact h.asked hc
  | register c =>
    obtain ⟨_, _, hc⟩ := he
    exact h.registered hc
  | record c =>
    obtain ⟨-, _, _, hc⟩ := he
    exact h.recorded hc
  | giveUp c =>
    obtain ⟨_, hc⟩ := he
    exact h.gaveUp hc
  | begin => exact h.begun he
  | drain => exact h.drained he.2
  | surrender token =>
    obtain ⟨_, hclosing, htoken⟩ := he
    exact h.surrendered hclosing htoken
  | finish => exact h.finished he
  | registerOther signal action => exact h.registeredOther signal action
  | giveUpOther token => exact h.gaveUpOther he

/-- **Every history keeps it.** -/
theorem play (h : s.Sound) {history : List Act} (hallowed : Allowed s history) :
    (s.play history).Sound := by
  induction history with
  | nil => exact h
  | cons a earlier ih => exact (ih hallowed.1).after hallowed.2

end Sound

/-! ## Opening -/

section Opening

variable {t : Terminal δ}

/-- **In the beginning all tokens are in the record.** -/
theorem sound_new (howner : t.owner.InOrder t.registry) (hopen : t.closed = false) :
    (new t).Sound where
  placed := by
    have hrecord (p : Place) (x : Token) (hp : (new t).Held p x) :
        p = .record ∧ x ∈ t.owner.tokens := by
      cases p with
      | record => exact ⟨rfl, (Owner.mem_tokens_of_filed howner.filed).mpr hp⟩
      | call c => cases hp
      | closer => cases hp
    have hforce (x : Token) (hx : x ∈ t.owner.tokens) : x ∈ t.registry.tokens :=
      howner.inForce _ x ((Owner.mem_tokens_of_filed howner.filed).mp hx)
    exact
      { bounded := howner.bounded
        issued := fun x hx => howner.bounded x (hforce x hx)
        covered := fun x hx _ => ⟨.record, (Owner.mem_tokens_of_filed howner.filed).mp hx⟩
        given := fun p x hp => (hrecord p x hp).2
        inForce := fun p x hp => hforce x (hrecord p x hp).2
        unique := fun p q x hp hq => (hrecord p x hp).1.trans (hrecord q x hq).1.symm
        nodup := List.nodup_nil }
  filed := ⟨fun s x hx => ⟨howner.filed s x hx, howner.native s x hx⟩, nofun, fun _ => hopen⟩

variable [Device δ]

/-- A terminal that has just been opened has its tokens in order, if it has any. -/
theorem inOrder_onto (device : δ) (name type : String) (description : Description)
    (strict listens : Bool) {registry : Registry Unit} (h : registry.Bounded) :
    let t := Terminal.onto device name type description strict listens registry
    t.owner.InOrder t.registry := by
  unfold Terminal.onto
  cases listens && Device.isSystem device with
  | false => exact Owner.inOrder_empty h
  | true => exact Owner.inOrder_listen h

end Opening

/-! ## What is left behind -/

/-- Whether nobody has anything left to do. -/
def Done (s : SharedHandlers δ) : Prop :=
  (∀ c, s.call c = .idle ∨ s.call c = .returned) ∧ s.closing = .returned

/-- **Whether a registration of the terminal is left** in the registry. -/
def LeavesBehind (s : SharedHandlers δ) : Prop :=
  ∃ token ∈ s.given, token ∈ s.terminal.registry.tokens

instance (s : SharedHandlers δ) : Decidable s.LeavesBehind :=
  inferInstanceAs (Decidable (∃ token ∈ s.given, token ∈ s.terminal.registry.tokens))

/-- Whether there is a token in the record although that has been emptied. -/
def Refilled (s : SharedHandlers δ) : Prop :=
  s.closing.drained = true ∧ ∃ token, s.Held .record token

/-- Whether a call that records its token now does so when the record has been emptied. -/
def RecordsLate (s : SharedHandlers δ) (c : Nat) : Prop :=
  s.closing.drained = true ∧ ∃ signal token, s.call c = .registered signal (some token)

/-- Once nobody has anything in hand, what is left is what is in the record. -/
theorem Placed.leavesBehind_iff_refilled (h : s.Placed) (hdone : s.Done) :
    s.LeavesBehind ↔ s.Refilled := by
  constructor
  · rintro ⟨token, hgiven, hforce⟩
    obtain ⟨p, hp⟩ := h.covered token hgiven hforce
    cases p with
    | record => exact ⟨by rw [hdone.2]; rfl, token, hp⟩
    | call c => rcases hdone.1 c with hc | hc <;> simp [Held, hc, Stage.token?] at hp
    | closer => simp [Held, hdone.2, Closing.tokens] at hp
  · rintro ⟨-, token, hp⟩
    exact ⟨token, h.given _ token hp, h.inForce _ token hp⟩

/-- **A token comes into the record** that has been emptied when a call records it. -/
theorem Filed.refilled_recorded (h : s.Filed) {signal : Signal} {token? : Option Token}
    (hc : s.call c = .registered signal token?) :
    (s.recorded c).Refilled ↔ s.RecordsLate c ∨ s.Refilled := by
  obtain ⟨hsignal, hnative⟩ := h.call c signal token? hc
  obtain ⟨holder, stage, -, -, heq⟩ := exists_recorded hc
  have hheld (x : Token) : (s.recorded c).Held .record x ↔
      x.signal = signal ∧ token? = some x ∨ x.signal ≠ signal ∧ s.Held .record x := by
    rw [heq]
    exact Owner.hold_eq_some_iff
  have hdrained : (s.recorded c).closing = s.closing := by rw [heq]; rfl
  rw [Refilled, hdrained, Refilled, RecordsLate, ← and_or_left]
  refine and_congr_right fun _ => ?_
  constructor
  · rintro ⟨x, hx⟩
    rcases (hheld x).mp hx with ⟨-, rfl⟩ | ⟨-, hx⟩
    · exact .inl ⟨signal, x, hc⟩
    · exact .inr ⟨x, hx⟩
  · rintro (⟨_, x, hx⟩ | ⟨x, hx⟩)
    · obtain ⟨-, rfl⟩ := Stage.registered.inj (hc.symm.trans hx)
      exact ⟨x, (hheld x).mpr (.inl ⟨hsignal x rfl, rfl⟩)⟩
    · cases token? with
      | some y => exact ⟨y, (hheld y).mpr (.inl ⟨hsignal y rfl, rfl⟩)⟩
      | none =>
        -- nothing is recorded for a signal that the platform cannot deliver
        refine ⟨x, (hheld x).mpr (.inr ⟨?_, hx⟩)⟩
        rintro rfl
        have hrecorded := (h.record x.signal x hx).2
        rw [← hnative] at hrecorded
        cases hrecorded

theorem refilled_congr (hclosing : s'.closing.drained = s.closing.drained)
    (howner : s'.terminal.owner = s.terminal.owner) : s'.Refilled ↔ s.Refilled := by
  unfold Refilled Held
  rw [hclosing, howner]

variable [Device δ]

/-- **Nothing else brings a token there.** -/
theorem Filed.refilled_after (h : s.Filed) {a : Act} (he : s.Enabled a)
    (ha : ∀ c, a ≠ .record c) : (s.after a).Refilled ↔ s.Refilled := by
  cases a with
  | install c signal handler => exact refilled_congr rfl rfl
  | ask c =>
    obtain ⟨_, _, hc⟩ := he
    rw [after, asked_of_installed hc]
    exact refilled_congr rfl rfl
  | register c =>
    obtain ⟨_, _, hc⟩ := he
    rw [after, registered_of_passed hc]
    exact refilled_congr rfl rfl
  | record c => exact absurd rfl (ha c)
  | giveUp c =>
    obtain ⟨_, hc⟩ := he
    rw [after, gaveUp_of_replacing hc]
    exact refilled_congr rfl rfl
  | begin =>
    rw [after, begun_of_open (h.opened he)]
    exact refilled_congr (congrArg Closing.drained he).symm rfl
  | drain =>
    rw [after, drained_of_begun he.2]
    refine iff_of_false ?_ ?_
    · rintro ⟨-, x, hx⟩
      cases hx
    · rintro ⟨hdrained, -⟩
      rw [he.2] at hdrained
      cases hdrained
  | surrender token =>
    obtain ⟨_, hclosing, -⟩ := he
    rw [after, surrendered_of_giving hclosing]
    exact refilled_congr (congrArg Closing.drained hclosing).symm rfl
  | finish =>
    rw [after, finished_of_giving he]
    exact refilled_congr (congrArg Closing.drained he).symm rfl
  | registerOther signal action => exact refilled_congr rfl rfl
  | giveUpOther token => exact refilled_congr rfl rfl

/-- **Whether some call has recorded a token when the record had been emptied.** -/
def RecordedLate (start : SharedHandlers δ) : List Act → Prop
  | [] => False
  | .record c :: earlier => (play start earlier).RecordsLate c ∨ RecordedLate start earlier
  | _ :: earlier => RecordedLate start earlier

/-- A record that is emptied once is filled again by late calls only. -/
theorem Sound.refilled_play_iff (h : s.Sound) (hstart : s.closing.drained = false)
    {history : List Act} (hallowed : Allowed s history) :
    (s.play history).Refilled ↔ s.RecordedLate history := by
  induction history with
  | nil =>
    refine iff_of_false ?_ id
    rintro ⟨hdrained, -⟩
    rw [SharedHandlers.play, hstart] at hdrained
    cases hdrained
  | cons a earlier ih =>
    have hfiled := (h.play hallowed.1).filed
    cases a with
    | record c =>
      obtain ⟨-, _, _, hc⟩ := hallowed.2
      exact (hfiled.refilled_recorded hc).trans (or_congr_right (ih hallowed.1))
    | _ =>
      have hother := hfiled.refilled_after hallowed.2 fun _ hrecord => by cases hrecord
      exact hother.trans (ih hallowed.1)

/-- **When a closed terminal leaves a registration behind.** A terminal is opened, handlers
are installed, and it is closed, in any order of the steps and whatever others register
meanwhile. Once all calls have returned, a registration of the terminal is left exactly if
some call recorded its token when the closing call had emptied the record. -/
theorem leavesBehind_iff {device : δ} {name type : String} {description : Description}
    {strict listens : Bool} {registry : Registry Unit} (hregistry : registry.Bounded)
    {history : List Act} :
    let start := new (Terminal.onto device name type description strict listens registry)
    Allowed start history → (start.play history).Done →
      ((start.play history).LeavesBehind ↔ start.RecordedLate history) := by
  intro start hallowed hdone
  have hsound : start.Sound := sound_new (inOrder_onto _ _ _ _ _ _ hregistry) rfl
  exact ((hsound.play hallowed).placed.leavesBehind_iff_refilled hdone).trans
    (hsound.refilled_play_iff rfl hallowed)

/-- A terminal of the process, in which nobody else listens to signals. -/
def alone : SharedHandlers SystemDevice :=
  new (Terminal.onto { input := .pipe {} } "system" "ansi" {} false true {})

/-- A handler of interrupts is installed, and the terminal is closed when that is done. -/
theorem leavesBehind_iff_undisturbed :
    let history : List Act :=
      [.finish, .surrender ⟨.winch, 5⟩, .surrender ⟨.cont, 4⟩, .surrender ⟨.tstp, 3⟩,
        .surrender ⟨.quit, 2⟩, .surrender ⟨.int, 6⟩, .drain, .begin, .giveUp 0, .record 0,
        .register 0, .ask 0, .install 0 .int (.script 7 [])]
    ({} : Registry Unit).Bounded ∧ Allowed alone history ∧ (alone.play history).Done ∧
      ((alone.play history).LeavesBehind ↔ alone.RecordedLate history) ∧
      ¬ (alone.play history).LeavesBehind := by
  intro history
  have hregistry : ({} : Registry Unit).Bounded := nofun
  have hallowed : Allowed alone history :=
    ⟨⟨⟨⟨⟨⟨⟨⟨⟨⟨⟨⟨⟨trivial, rfl⟩, _, _, rfl⟩, _, _, rfl⟩, rfl, _, _, rfl⟩, _, rfl⟩, rfl⟩, rfl, rfl⟩,
      _, rfl, by decide⟩, _, rfl, by decide⟩, _, rfl, by decide⟩, _, rfl, by decide⟩,
      _, rfl, by decide⟩, rfl⟩
  have hdone : (alone.play history).Done := by
    refine ⟨fun c => ?_, rfl⟩
    cases c with
    | zero => exact .inr rfl
    | succ c => exact .inl rfl
  exact ⟨hregistry, hallowed, hdone, leavesBehind_iff hregistry hallowed hdone, by decide⟩

/-- **A registration left behind.** A handler of interrupts is about to be installed and has
found the terminal open; the terminal is closed, from the beginning to the end; and then the
handler is registered. -/
theorem leavesBehind_overtaken :
    ¬ ∀ history, Allowed alone history → (alone.play history).Done →
      ¬ (alone.play history).LeavesBehind := by
  intro hall
  let history : List Act :=
    [.record 0, .register 0, .finish, .surrender ⟨.winch, 5⟩, .surrender ⟨.cont, 4⟩,
      .surrender ⟨.tstp, 3⟩, .surrender ⟨.quit, 2⟩, .surrender ⟨.int, 1⟩, .drain, .begin,
      .ask 0, .install 0 .int (.script 7 [])]
  have hallowed : Allowed alone history :=
    ⟨⟨⟨⟨⟨⟨⟨⟨⟨⟨⟨⟨trivial, rfl⟩, _, _, rfl⟩, rfl⟩, rfl, rfl⟩, _, rfl, by decide⟩,
      _, rfl, by decide⟩, _, rfl, by decide⟩, _, rfl, by decide⟩, _, rfl, by decide⟩, rfl⟩,
      _, _, rfl⟩, rfl, _, _, rfl⟩
  have hdone : (alone.play history).Done := by
    refine ⟨fun c => ?_, rfl⟩
    cases c with
    | zero => exact .inr rfl
    | succ c => exact .inl rfl
  exact hall history hallowed hdone ⟨⟨.int, 6⟩, by decide, by decide⟩

end Teletype.SharedHandlers
