import Afanctl.Lib.Since
import Afanctl.Custody

/-!
What the call history says of the written value.

A verified speed write stands until another one replaces it, AUTO is verified, or a
fallback fires. `Account` ties the custody to the history that led to it: the written
value is the standing one, now and at every call made on the way, and a call that failed
was followed by no custody with a newer value or a newly owned fan. Every move, command
and poll of the automaton keeps the account.
-/

namespace Afanctl

open Afanctl.Lib

namespace Event

/-- What a speed write verified. -/
def verified (e : Event) : Option Nat :=
  match e.op with
  | .writeSpeed _ (.ok v) => some v
  | _ => none

/-- The AUTO write of a degradation. -/
def fallback (e : Event) : Bool := e.autoAttempt && e.site == .degradeToAuto

/-- A written value stands no longer: another was verified, or AUTO was, or a fallback
fired. -/
def ends (e : Event) : Bool := e.verified.isSome || e.verifiesAuto || e.fallback

/-- A write or a mode change that answered `Err`. -/
def failed (e : Event) : Bool :=
  match e.op with
  | .writeSpeed _ (.error _) => true
  | .setMode _ (.error _) => true
  | _ => false

theorem ends_of_verified {v : Nat} {e : Event} (verified : e.verified = some v) :
    e.ends = true := by
  simp [ends, verified]

end Event

/-- The last verified write was of `v`, and it still stands. -/
def Standing (v : Nat) : List Event → Prop :=
  Since (fun _ e => e.verified = some v) (fun _ e => e.ends = false)

section Standing

variable {history : List Event} {e : Event} {v w : Nat}

/-- A call that ends nothing changes nothing. -/
theorem standing_quiet (quiet : e.ends = false) :
    Standing v (history ++ [e]) ↔ Standing v history := by
  rw [Standing, since_concat]
  constructor
  · rintro (now | ⟨standing, -⟩)
    · rw [Event.ends_of_verified now] at quiet
      cases quiet
    · exact standing
  · exact fun standing => .inr ⟨standing, quiet⟩

/-- After a verified write its value stands, and no other; after any other end nothing
does. -/
theorem standing_ended (ends : e.ends = true) :
    Standing v (history ++ [e]) ↔ e.verified = some v := by
  rw [Standing, since_concat]
  constructor
  · rintro (now | ⟨-, kept⟩)
    · exact now
    · rw [ends] at kept
      cases kept
  · exact .inl

end Standing

namespace Custody

/-- No newer value is written and no fan newly owned. -/
structure NoNewer (c c' : Custody) : Prop where
  written : ∀ v, c'.lastWritten = some v → c.lastWritten = some v
  armed : c'.manualArmed = true → c.manualArmed = true

theorem NoNewer.refl (c : Custody) : c.NoNewer c := ⟨fun _ => id, id⟩

theorem NoNewer.trans {c₁ c₂ c₃ : Custody} (first : c₁.NoNewer c₂) (second : c₂.NoNewer c₃) :
    c₁.NoNewer c₃ :=
  ⟨fun v => first.written v ∘ second.written v, first.armed ∘ second.armed⟩

/-- The custody of the next call, or the last one. -/
def upcoming (c : Custody) : List Event → Custody
  | [] => c
  | e :: _ => e.custody

theorem upcoming_concat (c : Custody) (rest : List Event) (e : Event) :
    c.upcoming (rest ++ [e]) = e.custody.upcoming rest := by
  cases rest <;> rfl

/-- The custody is what the history accounts for. -/
structure Account (c : Custody) (history : List Event) : Prop where
  /-- the written value is the standing one -/
  booked : ∀ v, c.lastWritten = some v ↔ Standing v history
  /-- as it was at every call -/
  held : ∀ before e rest, history = before ++ e :: rest → ∀ v,
    e.custody.lastWritten = some v → Standing v before
  /-- a failed call raised nothing -/
  unraised : ∀ before e rest, history = before ++ e :: rest → e.failed = true →
    e.custody.NoNewer (c.upcoming rest)

namespace Account

variable {c c' : Custody} {history : List Event} {e : Event}

/-- A change without a call. -/
theorem changed (account : c.Account history) (written : c'.lastWritten = c.lastWritten)
    (armed : c'.manualArmed = true → c.manualArmed = true) : c'.Account history where
  booked := written ▸ account.booked
  held := account.held
  unraised := fun before e rest split failed => by
    have raised := account.unraised before e rest split failed
    cases rest with
    | nil => exact raised.trans ⟨fun v live => written ▸ live, armed⟩
    | cons next rest => exact raised

/-- A call and the change it brings. -/
theorem called (account : c.Account history) (snapshot : c.NoNewer e.custody)
    (booked : ∀ v, c'.lastWritten = some v ↔ Standing v (history ++ [e]))
    (unraised : e.failed = true → e.custody.NoNewer c') : c'.Account (history ++ [e]) where
  booked := booked
  held := fun before x rest split v live => by
    rcases concat_split split with ⟨rfl, rfl, rfl⟩ | ⟨init, rfl, rfl⟩
    · exact (account.booked v).mp (snapshot.written v live)
    · exact account.held before x init rfl v live
  unraised := fun before x rest split failed => by
    rcases concat_split split with ⟨rfl, rfl, rfl⟩ | ⟨init, rfl, rfl⟩
    · exact unraised failed
    · have raised := account.unraised before x init rfl failed
      rw [upcoming_concat]
      cases init with
      | nil => exact raised.trans snapshot
      | cons next init => exact raised

/-- A call that ends nothing. -/
theorem quiet (account : c.Account history) (snapshot : e.custody = c) (quiet : e.ends = false)
    (written : c'.lastWritten = c.lastWritten)
    (armed : e.failed = true → c'.manualArmed = true → c.manualArmed = true) :
    c'.Account (history ++ [e]) := by
  refine account.called (snapshot ▸ .refl c) (fun v => ?_) fun failed => ?_
  · rw [written, standing_quiet quiet]
    exact account.booked v
  · rw [snapshot]
    exact ⟨fun v live => written ▸ live, armed failed⟩

/-- A call that ends what stood leaves what it verified. -/
theorem ended (account : c.Account history) (snapshot : c.NoNewer e.custody)
    (ends : e.ends = true) (written : c'.lastWritten = e.verified)
    (unraised : e.failed = true → e.custody.NoNewer c') : c'.Account (history ++ [e]) := by
  refine account.called snapshot (fun v => ?_) unraised
  rw [written, standing_ended ends]

/-! ### The automaton keeps it -/

theorem degraded (account : c.Account history) (answer : Except SmcError FanMode) :
    (c.degraded answer).Account (history ++ [c.degradeEvent answer]) := by
  cases answer with
  | ok mode => exact account.ended ⟨nofun, id⟩ rfl rfl nofun
  | error e => exact account.ended ⟨nofun, id⟩ rfl rfl fun _ => ⟨nofun, id⟩

theorem struck (account : c.Account history) (answer : Except SmcError FanMode) :
    (c.struck answer).Account (history ++ c.struckLog answer) := by
  unfold Custody.struck struckLog
  split
  · exact account.degraded answer
  · rw [List.append_nil]
    exact account.changed rfl id

/-- A call that fails without ending anything, and the strike it is. -/
theorem strike (account : c.Account history) (snapshot : e.custody = c) (quiet : e.ends = false)
    (answer : Except SmcError FanMode) :
    (c.struck answer).Account (history ++ e :: c.struckLog answer) := by
  have counted := (account.quiet snapshot quiet rfl fun _ => id).struck answer
  rwa [List.append_assoc] at counted

theorem move {es : List Event} (move : Move c es c') (account : c.Account history) :
    c'.Account (history ++ es) := by
  cases move with
  | sense => exact account.quiet rfl rfl rfl nofun
  | look site answer unseen =>
      have quiet : ¬ (Event.mk site (.readFan answer) c).ends := by
        simpa [Event.ends, Event.verified, Event.fallback, Event.autoAttempt] using unseen
      exact account.quiet rfl (Bool.eq_false_iff.mpr quiet) rfl nofun
  | lookFailed _ answer => exact account.strike rfl rfl answer
  | takeover => exact account.quiet rfl rfl rfl nofun
  | takeoverFailed _ _ answer => exact account.strike rfl rfl answer
  | write => exact account.ended (.refl c) rfl rfl nofun
  | writeFailed _ _ _ answer => exact account.strike rfl rfl answer
  | release => exact account.ended (.refl c) rfl rfl nofun
  | releaseFailed _ answer => exact account.strike rfl rfl answer
  | seeAuto | restore => exact account.ended (.refl c) rfl rfl nofun
  | restoreFailed => exact account.quiet rfl rfl rfl fun _ => id
  | degrade answer => exact account.degraded answer

theorem obeys {command : Option RunMode} {es : List Event} (obeys : Obeys command c es c')
    (account : c.Account history) : c'.Account (history ++ es) := by
  cases obeys with
  | ignored | refused | already =>
      rw [List.append_nil]
      exact account
  | accepted =>
      rw [List.append_nil]
      refine account.changed ?_ fun armed => ?_
      · unfold accepting
        split <;> rfl
      · unfold accepting at armed
        split at armed <;> exact armed
  | left =>
      rw [List.append_nil]
      exact account.changed rfl id
  | released => exact account.ended (.refl c) rfl rfl nofun
  | releaseFailed error answer =>
      have releasing : c.releasing.Account (history ++ [_]) :=
        account.quiet (e := ⟨.applyMode, .setMode .auto (.error error), c⟩) rfl rfl rfl fun _ => id
      have counted : Account { c.releasing.struck answer with mode := .observe } _ :=
        (releasing.struck answer).changed rfl id
      rwa [List.append_assoc] at counted

/-- A poll keeps the account. -/
theorem poll {command : Option RunMode} {es : List Event} (poll : Poll command c es c')
    (account : c.Account history) : c'.Account (history ++ es) := by
  obtain ⟨commanded, es₁, moved, es₂, obeys, steps, rfl, ends⟩ := poll
  have moved := steps.history (I := Account) (fun step account => account.move step)
    (account.obeys obeys)
  rw [List.append_assoc] at moved
  rcases ends with rfl | rfl
  · exact moved
  · exact moved.changed rfl id

end Account

end Custody

end Afanctl
