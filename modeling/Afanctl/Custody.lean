import Afanctl.Lib.Steps
import Afanctl.Supervisor.State

/-!
The custody automaton: what the daemon may do with the fan, one backend call at a
time, once a poll's command has been applied.

A `Move` is one call with the reaction to its answer. It carries the events the
calls record, each with the custody it is made in. The moves are the purpose of
the poll loop in its own terms:

* a takeover or a speed write needs a driving custody and a proven L2;
* an owned fan is given up only on a verified AUTO;
* a failed control write is a strike, and the third one latches.

`Obeys` is what a poll's command does before that, and `settled` the one step L1 may
end with, which forgets the strikes. `Poll` composes the three, and `Sound` is the
invariant they maintain.
-/

namespace Afanctl

open Afanctl.Lib

/-! ### Kinds of events -/

namespace Event

/-- A control write: a takeover or a speed write. -/
def control (e : Event) : Bool :=
  match e.op with
  | .setMode .manual _ => true
  | .writeSpeed _ _ => true
  | _ => false

/-- A call that may change the hardware. -/
def changing (e : Event) : Bool :=
  match e.op with
  | .setMode _ _ => true
  | .writeSpeed _ _ => true
  | .probeSafeRestore _ => true
  | _ => false

/-- An attempt to put the fan into AUTO. -/
def autoAttempt (e : Event) : Bool :=
  match e.op with
  | .setMode .auto _ => true
  | _ => false

/-- AUTO was verified: its write answered `Ok`, or the retry read it. -/
def verifiesAuto (e : Event) : Bool :=
  match e.op with
  | .setMode .auto (.ok _) => true
  | .readFan (.ok ⟨_, .auto⟩) => e.site == .autoRestoreRetry
  | _ => false

/-- A counted failure: a speed write, a takeover, or the release of a
`returnToAuto` decision that answered `Err`. -/
def counted (e : Event) : Bool :=
  match e.op with
  | .writeSpeed _ (.error _) => true
  | .setMode .manual (.error _) => true
  | .setMode .auto (.error _) => e.site == .act
  | _ => false

/-- Only the retry's look verifies AUTO, by reading it. -/
theorem verifiesAuto_look {site : Site} {answer : Except SmcError FanState} {custody : Custody} :
    (Event.mk site (.readFan answer) custody).verifiesAuto ↔
      site = .autoRestoreRetry ∧ ∃ rpm, answer = .ok ⟨rpm, .auto⟩ := by
  cases answer with
  | error e => simp [verifiesAuto]
  | ok fan =>
      obtain ⟨rpm, mode⟩ := fan
      cases mode <;> simp [verifiesAuto]

theorem not_control_of_autoAttempt {e : Event} (attempt : e.autoAttempt) : ¬ e.control := by
  obtain ⟨site, op, custody⟩ := e
  cases op with
  | setMode mode =>
      cases mode with
      | auto => nofun
      | manual => cases attempt
  | _ => cases attempt

theorem changing_of_autoAttempt {e : Event} (attempt : e.autoAttempt) : e.changing := by
  obtain ⟨site, op, custody⟩ := e
  cases op with
  | setMode mode => rfl
  | _ => cases attempt

/-- Calls from elsewhere than `act` are counted only as control writes. -/
theorem not_counted {e : Event} (quiet : ¬ e.control) (site : e.site ≠ .act) : ¬ e.counted := by
  obtain ⟨place, op, custody⟩ := e
  cases op with
  | setMode mode answer =>
      cases mode with
      | manual => exact absurd rfl quiet
      | auto =>
          cases answer with
          | ok mode => nofun
          | error e => simpa [counted] using site
  | writeSpeed rpm answer => exact absurd rfl quiet
  | _ => nofun

end Event

namespace Custody

/-! ### Reactions -/

/-- Control off; the written value and the count are forgotten. -/
def latched (c : Custody) : Custody :=
  { c with monitorOnly := true, lastWritten := none, writeFailures := 0 }

/-- AUTO was verified: nothing is owned and nothing is left to release. -/
def released (c : Custody) : Custody :=
  { c with manualArmed := false, autoRestorePending := false, lastWritten := none }

/-- A release failed and will be retried every poll. -/
def releasing (c : Custody) : Custody :=
  { c with autoRestorePending := true }

/-- L1 found a live target healthy. -/
def settled (c : Custody) : Custody :=
  { c with writeFailures := 0 }

/-- A degradation, by the answer to its AUTO write. -/
def degraded (answer : Except SmcError FanMode) (c : Custody) : Custody :=
  match answer with
  | .ok _ => c.latched.released
  | .error _ => c.latched.releasing

/-- One more strike; `answer` is the fallback's, should it fire. -/
def struck (answer : Except SmcError FanMode) (c : Custody) : Custody :=
  if writeFailFallback ≤ c.writeFailures + 1 then c.degraded answer
  else { c with writeFailures := c.writeFailures + 1 }

/-- The call a degradation makes. -/
def degradeEvent (answer : Except SmcError FanMode) (c : Custody) : Event :=
  ⟨.degradeToAuto, .setMode .auto answer, c.latched⟩

/-- The calls one more strike makes. -/
def struckLog (answer : Except SmcError FanMode) (c : Custody) : List Event :=
  if writeFailFallback ≤ c.writeFailures + 1 then [c.degradeEvent answer] else []

/-! ### Moves -/

/-- One step of the daemon between the command stage and the verdict of L1. -/
inductive Move : Custody → List Event → Custody → Prop where
  | sense {c : Custody} (site : Site) (answer : Except SmcError (List SensorReading)) :
      Move c [⟨site, .readSensors answer, c⟩] c
  | look {c : Custody} (site : Site) (answer : Except SmcError FanState) :
      ¬ (Event.mk site (.readFan answer) c).verifiesAuto → Move c [⟨site, .readFan answer, c⟩] c
  | lookFailed {c : Custody} (e : SmcError) (answer : Except SmcError FanMode) :
      Move c (⟨.l1Poll, .readFan (.error e), c⟩ :: c.struckLog answer) (c.struck answer)
  | takeover {c : Custody} (site : Site) (mode : FanMode) :
      c.Driving → c.l2Absent = false →
      Move c [⟨site, .setMode .manual (.ok mode), c⟩] { c with manualArmed := true }
  | takeoverFailed {c : Custody} (site : Site) (e : SmcError) (answer : Except SmcError FanMode) :
      c.Driving → c.l2Absent = false →
      Move c (⟨site, .setMode .manual (.error e), c⟩ :: c.struckLog answer) (c.struck answer)
  | write {c : Custody} (site : Site) (rpm verified : Nat) :
      c.Driving → c.l2Absent = false → c.manualArmed = true →
      Move c [⟨site, .writeSpeed rpm (.ok verified), c⟩] { c with lastWritten := some verified }
  | writeFailed {c : Custody} (site : Site) (rpm : Nat) (e : SmcError)
      (answer : Except SmcError FanMode) :
      c.Driving → c.l2Absent = false →
      Move c (⟨site, .writeSpeed rpm (.error e), c⟩ :: c.struckLog answer) (c.struck answer)
  | release {c : Custody} (mode : FanMode) :
      Move c [⟨.act, .setMode .auto (.ok mode), c⟩]
        { c with manualArmed := false, lastWritten := none }
  | releaseFailed {c : Custody} (e : SmcError) (answer : Except SmcError FanMode) :
      Move c (⟨.act, .setMode .auto (.error e), c⟩ :: c.struckLog answer) (c.struck answer)
  | seeAuto {c : Custody} (rpm : Nat) :
      Move c [⟨.autoRestoreRetry, .readFan (.ok ⟨rpm, .auto⟩), c⟩] c.released
  | restore {c : Custody} (mode : FanMode) :
      Move c [⟨.autoRestoreRetry, .setMode .auto (.ok mode), c⟩] c.released
  | restoreFailed {c : Custody} (e : SmcError) :
      Move c [⟨.autoRestoreRetry, .setMode .auto (.error e), c⟩] c
  | degrade {c : Custody} (answer : Except SmcError FanMode) :
      Move c [c.degradeEvent answer] (c.degraded answer)

/-! ### Commands and whole polls -/

/-- A control mode is accepted. Out of a latch it re-arms control and supersedes
the pending release. -/
def accepting (requested : RunMode) (c : Custody) : Custody :=
  if c.monitorOnly then
    { c with mode := requested, monitorOnly := false, writeFailures := 0,
             autoRestorePending := false }
  else { c with mode := requested }

theorem accepting_kept (requested : RunMode) (c : Custody) :
    (c.accepting requested).mode = requested ∧
      (c.accepting requested).lastWritten = c.lastWritten := by
  unfold accepting
  split <;> exact ⟨rfl, rfl⟩

/-- What the command stage does with a poll's fresh command, if there is one. -/
inductive Obeys : Option RunMode → Custody → List Event → Custody → Prop where
  | ignored {c : Custody} : Obeys none c [] c
  | refused {c : Custody} {requested : RunMode} :
      requested ≠ .observe → c.l2Absent = true → Obeys (some requested) c [] c
  | accepted {c : Custody} {requested : RunMode} :
      requested ≠ .observe → c.l2Absent = false →
      Obeys (some requested) c [] (c.accepting requested)
  | already {c : Custody} : c.mode = .observe → Obeys (some .observe) c [] c
  | left {c : Custody} : c.mode ≠ .observe → c.manualArmed = false →
      Obeys (some .observe) c [] { c with mode := .observe }
  | released {c : Custody} (mode : FanMode) : c.mode ≠ .observe → c.manualArmed = true →
      Obeys (some .observe) c [⟨.applyMode, .setMode .auto (.ok mode), c⟩]
        { c.released with mode := .observe }
  | releaseFailed {c : Custody} (e : SmcError) (answer : Except SmcError FanMode) :
      c.mode ≠ .observe → c.manualArmed = true →
      Obeys (some .observe) c
        (⟨.applyMode, .setMode .auto (.error e), c⟩ :: c.releasing.struckLog answer)
        { c.releasing.struck answer with mode := .observe }

/-- A poll: the command, the moves, and perhaps the strikes forgotten. -/
def Poll (command : Option RunMode) (c : Custody) (es : List Event) (c' : Custody) : Prop :=
  ∃ commanded es₁ moved es₂, Obeys command c es₁ commanded ∧ Steps Move commanded es₂ moved ∧
    es = es₁ ++ es₂ ∧ (c' = moved ∨ c' = moved.settled)

/-! ### The invariant -/

/-- What holds of the custody between moves. -/
structure Sound (c : Custody) : Prop where
  /-- an owned fan that is not driven is being released -/
  owned : c.manualArmed = true → ¬ c.Driving → c.autoRestorePending = true
  /-- no control mode without a proven L2 -/
  proven : c.l2Absent = true → c.mode = .observe
  /-- a live target belongs to an owned fan -/
  written : c.lastWritten.isSome → c.manualArmed = true
  /-- the third strike never stands -/
  counted : c.writeFailures < writeFailFallback

theorem writeFailFallback_pos : 0 < writeFailFallback := by decide

namespace Sound

variable {c : Custody}

theorem l2Absent_of_driving (sound : c.Sound) (driving : c.Driving) : c.l2Absent = false := by
  cases absent : c.l2Absent with
  | false => rfl
  | true => exact absurd (sound.proven absent) driving.1

theorem driving_of_owned (sound : c.Sound) (armed : c.manualArmed = true)
    (idle : c.autoRestorePending = false) : c.Driving := by
  apply Decidable.byContradiction
  intro off
  simpa [idle] using sound.owned armed off

theorem released (sound : c.Sound) : c.released.Sound where
  owned := fun armed => by cases armed
  proven := sound.proven
  written := fun live => by cases live
  counted := sound.counted

theorem settled (sound : c.Sound) : c.settled.Sound :=
  { sound with counted := writeFailFallback_pos }

theorem degraded (sound : c.Sound) (answer : Except SmcError FanMode) :
    (c.degraded answer).Sound := by
  cases answer with
  | ok _ =>
      exact
        { owned := fun armed => by cases armed
          proven := sound.proven
          written := fun live => by cases live
          counted := writeFailFallback_pos }
  | error _ =>
      exact
        { owned := fun _ _ => rfl
          proven := sound.proven
          written := fun live => by cases live
          counted := writeFailFallback_pos }

theorem struck (sound : c.Sound) (answer : Except SmcError FanMode) : (c.struck answer).Sound := by
  unfold Custody.struck
  split
  · exact sound.degraded answer
  · next below => exact { sound with counted := by simpa using below }

/-- Every move keeps the custody sound. -/
theorem move {c' : Custody} {es : List Event} (move : Move c es c') (sound : c.Sound) :
    c'.Sound := by
  cases move with
  | sense | look | restoreFailed => exact sound
  | lookFailed _ answer => exact sound.struck answer
  | takeoverFailed _ _ answer => exact sound.struck answer
  | writeFailed _ _ _ answer => exact sound.struck answer
  | releaseFailed _ answer => exact sound.struck answer
  | takeover _ _ driving =>
      exact { sound with owned := fun _ off => absurd driving off, written := fun _ => rfl }
  | write _ _ _ _ _ armed => exact { sound with written := fun _ => armed }
  | release =>
      exact
        { owned := fun armed => by cases armed
          proven := sound.proven
          written := fun live => by cases live
          counted := sound.counted }
  | seeAuto | restore => exact sound.released
  | degrade answer => exact sound.degraded answer

theorem accepting (sound : c.Sound) {requested : RunMode} (control : requested ≠ .observe)
    (proven : c.l2Absent = false) : (c.accepting requested).Sound := by
  unfold Custody.accepting
  cases latched : c.monitorOnly with
  | true =>
      exact
        { owned := fun _ off => absurd ⟨control, rfl⟩ off
          proven := fun absent => by simp [proven] at absent
          written := sound.written
          counted := writeFailFallback_pos }
  | false =>
      exact
        { owned := fun _ off => absurd ⟨control, rfl⟩ off
          proven := fun absent => by simp [proven] at absent
          written := sound.written
          counted := sound.counted }

/-- Leaving control is sound once an owned fan is being released. -/
theorem leaving (sound : c.Sound) (covered : c.manualArmed = true → c.autoRestorePending = true) :
    { c with mode := .observe }.Sound where
  owned := fun armed _ => covered armed
  proven := fun _ => rfl
  written := sound.written
  counted := sound.counted

/-- The command stage keeps the custody sound. -/
theorem obeys {command : Option RunMode} {c' : Custody} {es : List Event}
    (obeys : Obeys command c es c') (sound : c.Sound) : c'.Sound := by
  cases obeys with
  | ignored | refused | already => exact sound
  | accepted control proven => exact sound.accepting control proven
  | left _ free => exact sound.leaving fun armed => by simp [free] at armed
  | released => exact sound.released.leaving fun armed => by cases armed
  | releaseFailed e answer =>
      have releasing : c.releasing.Sound := { sound with owned := fun _ _ => rfl }
      refine (releasing.struck answer).leaving fun armed => ?_
      unfold Custody.struck at armed ⊢
      split
      · cases answer with
        | ok _ => simp_all [Custody.degraded, Custody.released]
        | error _ => rfl
      · rfl

/-- A poll keeps the custody sound. -/
theorem poll {command : Option RunMode} {c' : Custody} {es : List Event}
    (poll : Poll command c es c') (sound : c.Sound) : c'.Sound := by
  obtain ⟨commanded, es₁, moved, es₂, obeys, steps, -, rfl | rfl⟩ := poll
  · exact steps.invariant (fun step sound => sound.move step) (sound.obeys obeys)
  · exact (steps.invariant (fun step sound => sound.move step) (sound.obeys obeys)).settled

end Sound

/-! ### What moves keep -/

theorem struck_mode (answer : Except SmcError FanMode) (c : Custody) :
    (c.struck answer).mode = c.mode ∧ (c.struck answer).l2Absent = c.l2Absent := by
  unfold struck
  split
  · cases answer <;> exact ⟨rfl, rfl⟩
  · exact ⟨rfl, rfl⟩

/-- No move changes the mode or learns anything about L2. -/
theorem Move.mode_eq {c c' : Custody} {es : List Event} (move : Move c es c') :
    c'.mode = c.mode ∧ c'.l2Absent = c.l2Absent := by
  cases move with
  | lookFailed _ answer => exact struck_mode answer c
  | takeoverFailed _ _ answer => exact struck_mode answer c
  | writeFailed _ _ _ answer => exact struck_mode answer c
  | releaseFailed _ answer => exact struck_mode answer c
  | degrade answer => cases answer <;> exact ⟨rfl, rfl⟩
  | _ => exact ⟨rfl, rfl⟩

/-! ### The calls of a strike and of a command -/

theorem struckLog_attempts (answer : Except SmcError FanMode) (c : Custody) :
    ∀ e ∈ c.struckLog answer, e.autoAttempt := by
  intro e mem
  unfold struckLog at mem
  split at mem
  · rw [List.mem_singleton.mp mem]
    rfl
  · cases mem

/-- A failing call that is a strike: the call itself, then at most AUTO. -/
theorem mem_strike {c : Custody} {first e : Event} {answer : Except SmcError FanMode}
    (mem : e ∈ first :: c.struckLog answer) : e = first ∨ e.autoAttempt :=
  (List.mem_cons.mp mem).imp id (struckLog_attempts answer c e)

theorem Obeys.attempts {command : Option RunMode} {c c' : Custody} {es : List Event}
    (obeys : Obeys command c es c') :
    ∀ e ∈ es, e.autoAttempt := by
  intro e mem
  cases obeys with
  | released mode =>
      rw [List.mem_singleton.mp mem]
      rfl
  | releaseFailed error answer =>
      rcases mem_strike mem with rfl | attempt
      · rfl
      · exact attempt
  | _ => cases mem

/-- A command that leaves a control mode behind makes no call. -/
theorem Obeys.silent {command : Option RunMode} {c c' : Custody} {es : List Event}
    (obeys : Obeys command c es c') (mode : c'.mode ≠ .observe) : es = [] := by
  cases obeys with
  | released | releaseFailed => exact absurd rfl mode
  | _ => rfl

end Custody

end Afanctl
