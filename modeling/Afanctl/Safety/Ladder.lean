import Afanctl.Safety.Latch

/-!
The failure ladder.

Every counted failure is a strike, so moves raise the strikes by the failures they
contain or latch. What can still miss the third one is the end of L1, which forgets
the strikes on a healthy live target without asking whether this poll's own write
failed: a refused write leaves the older target live, and a tach that still agrees
with it is healthy. `Masked` is the condition of exactly these polls.
-/

namespace Afanctl

open Afanctl.Lib

/-- How many counted failures a list of calls contains. -/
def failures (es : List Event) : Nat := es.countP (·.counted)

theorem failures_append (es es' : List Event) :
    failures (es ++ es') = failures es + failures es' :=
  List.countP_append

namespace Custody

variable {c c' : Custody} {es : List Event}

/-- From `c` to `c'` the strikes grew by `failures` at least, or the latch is set. -/
def Climbs (c : Custody) (failures : Nat) (c' : Custody) : Prop :=
  c'.monitorOnly = true ∨ c.writeFailures + failures ≤ c'.writeFailures

theorem struckLog_failures (answer : Except SmcError FanMode) (c : Custody) :
    failures (c.struckLog answer) = 0 := by
  unfold struckLog degradeEvent
  split
  · cases answer <;> rfl
  · rfl

/-- One call and a strike climb at least as far as the call counts. -/
theorem strike_climbs (first : Event) (answer : Except SmcError FanMode) (c : Custody) :
    c.Climbs (failures (first :: c.struckLog answer)) (c.struck answer) := by
  have single : failures (first :: c.struckLog answer) ≤ 1 := by
    have rest := struckLog_failures answer c
    unfold failures at rest ⊢
    rw [List.countP_cons, rest]
    split <;> simp
  unfold Climbs struck
  split
  · exact .inl (degraded_latched answer c)
  · exact .inr (Nat.add_le_add_left single c.writeFailures)

/-- A move climbs by its counted failures. -/
theorem Move.climbs (move : Move c es c') : c.Climbs (failures es) c' := by
  cases move with
  | lookFailed _ answer => exact strike_climbs _ answer c
  | takeoverFailed _ _ answer => exact strike_climbs _ answer c
  | writeFailed _ _ _ answer => exact strike_climbs _ answer c
  | releaseFailed _ answer => exact strike_climbs _ answer c
  | degrade answer => exact .inl (degraded_latched answer c)
  | _ => exact .inr (Nat.le_refl _)

theorem steps_climb (steps : Steps Move c es c') : c.Climbs (failures es) c' := by
  induction steps with
  | refl => exact .inr (Nat.le_refl _)
  | tail _ last ih =>
      rcases ih with latched | count
      · exact .inl (last.latched latched)
      · rcases last.climbs with latched | more
        · exact .inl latched
        · rw [Climbs, failures_append]
          omega

/-! ### The latch is set only along with an attempt at AUTO -/

theorem strike_attempts (first : Event) (answer : Except SmcError FanMode) (c : Custody) :
    (∃ e ∈ first :: c.struckLog answer, e.autoAttempt) ∨
      ((c.struck answer).monitorOnly = true → c.monitorOnly = true) := by
  unfold struckLog struck
  split
  · exact .inl ⟨c.degradeEvent answer, by simp, rfl⟩
  · exact .inr id

theorem Move.attempts_to_latch (move : Move c es c') :
    (∃ e ∈ es, e.autoAttempt) ∨ (c'.monitorOnly = true → c.monitorOnly = true) := by
  cases move with
  | lookFailed _ answer => exact strike_attempts _ answer c
  | takeoverFailed _ _ answer => exact strike_attempts _ answer c
  | writeFailed _ _ _ answer => exact strike_attempts _ answer c
  | releaseFailed _ answer => exact strike_attempts _ answer c
  | degrade answer => exact .inl ⟨_, List.mem_singleton.mpr rfl, rfl⟩
  | _ => exact .inr id

theorem Obeys.attempts_to_latch {command : Option RunMode} (obeys : Obeys command c es c') :
    (∃ e ∈ es, e.autoAttempt) ∨ (c'.monitorOnly = true → c.monitorOnly = true) := by
  cases obeys with
  | releaseFailed => exact .inl ⟨_, List.mem_cons_self, rfl⟩
  | accepted => exact .inr fun latched => by simp [accepting_unlatched] at latched
  | _ => exact .inr id

theorem Poll.attempts_to_latch {command : Option RunMode} (poll : Poll command c es c') :
    (∃ e ∈ es, e.autoAttempt) ∨ (c'.monitorOnly = true → c.monitorOnly = true) := by
  obtain ⟨commanded, es₁, moved, es₂, obeys, steps, rfl, ends⟩ := poll
  have kept : c'.monitorOnly = moved.monitorOnly := by rcases ends with rfl | rfl <;> rfl
  rcases obeys.attempts_to_latch with ⟨e, mem, attempt⟩ | before
  · exact .inl ⟨e, List.mem_append_left es₂ mem, attempt⟩
  · rcases steps.emits_or_related
      (R := fun a b : Custody => b.monitorOnly = true → a.monitorOnly = true)
      (fun _ => id) (fun first second latched => first (second latched)) Move.attempts_to_latch with
      ⟨e, mem, attempt⟩ | after
    · exact .inl ⟨e, List.mem_append_right es₁ mem, attempt⟩
    · exact .inr fun latched => before (after (kept ▸ latched))

end Custody

/-! ### A write that fails while the last target stays live -/

namespace Frame

variable {σ : Type}

/-- What L1 looks at. -/
def l1View (p : Frame σ) : Bool × Bool × Bool × Option Nat × Option Nat × Nat × σ :=
  (p.manualArmed, p.autoRestorePending, p.monitorOnly, p.lastWritten, p.prevActual, p.stallPolls,
    p.smc)

variable [Smc σ]

/-- Acting on `decision` over an owned fan makes one call, which is refused and leaves
the backend in `smc`. -/
inductive Refuses (p : Frame σ) : Decision → σ → Prop where
  | setSpeed (rpm : Nat) (e : SmcError) :
      p.lastWritten ≠ some (clamp p.hwMin p.hwMax rpm) →
      (Smc.writeSpeed (clamp p.hwMin p.hwMax rpm) p.smc).1 = .error e →
      Refuses p (.setSpeed rpm) (Smc.writeSpeed (clamp p.hwMin p.hwMax rpm) p.smc).2
  | escalateMax (e : SmcError) :
      p.lastWritten ≠ some (clamp p.hwMin p.hwMax p.cfgMaxRpm) →
      (Smc.writeSpeed (clamp p.hwMin p.hwMax p.cfgMaxRpm) p.smc).1 = .error e →
      Refuses p .escalateMax (Smc.writeSpeed (clamp p.hwMin p.hwMax p.cfgMaxRpm) p.smc).2
  | returnToAuto (e : SmcError) :
      (Smc.setMode .auto p.smc).1 = .error e →
      Refuses p .returnToAuto (Smc.setMode .auto p.smc).2

variable {p q : Frame σ}

theorem Refuses.congr {decision : Decision} {smc : σ} (refuses : p.Refuses decision smc)
    (live : q.lastWritten = p.lastWritten) (hwMin : q.hwMin = p.hwMin) (hwMax : q.hwMax = p.hwMax)
    (cfgMaxRpm : q.cfgMaxRpm = p.cfgMaxRpm) (same : q.smc = p.smc) : q.Refuses decision smc := by
  cases refuses with
  | setSpeed rpm e fresh answer =>
      rw [← live, ← hwMin, ← hwMax] at fresh
      rw [← hwMin, ← hwMax, ← same] at answer ⊢
      exact .setSpeed rpm e fresh answer
  | escalateMax e fresh answer =>
      rw [← live, ← hwMin, ← hwMax, ← cfgMaxRpm] at fresh
      rw [← hwMin, ← hwMax, ← cfgMaxRpm, ← same] at answer ⊢
      exact .escalateMax e fresh answer
  | returnToAuto e answer =>
      rw [← same] at answer ⊢
      exact .returnToAuto e answer

theorem l1Healthy_congr (same : p.l1View = q.l1View) (applied : Option Nat) :
    p.L1Healthy applied ↔ q.L1Healthy applied := by
  simp only [l1View, Prod.mk.injEq] at same
  obtain ⟨armed, pending, control, live, prev, stall, smc⟩ := same
  simp only [L1Healthy, Healthy, TargetHealthy, Reasserts, StallFires, armed, pending, control,
    live, prev, stall, smc]

theorem failWrite_view (msg : String) (below : p.writeFailures + 1 < writeFailFallback) :
    (p.failWrite msg).l1View = p.l1View := by
  have open' : ¬ writeFailFallback ≤ p.writeFailures + 1 := Nat.not_le.mpr below
  simp [failWrite, note, noteRecent, open', l1View]

/-- The call that `act` makes is one that counts nothing, or a strike from `q`. -/
def QuietOrStruck (p : Frame σ) (result : Frame σ × Option Nat) (struck : Frame σ → Prop) : Prop :=
  (∃ es, result.1.log = p.log ++ es ∧ failures es = 0) ∨
    ∃ (q : Frame σ) (msg : String), result = (q.failWrite msg, none) ∧ struck q

theorem writeOwned_quiet_or_struck (rpm : Nat) :
    p.QuietOrStruck (p.writeOwned rpm) fun q =>
      p.lastWritten ≠ some (clamp p.hwMin p.hwMax rpm) ∧
      (∃ e, (Smc.writeSpeed (clamp p.hwMin p.hwMax rpm) p.smc).1 = .error e) ∧
      q = (p.writeSpeed .writeControlled (clamp p.hwMin p.hwMax rpm)).2 := by
  by_cases same : p.lastWritten = some (clamp p.hwMin p.hwMax rpm)
  · rw [writeOwned_same same]
    exact .inl ⟨[], by simp, rfl⟩
  · cases answer : (Smc.writeSpeed (clamp p.hwMin p.hwMax rpm) p.smc).1 with
    | ok verified =>
        rw [writeOwned_ok same answer]
        exact .inl ⟨_, writeSpeed_log .., by rw [answer]; rfl⟩
    | error e =>
        rw [writeOwned_error same answer]
        exact .inr ⟨_, _, rfl, same, ⟨e, rfl⟩, rfl⟩

/-- What a strike of `act` on `decision` leaves: over an owned fan, `p` after a call
that `Refuses`; over any other, a frame with `p`'s target and count. -/
structure Struck (p : Frame σ) (decision : Decision) (q : Frame σ) : Prop where
  live : q.lastWritten = p.lastWritten
  count : q.writeFailures = p.writeFailures
  control : q.monitorOnly = p.monitorOnly
  refused : p.manualArmed = true →
    p.Refuses decision q.smc ∧ q.l1View = { p with smc := q.smc }.l1View

theorem writeControlled_quiet_or_struck {decision : Decision} {rpm : Nat}
    (refuses : ∀ e, p.lastWritten ≠ some (clamp p.hwMin p.hwMax rpm) →
      (Smc.writeSpeed (clamp p.hwMin p.hwMax rpm) p.smc).1 = .error e →
      p.Refuses decision (Smc.writeSpeed (clamp p.hwMin p.hwMax rpm) p.smc).2) :
    p.QuietOrStruck (p.writeControlled rpm) (p.Struck decision) := by
  cases armed : p.manualArmed with
  | true =>
      rw [writeControlled_armed rpm armed]
      refine (writeOwned_quiet_or_struck rpm).imp id ?_
      rintro ⟨q, msg, eq, fresh, ⟨e, answer⟩, rfl⟩
      exact ⟨_, msg, eq, ⟨rfl, rfl, rfl, fun _ => ⟨refuses e fresh answer, rfl⟩⟩⟩
  | false =>
      have unowned : ∀ {c : Prop}, p.manualArmed = true → c := fun owned => by
        simp [armed] at owned
      cases answer : (Smc.setMode .manual p.smc).1 with
      | error e =>
          rw [writeControlled_refused armed answer]
          exact .inr ⟨_, _, rfl, ⟨rfl, rfl, rfl, unowned⟩⟩
      | ok mode =>
          rw [writeControlled_taken armed answer]
          have taken : (p.setMode .enterManual .manual).2.log
              = p.log ++ [⟨.enterManual, .setMode .manual (.ok mode), p.toCustody⟩] := by
            rw [setMode_log, answer]
          rcases writeOwned_quiet_or_struck
            (p := { (p.setMode .enterManual .manual).2 with manualArmed := true }) rpm with
            ⟨es, log, quiet⟩ | ⟨q, msg, eq, -, -, rfl⟩
          · refine .inl ⟨⟨.enterManual, .setMode .manual (.ok mode), p.toCustody⟩ :: es, ?_, ?_⟩
            · rw [log]
              show (p.setMode .enterManual .manual).2.log ++ es = _
              rw [taken, List.append_assoc]
              rfl
            · simpa [failures, List.countP_cons, Event.counted] using quiet
          · exact .inr ⟨_, msg, eq, ⟨rfl, rfl, rfl, unowned⟩⟩

/-- Acting counts nothing, or it is one strike. -/
theorem act_quiet_or_struck (decision : Decision) (control : p.monitorOnly = false) :
    p.QuietOrStruck (p.act decision) (p.Struck decision) := by
  cases decision with
  | observe =>
      rw [act_observe]
      exact .inl ⟨[], by simp, rfl⟩
  | setSpeed rpm =>
      rw [act_setSpeed rpm control]
      exact writeControlled_quiet_or_struck (.setSpeed rpm)
  | escalateMax =>
      rw [act_escalateMax control]
      exact writeControlled_quiet_or_struck .escalateMax
  | returnToAuto =>
      cases armed : p.manualArmed with
      | false =>
          rw [act_returnToAuto_free armed]
          exact .inl ⟨[], by simp, rfl⟩
      | true =>
          cases answer : (Smc.setMode .auto p.smc).1 with
          | ok mode =>
              rw [act_returnToAuto_ok control armed answer]
              exact .inl ⟨_, setMode_log .., by rw [answer]; rfl⟩
          | error e =>
              rw [act_returnToAuto_error control armed answer]
              exact .inr ⟨_, _, rfl, ⟨rfl, rfl, rfl, fun _ => ⟨.returnToAuto e answer, rfl⟩⟩⟩

/-- A refused call below the fallback leaves L1 the frame the call left. -/
theorem act_of_refuses {decision : Decision} {smc : σ} (refuses : p.Refuses decision smc)
    (control : p.monitorOnly = false) (armed : p.manualArmed = true)
    (below : p.writeFailures + 1 < writeFailFallback) :
    (p.act decision).2 = none ∧ (p.act decision).1.l1View = { p with smc := smc }.l1View := by
  cases refuses with
  | setSpeed rpm e fresh answer =>
      rw [act_setSpeed rpm control, writeControlled_armed rpm armed, writeOwned_error fresh answer]
      exact ⟨rfl, failWrite_view _ below⟩
  | escalateMax e fresh answer =>
      rw [act_escalateMax control, writeControlled_armed _ armed, writeOwned_error fresh answer]
      exact ⟨rfl, failWrite_view _ below⟩
  | returnToAuto e answer =>
      rw [act_returnToAuto_error control armed answer]
      exact ⟨rfl, failWrite_view _ below⟩

theorem L1Healthy.live {applied : Option Nat} (healthy : p.L1Healthy applied) :
    p.lastWritten.isSome := by
  obtain ⟨-, -, fan, -, ⟨-, written, live, -⟩ | ⟨-, -, written, live, -⟩⟩ := healthy <;>
    simp [live]

end Frame

namespace Supervisor

section Runs

variable {σ : Type} [Smc σ]

/-- The write of the poll's decision is refused, below the fallback, and behind that
L1 finds the fan and its older target healthy. -/
def Masked (host : Host) (s : Supervisor σ) : Prop :=
  s.autoRestorePending = false ∧ s.monitorOnly = false ∧ s.writeFailures + 1 < writeFailFallback ∧
    ∃ smc, (s.observed host).Refuses
        (controllerStep s.toCustody (readings s.smc) s.controller).1 smc ∧
      { s.observed host with smc := smc }.L1Healthy none

variable [SerdeJson]

variable {host : Host} {s : Supervisor σ}

/-- The retry counts nothing, and changes nothing or releases. -/
theorem retried_unapplied (unapplied : ¬ s.Applies host) :
    ((s.retried host).toCustody = s.toCustody ∨
      (s.retried host).toCustody = s.toCustody.released) ∧ failures (s.retried host).log = 0 := by
  obtain ⟨cmd, ticks, errors, notes, eq⟩ := commanded_unapplied unapplied
  have custody : (s.commanded host).toCustody = s.toCustody := by rw [eq]; rfl
  have nothing : (s.commanded host).log = [] := by rw [eq]; rfl
  constructor
  · rw [← custody]
    exact Frame.autoRestoreRetry_toCustody (s.commanded host)
  · obtain ⟨es, log, quiet⟩ := Frame.autoRestoreRetry_emits (s.commanded host)
    unfold retried
    rw [log, nothing, List.nil_append]
    apply List.countP_eq_zero.mpr
    intro e mem
    exact Event.not_counted (quiet e mem).2 (by rw [(quiet e mem).1]; nofun)

theorem sensed_uncounted (unapplied : ¬ s.Applies host) :
    failures (s.sensed host).2.log = 0 := by
  rw [sensed_log, failures_append, (retried_unapplied unapplied).2]
  rfl

/-- A poll that counts a failure while acting and whose L1 is healthy is masked. -/
theorem masked_of_healthy (sound : s.Sound) (control : s.monitorOnly = false)
    (unapplied : ¬ s.Applies host) (counted : 0 < failures (s.acted host).1.log)
    (healthy : (s.acted host).1.L1Healthy (s.acted host).2) : s.Masked host := by
  have uncounted := sensed_uncounted unapplied
  have custody := sensed_toCustody host s
  have sensed := sensed_sound host sound
  have driving := (acted_sound host sound).driving_of_owned healthy.1 healthy.2.1
  have kept : (s.sensed host).2.monitorOnly = false := by
    rcases (retried_unapplied unapplied).1 with same | released
    · rw [custody, same, control]
    · rw [custody, released]
      exact control
  rcases Frame.act_quiet_or_struck (s.decided host).1 kept with ⟨es, log, quiet⟩ |
    ⟨q, msg, eq, struck⟩
  · have log : (s.acted host).1.log = (s.sensed host).2.log ++ es := log
    rw [log, failures_append, uncounted, quiet] at counted
    exact absurd counted (Nat.lt_irrefl 0)
  · have acted : s.acted host = (q.failWrite msg, none) := eq
    rw [acted] at healthy driving
    -- a strike that latches leaves nothing to find healthy
    have below : q.writeFailures + 1 < writeFailFallback := by
      apply Nat.lt_of_not_le
      intro third
      refine Custody.not_driving ?_ driving
      rw [Frame.failWrite_toCustody]
      simp [Custody.struck, third, Custody.degraded_latched]
    have healthy := (Frame.l1Healthy_congr (Frame.failWrite_view msg below) none).mp healthy
    have armed : (s.sensed host).2.manualArmed = true := sensed.written (struck.live ▸ healthy.live)
    obtain ⟨refuses, view⟩ := struck.refused armed
    have healthy := (Frame.l1Healthy_congr view none).mp healthy
    -- and neither does a release that is pending, or was
    have idle : s.autoRestorePending = false := by
      rcases (retried_unapplied unapplied).1 with same | released
      · rw [← same, ← custody]
        exact healthy.2.1
      · rw [custody, released] at armed
        cases armed
    obtain ⟨cmd, pings, ticks, errors, notes, log, seen⟩ := sensed_unapplied unapplied idle
    have count : (s.sensed host).2.writeFailures = s.writeFailures := by rw [seen]; rfl
    refine ⟨idle, control, count ▸ struck.count ▸ below, q.smc, ?_, ?_⟩
    · unfold decided at refuses
      rw [seen] at refuses
      exact refuses.congr rfl rfl rfl rfl rfl
    · rw [seen] at healthy
      exact (Frame.l1Healthy_congr rfl none).mp healthy

/-- L1 finds a masked poll healthy. -/
theorem Masked.healthy (masked : s.Masked host) (unapplied : ¬ s.Applies host) :
    (s.acted host).1.L1Healthy (s.acted host).2 ∧ (s.acted host).1.monitorOnly = false := by
  obtain ⟨idle, control, below, smc, refuses, healthy⟩ := masked
  obtain ⟨cmd, pings, ticks, errors, notes, log, seen⟩ := sensed_unapplied unapplied idle
  have refused : (s.sensed host).2.Refuses (s.decided host).1 smc := by
    unfold decided
    rw [seen]
    exact refuses.congr rfl rfl rfl rfl rfl
  obtain ⟨unapplied, view⟩ := Frame.act_of_refuses refused (by rw [seen]; exact control)
    (by rw [seen]; exact healthy.1) (by rw [seen]; exact below)
  have view : (s.acted host).1.l1View = { s.observed host with smc := smc }.l1View := by
    unfold acted
    rw [view, seen]
    rfl
  have applied : (s.acted host).2 = none := unapplied
  refine ⟨applied ▸ (Frame.l1Healthy_congr view none).mpr healthy, ?_⟩
  exact (congrArg (·.2.2.1) view).trans control

/-- A poll with a healthy L1 ends as acting left it, the strikes forgotten. -/
theorem next_of_healthy (sound : s.Sound) (healthy : (s.acted host).1.L1Healthy (s.acted host).2) :
    (s.next host).writeFailures = 0 ∧ (s.next host).monitorOnly = (s.acted host).1.monitorOnly ∧
      ((s.acted host).1.monitorOnly = false →
        failures (s.calls host) ≤ failures (s.acted host).1.log) := by
  obtain ⟨q, ⟨es, log, steps⟩, ⟨custody, total⟩, control, count⟩ :=
    Frame.l1Poll_settles (acted_sound host sound) healthy
  have custody : (s.next host).toCustody = q.toCustody.settled :=
    (next_toCustody host s).trans custody
  refine ⟨?_, ?_, fun unlatched => ?_⟩
  · rw [custody]
    rfl
  · rw [custody]
    exact control
  · rw [calls_eq, show (s.checked host).1.log = q.log from total, log, failures_append]
    rcases Custody.steps_climb steps with latched | climbed
    · rw [control, unlatched] at latched
      cases latched
    · omega

/-- A poll that counts a failure climbs, latches, or is masked. -/
theorem next_climbs (sound : s.Sound) (control : s.monitorOnly = false)
    (unapplied : ¬ s.Applies host) (counted : ∃ e ∈ s.calls host, e.counted) :
    s.Masked host ∨ s.toCustody.Climbs 1 (s.next host).toCustody := by
  have counted : 0 < failures (s.calls host) := List.countP_pos_iff.mpr counted
  have sensed := sensed_sound host sound
  by_cases healthy : (s.acted host).1.L1Healthy (s.acted host).2
  · have driving := (acted_sound host sound).driving_of_owned healthy.1 healthy.2.1
    have acted := (next_of_healthy sound healthy).2.2 driving.2
    exact .inl
      (masked_of_healthy sound control unapplied (Nat.lt_of_lt_of_le counted acted) healthy)
  · obtain ⟨q, moves, custody, total⟩ := Frame.l1Poll_stands (acted_sound host sound) healthy
    obtain ⟨es, log, steps⟩ := (((moves_retried host s).trans (moves_sensed host s)).trans
      (moves_acted sensed)).trans moves
    obtain ⟨cmd, ticks, errors, notes, eq⟩ := commanded_unapplied unapplied
    have start : (s.commanded host).toCustody = s.toCustody ∧ (s.commanded host).log = [] := by
      rw [eq]
      exact ⟨rfl, rfl⟩
    have calls : s.calls host = es := by
      rw [calls_eq, show (s.checked host).1.log = q.log from total, log, start.2, List.nil_append]
    have ended : (s.next host).toCustody = q.toCustody := (next_toCustody host s).trans custody
    rw [ended]
    rw [calls] at counted
    rw [start.1] at steps
    refine .inr ((Custody.steps_climb steps).imp id fun climbed => ?_)
    omega

theorem run_latched {hosts : List Host} (sound : s.Sound) (latched : s.monitorOnly = true)
    (unapplied : loop.Along (fun host s => ¬ s.Applies host) hosts s) :
    (loop.run hosts s).monitorOnly = true :=
  (loop.run_invariant (I := fun s : Supervisor σ => s.Sound ∧ s.monitorOnly = true)
    (fun unapplied kept => ⟨next_sound _ kept.1,
      (next_latched kept.1 (unaccepted_of_latched kept.2 unapplied) kept.2).1⟩)
    unapplied ⟨sound, latched⟩).2

/-- A run climbs one strike for each poll that counts a failure. -/
theorem run_climbs {hosts : List Host} (sound : s.Sound) (control : s.monitorOnly = false)
    (unapplied : loop.Along (fun host s => ¬ s.Applies host) hosts s)
    (counted : loop.Along (fun host s => ∃ e ∈ s.calls host, e.counted) hosts s)
    (unmasked : loop.Along (fun host s => ¬ s.Masked host) hosts s) :
    s.toCustody.Climbs hosts.length (loop.run hosts s).toCustody := by
  induction hosts generalizing s with
  | nil => exact .inr (Nat.le_refl _)
  | cons host hosts ih =>
      have sound' := next_sound host sound
      have climbed := (next_climbs sound control unapplied.1 counted.1).resolve_left unmasked.1
      cases latched : (s.next host).monitorOnly with
      | true =>
          have held : (loop.run hosts (s.next host)).monitorOnly = true :=
            run_latched sound' latched unapplied.2
          exact .inl held
      | false =>
          rcases climbed with latched' | first
          · exact Bool.noConfusion (latched.symm.trans latched')
          · refine (ih sound' latched unapplied.2 counted.2 unmasked.2).imp id fun rest => ?_
            exact Nat.le_trans (by simp only [List.length_cons]; omega) rest

theorem trace_attempts_to_latch (sound : s.Sound) (hosts : List Host) :
    (∃ e ∈ loop.trace hosts s, e.autoAttempt) ∨
      ((loop.run hosts s).monitorOnly = true → s.monitorOnly = true) := by
  induction hosts generalizing s with
  | nil => exact .inr id
  | cons host hosts ih =>
      rcases (poll_refines host s sound).attempts_to_latch with ⟨e, mem, attempt⟩ | before
      · exact .inl ⟨e, List.mem_append_left _ mem, attempt⟩
      · rcases ih (next_sound host sound) with ⟨e, mem, attempt⟩ | after
        · exact .inl ⟨e, List.mem_append_right _ mem, attempt⟩
        · exact .inr fun latched => before (after latched)

/-- Out of any reached unlatched state, and as long as no command is applied: a poll
that counts a failure ends unlatched with no strikes exactly if it is masked; and
polls that each count a failure, as many as the fallback allows, latch along with an
attempt at AUTO, if none of them is masked. -/
theorem ladder_never_missed {history : List Event} (reach : Reachable s history)
    (control : s.monitorOnly = false) :
    (∀ host, ¬ s.Applies host → (∃ e ∈ s.calls host, e.counted) →
      ((s.next host).monitorOnly = false ∧ (s.next host).writeFailures = 0 ↔ s.Masked host)) ∧
    ∀ hosts : List Host, hosts.length = writeFailFallback →
      loop.Along (fun host s => ¬ s.Applies host) hosts s →
      loop.Along (fun host s => ∃ e ∈ s.calls host, e.counted) hosts s →
      loop.Along (fun host s => ¬ s.Masked host) hosts s →
      (loop.run hosts s).monitorOnly = true ∧ ∃ e ∈ loop.trace hosts s, e.autoAttempt := by
  have sound := reach_sound reach
  refine ⟨fun host unapplied counted => ⟨fun ⟨unlatched, forgotten⟩ => ?_, fun masked => ?_⟩,
    fun hosts three unapplied counted unmasked => ?_⟩
  · rcases next_climbs sound control unapplied counted with masked | latched | climbed
    · exact masked
    · exact Bool.noConfusion (unlatched.symm.trans latched)
    · omega
  · obtain ⟨healthy, acted⟩ := masked.healthy unapplied
    obtain ⟨forgotten, kept, -⟩ := next_of_healthy sound healthy
    exact ⟨kept.trans acted, forgotten⟩
  · have latched : (loop.run hosts s).monitorOnly = true := by
      rcases run_climbs sound control unapplied counted unmasked with latched | climbed
      · exact latched
      · have below : (loop.run hosts s).writeFailures < writeFailFallback :=
          loop.run_invariant (P := fun _ _ => True) (I := fun s : Supervisor σ => s.Sound)
            (fun _ sound => next_sound _ sound) (Machine.Along.of_forall (fun _ _ => trivial) _ _)
            sound |>.counted
        omega
    refine ⟨latched, (trace_attempts_to_latch sound hosts).resolve_right fun kept => ?_⟩
    simp [kept latched] at control

end Runs

section Missed

attribute [local instance] Bench.json

/-- A bench daemon that is refused every takeover it asks for in its first polls. -/
def climbingDaemon : Supervisor Bench := Bench.daemon Bench.refusing (.hold 3000)

theorem ladder_never_missed_refused :
    ((climbingDaemon.next Bench.quiet).monitorOnly = false ∧
        (climbingDaemon.next Bench.quiet).writeFailures = 0 ↔
      climbingDaemon.Masked Bench.quiet) ∧
    (loop.run [Bench.quiet, Bench.quiet, Bench.quiet] climbingDaemon).monitorOnly = true ∧
    ∃ e ∈ loop.trace [Bench.quiet, Bench.quiet, Bench.quiet] climbingDaemon, e.autoAttempt := by
  have reached := Bench.daemon_reachable Bench.refusing ⟨rfl, rfl⟩ (.hold 3000) []
  -- an unowned fan masks nothing
  have free : loop.Along (fun _ s => s.manualArmed = false)
      [Bench.quiet, Bench.quiet, Bench.quiet] climbingDaemon := by decide
  refine ⟨(ladder_never_missed reached rfl).1 _ (by decide) (by decide),
    (ladder_never_missed reached rfl).2 _ rfl (by decide) (by decide) (free.mono ?_)⟩
  rintro host s free ⟨-, -, -, smc, -, owned, -⟩
  exact absurd owned (by simp [observed, frame, free])

/-- A bench daemon that wrote 3000 rpm, was then told to hold 5000, and is refused
every write of it while the tach stays at 3000. -/
def maskedDaemon : Supervisor Bench :=
  loop.run [Bench.quiet, Bench.commanding Bench.holdText]
    (Bench.daemon { Bench.healthy with
      speed := none :: List.replicate 4 (some Bench.refused) } (.hold 3000))

/-- Three refused decision writes in a row: no latch, and no strike is left. -/
theorem ladder_never_missed_masked :
    (∃ history, Reachable maskedDaemon history) ∧ maskedDaemon.mode = .hold 5000 ∧
      maskedDaemon.monitorOnly = false ∧
      loop.Along (fun host s => ¬ s.Applies host) [Bench.quiet, Bench.quiet, Bench.quiet]
        maskedDaemon ∧
      loop.Along (fun host s => ∃ e ∈ s.calls host, e.counted)
        [Bench.quiet, Bench.quiet, Bench.quiet] maskedDaemon ∧
      (loop.run [Bench.quiet, Bench.quiet, Bench.quiet] maskedDaemon).monitorOnly = false ∧
      (loop.run [Bench.quiet, Bench.quiet, Bench.quiet] maskedDaemon).writeFailures = 0 :=
  ⟨⟨_, Bench.daemon_reachable _ ⟨rfl, rfl⟩ (.hold 3000) _⟩, by decide, by decide, by decide,
    by decide, by decide, by decide⟩

end Missed

end Supervisor

end Afanctl
