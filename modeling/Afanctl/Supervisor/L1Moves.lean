import Afanctl.Supervisor.Moves

/-!
L1 as moves of the custody automaton.

The checks are written out by what the backend answers: the mode drift, the
tracking re-assert, the stall detector and the verdict each have their branches
as equations, and `moves_l1Poll` composes them.
-/

namespace Afanctl

open Afanctl.Lib

namespace Frame

variable {σ : Type}

/-! ### The dwell warning leaves everything but its counter alone -/

@[simp] theorem l1Dwell_toCustody (p : Frame σ) : p.l1Dwell.toCustody = p.toCustody := by
  simp only [l1Dwell]
  split <;> rfl

@[simp] theorem l1Dwell_log (p : Frame σ) : p.l1Dwell.log = p.log := by
  simp only [l1Dwell]
  split <;> rfl

@[simp] theorem l1Dwell_smc (p : Frame σ) : p.l1Dwell.smc = p.smc := by
  simp only [l1Dwell]
  split <;> rfl

@[simp] theorem l1Dwell_stallPolls (p : Frame σ) : p.l1Dwell.stallPolls = p.stallPolls := by
  simp only [l1Dwell]
  split <;> rfl

@[simp] theorem l1Dwell_prevActual (p : Frame σ) : p.l1Dwell.prevActual = p.prevActual := by
  simp only [l1Dwell]
  split <;> rfl

/-- The verdict makes no call. -/
@[simp] theorem l1Verdict_log (failed : Bool) (p : Frame σ) :
    (p.l1Verdict failed).1.log = p.log := by
  unfold l1Verdict
  split
  · rfl
  · split <;> rfl

variable [Smc σ] {p : Frame σ}

/-! ### Mode drift -/

theorem l1ModeDrift_manual {fan : FanState} (manual : fan.mode = .manual) :
    p.l1ModeDrift fan = (p, false) := by
  simp [l1ModeDrift, manual]

theorem l1ModeDrift_ok {fan : FanState} {mode : FanMode} (drift : fan.mode ≠ .manual)
    (answer : (Smc.setMode .manual p.smc).1 = .ok mode) :
    p.l1ModeDrift fan
      = ({ (p.setMode .enterManual .manual).2 with manualArmed := true }.note
          "L1: manual mode re-asserted", false) := by
  simp [l1ModeDrift, drift, enterManual_ok answer]

theorem l1ModeDrift_error {fan : FanState} {e : SmcError} (drift : fan.mode ≠ .manual)
    (answer : (Smc.setMode .manual p.smc).1 = .error e) :
    p.l1ModeDrift fan
      = ((p.setMode .enterManual .manual).2.failWrite s!"set Manual write error: {e}", true) := by
  simp [l1ModeDrift, drift, enterManual_error answer]

theorem moves_l1ModeDrift (fan : FanState) (driving : p.Driving) (proven : p.l2Absent = false) :
    p.Moves (p.l1ModeDrift fan).1 := by
  have entered := moves_enterManual driving proven
  by_cases manual : fan.mode = .manual
  · rw [l1ModeDrift_manual manual]
    exact .refl p
  · cases answer : (Smc.setMode .manual p.smc).1 with
    | ok mode =>
        rw [enterManual_ok answer] at entered
        rw [l1ModeDrift_ok manual answer]
        exact entered.trans (.of_eq rfl rfl)
    | error e =>
        rw [enterManual_error answer] at entered
        rw [l1ModeDrift_error manual answer]
        exact entered

/-! ### Tracking -/

/-- When the tracking check re-asserts the written value. -/
def Reasserts (dev : Nat) (applied : Option Nat) (p : Frame σ) : Prop :=
  p.monitorOnly = false ∧ verifyToleranceRpm < dev ∧ applied = none

/-- The frame of a re-assert. -/
def reasserted (dev written : Nat) (p : Frame σ) : Frame σ :=
  ((p.note s!"L1: tracking {dev} rpm from written {written}; re-asserting (not a failure)"
    ).writeSpeed .l1Poll written).2

theorem reasserted_log (dev written : Nat) (p : Frame σ) :
    (p.reasserted dev written).log
      = p.log ++ [⟨.l1Poll, .writeSpeed written (Smc.writeSpeed written p.smc).1, p.toCustody⟩] :=
  writeSpeed_log ..

section Tracking

variable {dev written : Nat} {applied : Option Nat} {failed : Bool}

theorem l1Tracking_skip (skip : ¬ p.Reasserts dev applied) :
    p.l1Tracking dev written applied failed = (p, failed) := by
  unfold Reasserts at skip
  simp [l1Tracking, skip]

theorem l1Tracking_ok {verified : Nat} (off : p.Reasserts dev applied)
    (answer : (Smc.writeSpeed written p.smc).1 = .ok verified) :
    p.l1Tracking dev written applied failed
      = ({ p.reasserted dev written with lastWritten := some verified }.note
          s!"L1: re-asserted at {verified} rpm", failed) := by
  simp [l1Tracking, off.1, off.2.1, off.2.2, reasserted, writeSpeed, note, answer]

theorem l1Tracking_error {e : SmcError} (off : p.Reasserts dev applied)
    (answer : (Smc.writeSpeed written p.smc).1 = .error e) :
    p.l1Tracking dev written applied failed
      = ((p.reasserted dev written).failWrite s!"L1 re-assert {written}: {e}", true) := by
  simp [l1Tracking, off.1, off.2.1, off.2.2, reasserted, writeSpeed, note, answer]

theorem moves_l1Tracking (dev written : Nat) (applied : Option Nat) (failed : Bool)
    (mode : p.mode ≠ .observe) (proven : p.l2Absent = false) (armed : p.manualArmed = true) :
    p.Moves (p.l1Tracking dev written applied failed).1 := by
  by_cases off : p.Reasserts dev applied
  · have driving : p.Driving := ⟨mode, off.1⟩
    cases answer : (Smc.writeSpeed written p.smc).1 with
    | ok verified =>
        rw [l1Tracking_ok off answer]
        exact .of_move (writeSpeed_log ..) (answer ▸ .write .l1Poll _ verified driving proven armed)
    | error e =>
        rw [l1Tracking_error off answer]
        refine .of_strike _ rfl (writeSpeed_log ..) fun fallback => ?_
        exact answer ▸ .writeFailed .l1Poll _ e fallback driving proven
  · rw [l1Tracking_skip off]
    exact .refl p

end Tracking

/-! ### The stall detector -/

/-- The window fills at this poll. -/
def StallFires (dev rpm : Nat) (prevActual : Option Nat) (p : Frame σ) : Prop :=
  verifyToleranceRpm < dev ∧ tachMoved rpm prevActual = false ∧
    stallPollsMax ≤ min (p.stallPolls + 1) u32Max

instance (dev rpm : Nat) (prevActual : Option Nat) (p : Frame σ) :
    Decidable (p.StallFires dev rpm prevActual) :=
  inferInstanceAs (Decidable (_ ∧ _ ∧ _))

/-- The window after a poll that does not fill it. -/
def stallWindow (dev rpm : Nat) (prevActual : Option Nat) (p : Frame σ) : Nat :=
  if verifyToleranceRpm < dev ∧ tachMoved rpm prevActual = false then min (p.stallPolls + 1) u32Max
  else 0

section Stall

variable {dev rpm : Nat} {prevActual : Option Nat}

theorem l1Stall_fires (fires : p.StallFires dev rpm prevActual) :
    ∃ q : Frame σ, p.l1Stall dev rpm prevActual = (q.degradeToAuto, true) ∧
      q.toCustody = p.toCustody ∧ q.log = p.log ∧ q.prevActual = p.prevActual := by
  obtain ⟨off, still, full⟩ := fires
  unfold l1Stall
  simp only [off, still, full, l1Dwell_stallPolls, ↓reduceIte, Bool.false_eq_true]
  exact ⟨_, rfl, l1Dwell_toCustody p, l1Dwell_log p, l1Dwell_prevActual p⟩

theorem l1Stall_quiet (quiet : ¬ p.StallFires dev rpm prevActual) :
    ∃ q : Frame σ, p.l1Stall dev rpm prevActual = (q, false) ∧ q.toCustody = p.toCustody ∧
      q.log = p.log ∧ q.stallPolls = p.stallWindow dev rpm prevActual ∧
      q.prevActual = p.prevActual := by
  unfold l1Stall stallWindow
  by_cases off : verifyToleranceRpm < dev
  · cases still : tachMoved rpm prevActual with
    | true =>
        simp only [off, ↓reduceIte]
        exact ⟨_, rfl, l1Dwell_toCustody p, l1Dwell_log p, by simp, l1Dwell_prevActual p⟩
    | false =>
        have open' : ¬ stallPollsMax ≤ min (p.stallPolls + 1) u32Max :=
          fun full => quiet ⟨off, still, full⟩
        simp only [off, open', l1Dwell_stallPolls, ↓reduceIte, Bool.false_eq_true]
        exact ⟨_, rfl, l1Dwell_toCustody p, l1Dwell_log p, by simp, l1Dwell_prevActual p⟩
  · simp only [off, ↓reduceIte]
    exact ⟨_, rfl, rfl, rfl, by simp, rfl⟩

theorem moves_l1Stall (dev rpm : Nat) (prevActual : Option Nat) (p : Frame σ) :
    p.Moves (p.l1Stall dev rpm prevActual).1 := by
  by_cases fires : p.StallFires dev rpm prevActual
  · obtain ⟨q, eq, custody, log, -⟩ := l1Stall_fires fires
    rw [eq]
    exact .trans (.of_eq custody log) (moves_degradeToAuto q)
  · obtain ⟨q, eq, custody, log, -⟩ := l1Stall_quiet fires
    rw [eq]
    exact .of_eq custody log

end Stall

/-! ### The verdict -/

/-- L1 ended as its moves left it, at `q`. -/
def Stands (q : Frame σ) (result : Frame σ × Bool) : Prop :=
  result.1.toCustody = q.toCustody ∧ result.1.log = q.log

/-- L1 ended by forgetting the strikes. -/
def Settles (q : Frame σ) (result : Frame σ × Bool) : Prop :=
  result.1.toCustody = q.toCustody.settled ∧ result.1.log = q.log

section Window

variable {dev rpm : Nat} {prevActual : Option Nat}

theorem l1Window_fires (fires : p.StallFires dev rpm prevActual) (failed : Bool) :
    ∃ q, p.Moves q ∧ q.Stands (p.l1Window dev rpm prevActual failed) := by
  have moves := moves_l1Stall dev rpm prevActual p
  obtain ⟨q, eq, -⟩ := l1Stall_fires fires
  refine ⟨_, moves, ?_⟩
  simp only [l1Window, eq]
  exact ⟨rfl, rfl⟩

theorem l1Window_failed (dev rpm : Nat) (prevActual : Option Nat) (p : Frame σ) :
    ∃ q, p.Moves q ∧ q.Stands (p.l1Window dev rpm prevActual true) := by
  by_cases fires : p.StallFires dev rpm prevActual
  · exact l1Window_fires fires true
  · obtain ⟨q, eq, custody, log, -⟩ := l1Stall_quiet fires
    refine ⟨q, .of_eq custody log, ?_⟩
    simp only [l1Window, eq]
    exact ⟨rfl, rfl⟩

theorem l1Window_quiet (quiet : ¬ p.StallFires dev rpm prevActual) (live : p.lastWritten.isSome) :
    p.Settles (p.l1Window dev rpm prevActual false) := by
  obtain ⟨q, eq, custody, log, -⟩ := l1Stall_quiet quiet
  have live : q.lastWritten.isSome := by rw [custody]; exact live
  simp only [l1Window, eq, l1Verdict, live, Bool.false_eq_true, ↓reduceIte]
  exact ⟨congrArg Custody.settled custody, log⟩

end Window

/-- A live target is healthy: a re-assert it needs is answered `Ok` by the
backend in state `smc`, and the stall window does not fill. -/
def TargetHealthy (fan : FanState) (prevActual applied : Option Nat) (smc : σ) (p : Frame σ) :
    Prop :=
  ∃ written, p.lastWritten = some written ∧
    (p.Reasserts (absDiff fan.rpm written) applied →
      ∃ verified, (Smc.writeSpeed written smc).1 = .ok verified) ∧
    ¬ p.StallFires (absDiff fan.rpm written) fan.rpm prevActual

section Target

variable {fan : FanState} {prevActual applied : Option Nat} {failed : Bool}

theorem l1Target_live {written : Nat} (live : p.lastWritten = some written) :
    p.l1Target fan prevActual applied failed
      = (p.l1Tracking (absDiff fan.rpm written) written applied failed).1.l1Window
          (absDiff fan.rpm written) fan.rpm prevActual
          (p.l1Tracking (absDiff fan.rpm written) written applied failed).2 := by
  simp [l1Target, live]

theorem l1Tracking_failed {dev written : Nat} :
    (p.l1Tracking dev written applied true).2 = true := by
  simp only [l1Tracking]
  split
  · split <;> rfl
  · rfl

/-- After a failed mode re-assert the verdict is lost whatever follows. -/
theorem l1Target_failed (mode : p.mode ≠ .observe) (proven : p.l2Absent = false)
    (sound : p.Sound) :
    ∃ q, p.Moves q ∧ q.Stands (p.l1Target fan prevActual applied true) := by
  cases live : p.lastWritten with
  | none =>
      simp only [l1Target, live]
      exact ⟨p, .refl p, rfl, rfl⟩
  | some written =>
      have armed := sound.written (by simp [live])
      have tracked := moves_l1Tracking (absDiff fan.rpm written) written applied true mode proven
        armed
      rw [l1Target_live live, l1Tracking_failed]
      obtain ⟨q, moves, stands⟩ := l1Window_failed (absDiff fan.rpm written) fan.rpm prevActual
        (p.l1Tracking (absDiff fan.rpm written) written applied true).1
      exact ⟨q, tracked.trans moves, stands⟩

theorem l1Target_healthy (sound : p.Sound) (mode : p.mode ≠ .observe) (proven : p.l2Absent = false)
    (healthy : p.TargetHealthy fan prevActual applied p.smc) :
    ∃ q, p.Moves q ∧ q.Settles (p.l1Target fan prevActual applied false) ∧
      q.monitorOnly = p.monitorOnly ∧ q.writeFailures = p.writeFailures := by
  obtain ⟨written, live, taken, quiet⟩ := healthy
  have armed := sound.written (by simp [live])
  have tracked := moves_l1Tracking (absDiff fan.rpm written) written applied false mode proven armed
  rw [l1Target_live live]
  by_cases off : p.Reasserts (absDiff fan.rpm written) applied
  · obtain ⟨verified, answer⟩ := taken off
    rw [l1Tracking_ok off answer] at tracked ⊢
    exact ⟨_, tracked, l1Window_quiet quiet rfl, rfl, rfl⟩
  · rw [l1Tracking_skip off]
    exact ⟨p, .refl p, l1Window_quiet quiet (by simp [live]), rfl, rfl⟩

theorem l1Target_unhealthy (sound : p.Sound) (mode : p.mode ≠ .observe)
    (proven : p.l2Absent = false) (unhealthy : ¬ p.TargetHealthy fan prevActual applied p.smc) :
    ∃ q, p.Moves q ∧ q.Stands (p.l1Target fan prevActual applied false) := by
  cases live : p.lastWritten with
  | none =>
      simp only [l1Target, l1Verdict, live, Option.isSome_none, Bool.false_eq_true, ↓reduceIte]
      exact ⟨p, .refl p, rfl, rfl⟩
  | some written =>
      have armed := sound.written (by simp [live])
      have tracked := moves_l1Tracking (absDiff fan.rpm written) written applied false mode proven
        armed
      rw [l1Target_live live]
      by_cases off : p.Reasserts (absDiff fan.rpm written) applied
      · cases answer : (Smc.writeSpeed written p.smc).1 with
        | ok verified =>
            have fires : p.StallFires (absDiff fan.rpm written) fan.rpm prevActual :=
              Decidable.byContradiction fun quiet =>
                unhealthy ⟨written, live, fun _ => ⟨verified, answer⟩, quiet⟩
            rw [l1Tracking_ok off answer] at tracked ⊢
            obtain ⟨q, moves, stands⟩ := l1Window_fires
              (p := { p.reasserted (absDiff fan.rpm written) written with
                  lastWritten := some verified }.note s!"L1: re-asserted at {verified} rpm")
              fires false
            exact ⟨q, tracked.trans moves, stands⟩
        | error e =>
            rw [l1Tracking_error off answer] at tracked ⊢
            obtain ⟨q, moves, stands⟩ := l1Window_failed (absDiff fan.rpm written) fan.rpm
              prevActual ((p.reasserted (absDiff fan.rpm written) written).failWrite
                s!"L1 re-assert {written}: {e}")
            exact ⟨q, tracked.trans moves, stands⟩
      · have fires : p.StallFires (absDiff fan.rpm written) fan.rpm prevActual :=
          Decidable.byContradiction fun quiet =>
            unhealthy ⟨written, live, fun needed => absurd needed off, quiet⟩
        rw [l1Tracking_skip off]
        exact l1Window_fires fires false

end Target

/-! ### The whole of L1 -/

/-- An owned fan and its target are healthy: a drifted mode is taken over again,
and the target is healthy behind that. -/
def Healthy (fan : FanState) (prevActual applied : Option Nat) (smc : σ) (p : Frame σ) : Prop :=
  (fan.mode = .manual ∧ p.TargetHealthy fan prevActual applied smc) ∨
  (fan.mode ≠ .manual ∧ (∃ mode, (Smc.setMode .manual smc).1 = .ok mode) ∧
    p.TargetHealthy fan prevActual applied (Smc.setMode .manual smc).2)

section Whole

variable {fan : FanState} {prevActual applied : Option Nat}

theorem l1Checks_healthy (sound : p.Sound) (driving : p.Driving)
    (healthy : p.Healthy fan prevActual applied p.smc) :
    ∃ q, p.Moves q ∧ q.Settles (p.l1Checks fan prevActual applied) ∧
      q.monitorOnly = p.monitorOnly ∧ q.writeFailures = p.writeFailures := by
  have proven := sound.l2Absent_of_driving driving
  have drifted := moves_l1ModeDrift fan driving proven
  rcases healthy with ⟨manual, target⟩ | ⟨drift, ⟨mode, answer⟩, target⟩
  · simp only [l1Checks, l1ModeDrift_manual manual]
    exact l1Target_healthy sound driving.1 proven target
  · simp only [l1Checks, l1ModeDrift_ok drift answer] at drifted ⊢
    obtain ⟨q, moves, settles, control, count⟩ :=
      l1Target_healthy (drifted.sound sound) driving.1 proven target
    exact ⟨q, drifted.trans moves, settles, control, count⟩

theorem l1Checks_unhealthy (sound : p.Sound) (driving : p.Driving)
    (unhealthy : ¬ p.Healthy fan prevActual applied p.smc) :
    ∃ q, p.Moves q ∧ q.Stands (p.l1Checks fan prevActual applied) := by
  have proven := sound.l2Absent_of_driving driving
  have drifted := moves_l1ModeDrift fan driving proven
  by_cases manual : fan.mode = .manual
  · simp only [l1Checks, l1ModeDrift_manual manual]
    exact l1Target_unhealthy sound driving.1 proven fun target => unhealthy (.inl ⟨manual, target⟩)
  · cases answer : (Smc.setMode .manual p.smc).1 with
    | ok mode =>
        simp only [l1Checks, l1ModeDrift_ok manual answer] at drifted ⊢
        obtain ⟨q, moves, stands⟩ := l1Target_unhealthy (drifted.sound sound) driving.1 proven
          fun target => unhealthy (.inr ⟨manual, ⟨mode, answer⟩, target⟩)
        exact ⟨q, drifted.trans moves, stands⟩
    | error e =>
        have kept := drifted.mode_eq
        simp only [l1Checks, l1ModeDrift_error manual answer] at drifted kept ⊢
        obtain ⟨q, moves, stands⟩ := l1Target_failed (kept.1 ▸ driving.1) (kept.2.trans proven)
          (drifted.sound sound)
        exact ⟨q, drifted.trans moves, stands⟩

/-- The frame of a fan read. -/
def looked (fan : FanState) (p : Frame σ) : Frame σ :=
  { (p.readFan .l1Poll).2 with lastActual := some fan.rpm, prevActual := some fan.rpm }

theorem moves_looked (p : Frame σ) (fan : FanState) : p.Moves (p.looked fan) := by
  have elsewhere : ¬ (Event.mk .l1Poll (.readFan (Smc.readFan p.smc).1)
      p.toCustody).verifiesAuto := by
    rintro seen
    cases (Event.verifiesAuto_look.mp seen).1
  exact .of_move (readFan_log ..) (.look .l1Poll _ elsewhere)

theorem l1Poll_error {e : SmcError} (answer : (Smc.readFan p.smc).1 = .error e) :
    p.l1Poll applied
      = ((p.readFan .l1Poll).2.noteRecent s!"L1 fan read failed: {e}"
          |>.failWrite "L1 poll defeated by fan read failure", false) := by
  simp [l1Poll, readFan, answer]

theorem l1Poll_free (answer : (Smc.readFan p.smc).1 = .ok fan) (free : p.manualArmed = false) :
    p.l1Poll applied = ({ p.looked fan with stallPolls := 0, offTargetPolls := 0 }, true) := by
  simp [l1Poll, readFan, answer, looked, called, free]

theorem l1Poll_releasing (answer : (Smc.readFan p.smc).1 = .ok fan) (armed : p.manualArmed = true)
    (pending : p.autoRestorePending = true) : p.l1Poll applied = (p.looked fan, true) := by
  simp [l1Poll, readFan, answer, looked, called, armed, pending]

theorem l1Poll_owned (answer : (Smc.readFan p.smc).1 = .ok fan) (armed : p.manualArmed = true)
    (idle : p.autoRestorePending = false) :
    p.l1Poll applied = (p.looked fan).l1Checks fan p.prevActual applied := by
  simp [l1Poll, readFan, answer, looked, called, armed, idle]

/-- L1 finds an owned fan with a live target healthy. -/
def L1Healthy (applied : Option Nat) (p : Frame σ) : Prop :=
  p.manualArmed = true ∧ p.autoRestorePending = false ∧
    ∃ fan, (Smc.readFan p.smc).1 = .ok fan ∧
      p.Healthy fan p.prevActual applied (Smc.readFan p.smc).2

/-- A healthy L1 counts nothing and then forgets the strikes. -/
theorem l1Poll_settles (sound : p.Sound) (healthy : p.L1Healthy applied) :
    ∃ q, p.Moves q ∧ q.Settles (p.l1Poll applied) ∧ q.monitorOnly = p.monitorOnly ∧
      q.writeFailures = p.writeFailures := by
  obtain ⟨armed, idle, fan, answer, healthy⟩ := healthy
  have looked := moves_looked p fan
  rw [l1Poll_owned answer armed idle]
  obtain ⟨q, moves, settles, control, count⟩ := l1Checks_healthy (p := p.looked fan)
    (looked.sound sound) (sound.driving_of_owned armed idle) healthy
  exact ⟨q, looked.trans moves, settles, control, count⟩

/-- Any other L1 leaves what its moves lead to. -/
theorem l1Poll_stands (sound : p.Sound) (unhealthy : ¬ p.L1Healthy applied) :
    ∃ q, p.Moves q ∧ q.Stands (p.l1Poll applied) := by
  cases answer : (Smc.readFan p.smc).1 with
  | error e =>
      rw [l1Poll_error answer]
      refine ⟨_, .of_strike _ (noteRecent_toCustody _ (p.readFan .l1Poll).2) (readFan_log ..)
        fun fallback => ?_, rfl, rfl⟩
      rw [answer]
      exact .lookFailed e fallback
  | ok fan =>
      have looked := moves_looked p fan
      cases armed : p.manualArmed with
      | false =>
          rw [l1Poll_free answer armed]
          exact ⟨_, looked, rfl, rfl⟩
      | true =>
          cases pending : p.autoRestorePending with
          | true =>
              rw [l1Poll_releasing answer armed pending]
              exact ⟨_, looked, rfl, rfl⟩
          | false =>
              rw [l1Poll_owned answer armed pending]
              obtain ⟨q, moves, stands⟩ := l1Checks_unhealthy (p := p.looked fan)
                (looked.sound sound) (sound.driving_of_owned armed pending)
                fun healthy => unhealthy ⟨armed, pending, fan, answer, healthy⟩
              exact ⟨q, looked.trans moves, stands⟩

/-- L1 in full: moves, then perhaps the strikes forgotten. -/
theorem moves_l1Poll (applied : Option Nat) (sound : p.Sound) :
    ∃ q, p.Moves q ∧ (q.Stands (p.l1Poll applied) ∨ q.Settles (p.l1Poll applied)) := by
  by_cases healthy : p.L1Healthy applied
  · obtain ⟨q, moves, settles, -⟩ := l1Poll_settles sound healthy
    exact ⟨q, moves, .inr settles⟩
  · obtain ⟨q, moves, stands⟩ := l1Poll_stands sound healthy
    exact ⟨q, moves, .inl stands⟩

end Whole

end Frame

end Afanctl
