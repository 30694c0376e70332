import Afanctl.Supervisor.L1Moves

/-!
A poll refines the custody automaton.

`freshCommand` is the request the command stage applies, if any; `commanded_obeys`
says what it does with it. The stages after it are moves, and `poll_refines` puts
the whole poll together.
-/

namespace Afanctl

open Afanctl.Lib

variable {σ : Type}

/-- Only Curve and Hold ever decide anything but `observe`. -/
theorem controllerStep_observe {c : Custody} {readings : List SensorReading}
    {controller : Controller} (mode : c.mode = .observe ∨ c.monitorOnly = true) :
    (controllerStep c readings controller).1 = .observe := by
  have idle : c.monitorOnly = true ∨ c.mode = .observe := mode.symm
  simp only [controllerStep, idle, ↓reduceIte, Controller.stepObserve]
  split <;> rfl

/-! ### The command stage -/

theorem Custody.mode_self {c : Custody} {mode : RunMode} (same : c.mode = mode) :
    { c with mode := mode } = c := by
  subst same
  rfl

namespace Supervisor

variable [SerdeJson]

/-- The request of a readable command file that is not the last applied one and
that parses. -/
def freshCommand (host : Host) (s : Supervisor σ) : Option RunMode :=
  match host.cmd with
  | .content raw => if s.lastCmd = some raw then none else (parseCmd raw).toOption
  | .absent => none
  | .unreadable _ => none

/-- A fresh Curve or Hold command is accepted. -/
def Accepts (host : Host) (s : Supervisor σ) : Prop :=
  ∃ requested, s.freshCommand host = some requested ∧ requested ≠ .observe ∧ s.l2Absent = false

instance (host : Host) (s : Supervisor σ) : Decidable (s.Accepts host) :=
  match fresh : s.freshCommand host with
  | none => isFalse fun ⟨_, parsed, _⟩ => by simp [fresh] at parsed
  | some requested =>
      decidable_of_iff (requested ≠ .observe ∧ s.l2Absent = false)
        ⟨fun accepted => ⟨requested, fresh, accepted⟩,
          fun ⟨_, parsed, accepted⟩ => Option.some.inj (fresh.symm.trans parsed) ▸ accepted⟩

/-- A fresh observe command is applied: the mode becomes `observe`. -/
def Withdraws (host : Host) (s : Supervisor σ) : Prop :=
  s.freshCommand host = some .observe ∧ s.mode ≠ .observe

instance (host : Host) (s : Supervisor σ) : Decidable (s.Withdraws host) :=
  inferInstanceAs (Decidable (_ ∧ _))

/-- The fresh command is applied: it is not refused, and it changes the mode or
re-arms out of the latch. -/
def Applies (host : Host) (s : Supervisor σ) : Prop :=
  ∃ requested, s.freshCommand host = some requested ∧
    ¬ (s.l2Absent = true ∧ requested ≠ .observe) ∧
    (requested ≠ s.mode ∨ s.monitorOnly = true ∧ requested ≠ .observe)

instance (host : Host) (s : Supervisor σ) : Decidable (s.Applies host) :=
  match fresh : s.freshCommand host with
  | none => isFalse fun ⟨_, parsed, _⟩ => by simp [fresh] at parsed
  | some requested =>
      decidable_of_iff (¬ (s.l2Absent = true ∧ requested ≠ .observe) ∧
          (requested ≠ s.mode ∨ s.monitorOnly = true ∧ requested ≠ .observe))
        ⟨fun applied => ⟨requested, fresh, applied⟩,
          fun ⟨_, parsed, applied⟩ => Option.some.inj (fresh.symm.trans parsed) ▸ applied⟩

/-- A latched daemon that applies no command accepts no control mode. -/
theorem unaccepted_of_latched {host : Host} {s : Supervisor σ} (latched : s.monitorOnly = true)
    (unapplied : ¬ s.Applies host) : ¬ s.Accepts host := by
  rintro ⟨requested, fresh, control, proven⟩
  exact unapplied ⟨requested, fresh, fun refused => by simp [proven] at refused,
    .inr ⟨latched, control⟩⟩

end Supervisor

namespace Frame

variable {p : Frame σ}

theorem rearm_toCustody {requested : RunMode} (control : requested ≠ .observe) :
    { (p.rearm requested).toCustody with mode := requested } = p.toCustody.accepting requested := by
  unfold rearm Custody.accepting
  cases latched : p.monitorOnly <;> simp [control, latched]

theorem rearm_observe : p.rearm .observe = p := by
  simp [rearm]

theorem rearm_mode (requested : RunMode) : (p.rearm requested).mode = p.mode := by
  unfold rearm
  split <;> rfl

theorem rearm_log (requested : RunMode) : (p.rearm requested).log = p.log := by
  unfold rearm
  split <;> rfl

variable [Smc σ]

theorem leaveControl_free (free : p.manualArmed = false) :
    p.leaveControl = { p.note "cmd applied: observe" with mode := .observe } := by
  simp [leaveControl, free]

theorem leaveControl_ok {m : FanMode} (armed : p.manualArmed = true)
    (answer : (Smc.setMode .auto p.smc).1 = .ok m) :
    p.leaveControl.toCustody = { p.toCustody.released with mode := .observe } ∧
      p.leaveControl.log = p.log ++ [⟨.applyMode, .setMode .auto (.ok m), p.toCustody⟩] := by
  simp [leaveControl, armed, setMode, answer, Custody.released, note, called]

/-- The frame of a failed release, before it is counted. -/
def releaseFailed (p : Frame σ) : Frame σ :=
  { (p.setMode .applyMode .auto).2 with
    autoRestorePending := true, autoRestoreAttempts := 1,
    autoRetryLogPolls := autoRetryLogPollsMax }

theorem leaveControl_error {e : SmcError} (armed : p.manualArmed = true)
    (answer : (Smc.setMode .auto p.smc).1 = .error e) :
    p.leaveControl
      = { p.releaseFailed.failWrite s!"cmd observe: set AUTO error: {e}" with
          mode := .observe } := by
  simp [leaveControl, armed, setMode, answer, releaseFailed]

/-- A failed release strikes while the release is pending. -/
theorem leaveControl_refused {e : SmcError} (armed : p.manualArmed = true)
    (answer : (Smc.setMode .auto p.smc).1 = .error e) :
    p.leaveControl.toCustody =
        { p.toCustody.releasing.struck (Smc.setMode .auto p.releaseFailed.smc).1 with
          mode := .observe } ∧
      p.leaveControl.log = p.log ++ (⟨.applyMode, .setMode .auto (.error e), p.toCustody⟩ ::
        p.toCustody.releasing.struckLog (Smc.setMode .auto p.releaseFailed.smc).1) := by
  have asked : p.releaseFailed.log =
      p.log ++ [⟨.applyMode, .setMode .auto (.error e), p.toCustody⟩] := answer ▸ rfl
  have struck := failWrite_toCustody s!"cmd observe: set AUTO error: {e}" p.releaseFailed
  have logged := failWrite_log s!"cmd observe: set AUTO error: {e}" p.releaseFailed
  rw [asked, List.append_assoc] at logged
  rw [leaveControl_error armed answer]
  exact ⟨congrArg (fun c : Custody => { c with mode := .observe }) struck, logged⟩

theorem leaveControl_obeys (mode : p.mode ≠ .observe) :
    ∃ es, p.leaveControl.log = p.log ++ es ∧
      Custody.Obeys (some .observe) p.toCustody es p.leaveControl.toCustody := by
  cases armed : p.manualArmed with
  | false =>
      rw [leaveControl_free armed]
      exact ⟨[], by simp, .left mode armed⟩
  | true =>
      cases answer : (Smc.setMode .auto p.smc).1 with
      | ok m =>
          obtain ⟨custody, log⟩ := leaveControl_ok armed answer
          rw [custody]
          exact ⟨_, log, .released m mode armed⟩
      | error e =>
          obtain ⟨custody, log⟩ := leaveControl_refused armed answer
          rw [custody]
          exact ⟨_, log, .releaseFailed e _ mode armed⟩

theorem applyMode_refused {requested : RunMode} (control : requested ≠ .observe)
    (absent : p.l2Absent = true) :
    p.applyMode requested = (p.noteRecent noL2Msg |>.note "cmd refused: no L2") := by
  simp [applyMode, control, absent]

theorem applyMode_accepted {requested : RunMode} (control : requested ≠ .observe)
    (proven : p.l2Absent = false) :
    (p.applyMode requested).toCustody = p.toCustody.accepting requested ∧
      (p.applyMode requested).log = p.log := by
  simp only [applyMode, proven, control, rearm_mode, Bool.false_eq_true, false_and, ↓reduceIte]
  rw [← rearm_toCustody control]
  split
  · next same =>
      have kept : (p.rearm requested).mode = requested := (rearm_mode requested).trans same.symm
      exact ⟨(Custody.mode_self kept).symm, rearm_log requested⟩
  · exact ⟨rfl, rearm_log requested⟩

theorem applyMode_observe (mode : p.mode ≠ .observe) :
    p.applyMode .observe = p.leaveControl := by
  simp [applyMode, rearm_observe, Ne.symm mode]

theorem applyMode_already (mode : p.mode = .observe) : p.applyMode .observe = p := by
  simp [applyMode, rearm_observe, mode]

theorem applyMode_unchanged {requested : RunMode}
    (allowed : ¬ (p.l2Absent = true ∧ requested ≠ .observe))
    (kept : ¬ (p.monitorOnly = true ∧ requested ≠ .observe)) (same : requested = p.mode) :
    p.applyMode requested = p := by
  unfold applyMode rearm
  rw [if_neg allowed, if_neg kept]
  exact if_pos same

theorem applyMode_obeys (requested : RunMode) (p : Frame σ) :
    ∃ es, (p.applyMode requested).log = p.log ++ es ∧
      Custody.Obeys (some requested) p.toCustody es (p.applyMode requested).toCustody := by
  by_cases control : requested = .observe
  · subst control
    by_cases mode : p.mode = .observe
    · rw [applyMode_already mode]
      exact ⟨[], by simp, .already mode⟩
    · rw [applyMode_observe mode]
      exact leaveControl_obeys mode
  · cases absent : p.l2Absent with
    | true =>
        rw [applyMode_refused control absent]
        exact ⟨[], by simp, .refused control absent⟩
    | false =>
        obtain ⟨custody, log⟩ := applyMode_accepted control absent
        rw [custody]
        exact ⟨[], by simpa using log, .accepted control absent⟩

end Frame

namespace Supervisor

variable [Smc σ] [SerdeJson]

/-- Without a fresh command the command stage writes notes at most. -/
theorem commanded_stale {host : Host} {s : Supervisor σ} (stale : s.freshCommand host = none) :
    ∃ ticks errors notes, s.commanded host
      = { (s.frame host).pingWatchdog with
          ticks := ticks, recentErrors := errors, notes := notes } := by
  unfold freshCommand at stale
  unfold commanded Frame.applyCmdFile
  simp only [frame, Frame.pingWatchdog]
  cases cmd : host.cmd with
  | absent => exact ⟨_, _, _, rfl⟩
  | unreadable e => exact ⟨_, _, _, rfl⟩
  | content raw =>
      by_cases same : s.lastCmd = some raw
      · simp only [same, ↓reduceIte]
        exact ⟨_, _, _, rfl⟩
      · cases parsed : parseCmd raw with
        | error ignored =>
            simp only [same, parsed, ↓reduceIte]
            exact ⟨_, _, _, rfl⟩
        | ok requested => simp [cmd, same, parsed, Except.toOption] at stale

theorem commanded_fresh {host : Host} {s : Supervisor σ} {requested : RunMode}
    (fresh : s.freshCommand host = some requested) :
    ∃ raw, host.cmd = .content raw ∧ s.commanded host
      = { (s.frame host).pingWatchdog with lastCmd := some raw }.applyMode requested := by
  unfold freshCommand at fresh
  unfold commanded Frame.applyCmdFile
  cases cmd : host.cmd with
  | absent => simp [cmd] at fresh
  | unreadable e => simp [cmd] at fresh
  | content raw =>
      simp only [cmd] at fresh
      split at fresh
      · cases fresh
      · next new =>
          refine ⟨raw, rfl, ?_⟩
          cases parsed : parseCmd raw with
          | error ignored => simp [parsed, Except.toOption] at fresh
          | ok mode =>
              have same : mode = requested := by simpa [parsed, Except.toOption] using fresh
              simp only [frame, Frame.pingWatchdog, cmd, new, ↓reduceIte, parsed, same]

/-- The command stage does with the custody what the automaton does with the
fresh command. -/
theorem commanded_obeys (host : Host) (s : Supervisor σ) :
    Custody.Obeys (s.freshCommand host) s.toCustody (s.commanded host).log
      (s.commanded host).toCustody := by
  cases fresh : s.freshCommand host with
  | none =>
      obtain ⟨ticks, errors, notes, eq⟩ := commanded_stale fresh
      rw [eq]
      exact .ignored
  | some requested =>
      obtain ⟨raw, -, eq⟩ := commanded_fresh fresh
      obtain ⟨es, log, obeys⟩ := Frame.applyMode_obeys requested
        { (s.frame host).pingWatchdog with lastCmd := some raw }
      rw [eq, log]
      exact obeys

/-! ### The stages after it -/

theorem moves_retried (host : Host) (s : Supervisor σ) :
    (s.commanded host).Moves (s.retried host) :=
  Frame.moves_autoRestoreRetry _

theorem sensed_ok {host : Host} {s : Supervisor σ} {readings : List SensorReading}
    (answer : (Smc.readSensors (s.retried host).smc).1 = .ok readings) :
    s.sensed host = (readings, ((s.retried host).readSensors .stepOnce).2) := by
  simp [sensed, Frame.readSensors, answer]

theorem sensed_error {host : Host} {s : Supervisor σ} {e : SmcError}
    (answer : (Smc.readSensors (s.retried host).smc).1 = .error e) :
    s.sensed host = ([], ((s.retried host).readSensors .stepOnce).2.noteRecent
      s!"sensor read failed: {e}") := by
  simp [sensed, Frame.readSensors, answer]

@[simp] theorem sensed_toCustody (host : Host) (s : Supervisor σ) :
    (s.sensed host).2.toCustody = (s.retried host).toCustody := by
  cases answer : (Smc.readSensors (s.retried host).smc).1 with
  | ok readings => rw [sensed_ok answer, Frame.readSensors_toCustody]
  | error e => rw [sensed_error answer, Frame.noteRecent_toCustody, Frame.readSensors_toCustody]

theorem sensed_log (host : Host) (s : Supervisor σ) :
    (s.sensed host).2.log = (s.retried host).log
      ++ [⟨.stepOnce, .readSensors (Smc.readSensors (s.retried host).smc).1,
        (s.retried host).toCustody⟩] := by
  cases answer : (Smc.readSensors (s.retried host).smc).1 with
  | ok readings => rw [sensed_ok answer, ← answer, Frame.readSensors_log]
  | error e => rw [sensed_error answer, ← answer, Frame.noteRecent_log, Frame.readSensors_log]

theorem moves_sensed (host : Host) (s : Supervisor σ) :
    (s.retried host).Moves (s.sensed host).2 :=
  .of_move (sensed_log host s) (sensed_toCustody host s ▸ .sense _ _)

/-- A poll that observes leaves the frame to L1 as it was sensed. -/
theorem acted_of_observe {host : Host} {s : Supervisor σ}
    (observes : (s.decided host).1 = .observe) : s.acted host = ((s.sensed host).2, none) := by
  rw [acted, observes, Frame.act_observe]

theorem moves_acted {host : Host} {s : Supervisor σ} (sound : (s.sensed host).2.Sound) :
    (s.sensed host).2.Moves (s.acted host).1 :=
  Frame.moves_act sound fun mode => controllerStep_observe (.inl mode)

theorem sensed_sound (host : Host) {s : Supervisor σ} (sound : s.Sound) : (s.sensed host).2.Sound :=
  (moves_sensed host s).sound ((moves_retried host s).sound (sound.obeys (commanded_obeys host s)))

theorem acted_sound (host : Host) {s : Supervisor σ} (sound : s.Sound) : (s.acted host).1.Sound :=
  (moves_acted (sensed_sound host sound)).sound (sensed_sound host sound)

/-- A fan that is owned behind a latch is being released. -/
theorem acted_releasing {host : Host} {s : Supervisor σ} (sound : s.Sound)
    (latched : (s.acted host).1.monitorOnly = true) (armed : (s.acted host).1.manualArmed = true) :
    (s.acted host).1.autoRestorePending = true := by
  refine (acted_sound host sound).owned armed ?_
  rintro ⟨-, control⟩
  exact Bool.noConfusion (latched.symm.trans control)

/-- From the sensor read to the verdict of L1, a poll moves. -/
theorem moves_sensed_checked (host : Host) (s : Supervisor σ) (sound : (s.retried host).Sound) :
    ∃ q, (s.sensed host).2.Moves q ∧ (q.Stands (s.checked host) ∨ q.Settles (s.checked host)) := by
  have sound : (s.sensed host).2.Sound := (moves_sensed host s).sound sound
  have acted := moves_acted sound
  obtain ⟨q, moves, ends⟩ := Frame.moves_l1Poll (s.acted host).2 (acted.sound sound)
  exact ⟨q, acted.trans moves, ends⟩

/-- From the end of the command stage to the verdict of L1, a poll moves. -/
theorem moves_checked (host : Host) (s : Supervisor σ) (sound : (s.commanded host).Sound) :
    ∃ q, (s.commanded host).Moves q ∧ (q.Stands (s.checked host) ∨ q.Settles (s.checked host)) := by
  have retried := moves_retried host s
  obtain ⟨q, moves, ends⟩ := moves_sensed_checked host s (retried.sound sound)
  exact ⟨q, (retried.trans (moves_sensed host s)).trans moves, ends⟩

/-- Calls of the retry are calls of the poll. -/
theorem retried_log_subset (host : Host) (s : Supervisor σ) (sound : (s.retried host).Sound) :
    (s.retried host).log ⊆ s.calls host := by
  obtain ⟨q, moves, ends⟩ := moves_sensed_checked host s sound
  have total : (s.checked host).1.log = q.log := ends.elim (·.2) (·.2)
  rw [calls_eq, total]
  exact fun e mem => moves.log_subset ((moves_sensed host s).log_subset mem)

theorem commanded_log_subset (host : Host) {s : Supervisor σ} (sound : s.Sound) :
    (s.commanded host).log ⊆ s.calls host := fun _ mem =>
  retried_log_subset host s ((moves_retried host s).sound (sound.obeys (commanded_obeys host s)))
    ((moves_retried host s).log_subset mem)

theorem acted_log_subset (host : Host) {s : Supervisor σ} (sound : s.Sound) :
    (s.acted host).1.log ⊆ s.calls host := by
  obtain ⟨q, moves, ends⟩ := Frame.moves_l1Poll (s.acted host).2 (acted_sound host sound)
  have total : (s.checked host).1.log = q.log := ends.elim (·.2) (·.2)
  rw [calls_eq, total]
  exact moves.log_subset

/-! ### Polls that apply no command -/

section Unapplied

/-- What a poll's controller sees of the sensors. -/
def readings (smc : σ) : List SensorReading :=
  match (Smc.readSensors smc).1 with
  | .ok readings => readings
  | .error _ => []

/-- The frame a poll acts on, if it applies no command and retries no release. -/
def observed (host : Host) (s : Supervisor σ) : Frame σ :=
  { s.frame host with smc := (Smc.readSensors s.smc).2 }

variable {host : Host} {s : Supervisor σ}

/-- Unless it applies a command, the command stage writes notes at most. -/
theorem commanded_unapplied (unapplied : ¬ s.Applies host) :
    ∃ cmd ticks errors notes, s.commanded host
      = { (s.frame host).pingWatchdog with
          lastCmd := cmd, ticks := ticks, recentErrors := errors, notes := notes } := by
  cases fresh : s.freshCommand host with
  | none =>
      obtain ⟨ticks, errors, notes, eq⟩ := commanded_stale fresh
      exact ⟨_, ticks, errors, notes, eq⟩
  | some requested =>
      obtain ⟨raw, -, eq⟩ := commanded_fresh fresh
      by_cases refused : s.l2Absent = true ∧ requested ≠ .observe
      · rw [Frame.applyMode_refused refused.2 refused.1] at eq
        exact ⟨_, _, _, _, eq⟩
      · have same : requested = s.mode := Decidable.byContradiction fun other =>
          unapplied ⟨requested, fresh, refused, .inl other⟩
        have control : ¬ (s.monitorOnly = true ∧ requested ≠ .observe) := fun latched =>
          unapplied ⟨requested, fresh, refused, .inr latched⟩
        rw [Frame.applyMode_unchanged refused control same] at eq
        exact ⟨_, _, _, _, eq⟩

/-- With nothing to retry, the sensors are read where the command stage ends. -/
theorem sensed_idle (host : Host) {s : Supervisor σ}
    (idle : (s.commanded host).autoRestorePending = false) :
    ∃ ticks errors, s.sensed host = (readings (s.commanded host).smc,
      { ((s.commanded host).readSensors .stepOnce).2 with
        ticks := ticks, recentErrors := errors }) := by
  have retried : s.retried host = s.commanded host := Frame.autoRestoreRetry_idle idle
  cases answer : (Smc.readSensors (s.retried host).smc).1 with
  | ok found =>
      have read : readings (s.commanded host).smc = found := by simp [readings, ← retried, answer]
      rw [sensed_ok answer, retried, read]
      exact ⟨_, _, rfl⟩
  | error e =>
      have read : readings (s.commanded host).smc = [] := by simp [readings, ← retried, answer]
      rw [sensed_error answer, retried, read]
      exact ⟨_, _, rfl⟩

/-- With nothing applied and nothing to retry, a poll acts on what is `observed`. -/
theorem sensed_unapplied (unapplied : ¬ s.Applies host) (idle : s.autoRestorePending = false) :
    ∃ cmd pings ticks errors notes log, s.sensed host = (readings s.smc,
      { s.observed host with
        lastCmd := cmd, watchdogPings := pings, ticks := ticks, recentErrors := errors,
        notes := notes, log := log }) := by
  obtain ⟨cmd, ticks, errors, notes, eq⟩ := commanded_unapplied unapplied
  obtain ⟨ticks, errors, sensed⟩ := sensed_idle host (by rw [eq]; exact idle)
  rw [sensed, eq]
  exact ⟨_, _, _, _, _, _, rfl⟩

end Unapplied

/-- After its command stage a poll is a chain of custody moves, and perhaps the
strikes forgotten. -/
theorem next_moves (host : Host) {s : Supervisor σ} (sound : s.Sound) :
    ∃ es moved, s.calls host = (s.commanded host).log ++ es ∧
      Steps Custody.Move (s.commanded host).toCustody es moved ∧
      ((s.next host).toCustody = moved ∨ (s.next host).toCustody = moved.settled) := by
  obtain ⟨q, ⟨es, log, steps⟩, ends⟩ :=
    moves_checked host s (sound.obeys (commanded_obeys host s))
  refine ⟨es, q.toCustody, ?_, steps, ?_⟩
  · rw [calls_eq, ← log]
    exact ends.elim (·.2) (·.2)
  · rw [next_toCustody]
    exact ends.imp (·.1) (·.1)

/-- The mode of a poll is the one its command leaves. -/
theorem commanded_mode (host : Host) {s : Supervisor σ} (sound : s.Sound) :
    (s.commanded host).mode = (s.next host).mode := by
  obtain ⟨es, moved, -, steps, ends⟩ := next_moves host sound
  have kept := steps.invariant (I := fun c => c.mode = (s.commanded host).mode)
    (fun move same => move.mode_eq.1.trans same) rfl
  rcases ends with same | settled
  · rw [same, kept]
  · rw [settled]
    exact kept.symm

/-- A poll is a poll of the custody automaton: its calls are the automaton's
events and its custody ends where the automaton's does. -/
theorem poll_refines (host : Host) (s : Supervisor σ) (sound : s.Sound) :
    Custody.Poll (s.freshCommand host) s.toCustody (s.calls host) (s.next host).toCustody := by
  obtain ⟨es, moved, calls, steps, ends⟩ := next_moves host sound
  exact ⟨_, _, moved, es, commanded_obeys host s, steps, calls, ends⟩

end Supervisor

end Afanctl
