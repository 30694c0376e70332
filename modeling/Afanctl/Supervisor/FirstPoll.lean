import Afanctl.Supervisor.Requests

/-!
The first poll of a supervisor fresh from construction.

It owns nothing and has counted nothing, so no fallback is in reach: it takes the fan
over, or it calls nothing but reads.
-/

namespace Afanctl

open Afanctl.Lib

namespace Frame

variable {σ : Type} [Smc σ] {p : Frame σ} {applied : Option Nat}

/-! ### Out of reach of the fallbacks -/

/-- What the first takeover leaves before L1: at most one strike, an empty window, and
nothing written but by this poll. -/
structure Begun (applied : Option Nat) (p : Frame σ) : Prop where
  strikes : p.writeFailures ≤ 1
  window : p.stallPolls = 0
  own : p.lastWritten.isSome → applied.isSome

omit [Smc σ] in
/-- One more strike falls short of the fallback. -/
theorem Begun.short (begun : p.Begun applied) : p.writeFailures + 1 < writeFailFallback :=
  Nat.lt_of_le_of_lt (Nat.succ_le_succ begun.strikes) (by decide)

/-- With the window empty and the target written by this poll, the checks of the target
call nothing. -/
theorem l1Target_begun (fan : FanState) (previous : Option Nat) (failed : Bool)
    (window : p.stallPolls = 0) (own : p.lastWritten.isSome → applied.isSome) :
    (p.l1Target fan previous applied failed).1.log = p.log := by
  cases live : p.lastWritten with
  | none => simp only [l1Target, live, l1Verdict_log]
  | some written =>
      have applied : applied ≠ none := Option.isSome_iff_ne_none.mp (own (by rw [live]; rfl))
      have quiet : ¬ p.StallFires (absDiff fan.rpm written) fan.rpm previous := by
        rintro ⟨-, -, full⟩
        rw [window] at full
        exact absurd full (by decide)
      obtain ⟨q, eq, -, log, -⟩ := l1Stall_quiet quiet
      rw [l1Target_live live, l1Tracking_skip fun off => applied off.2.2]
      simp only [l1Window, eq, l1Verdict_log, log]

/-- So L1 releases nothing. -/
theorem Begun.l1Poll (begun : p.Begun applied) (idle : p.autoRestorePending = false) :
    Emits (¬ ·.autoAttempt) p (p.l1Poll applied).1 := by
  have looked : Emits (¬ ·.autoAttempt) p (p.readFan .l1Poll).2 := .of_event (readFan_log ..) nofun
  cases answer : (Smc.readFan p.smc).1 with
  | error e =>
      obtain ⟨ticks, errors, notes, eq⟩ := failWrite_short (p := (p.readFan .l1Poll).2.noteRecent
        s!"L1 fan read failed: {e}") "L1 poll defeated by fan read failure" begun.short
      rw [l1Poll_error answer, eq]
      exact looked
  | ok fan =>
      cases armed : p.manualArmed with
      | false =>
          rw [l1Poll_free answer armed]
          exact looked
      | true =>
          rw [l1Poll_owned answer armed idle]
          unfold l1Checks
          by_cases manual : fan.mode = .manual
          · rw [l1ModeDrift_manual manual]
            refine looked.trans (.of_log ?_)
            exact l1Target_begun fan _ _ begun.window begun.own
          · have entered : Emits (¬ ·.autoAttempt) p
                ((p.looked fan).setMode .enterManual .manual).2 :=
              looked.trans (.of_event (setMode_log ..) nofun)
            cases retaken : (Smc.setMode .manual (p.looked fan).smc).1 with
            | ok mode =>
                rw [l1ModeDrift_ok manual retaken]
                refine entered.trans (.of_log ?_)
                exact l1Target_begun (p := { ((p.looked fan).setMode .enterManual .manual).2 with
                  manualArmed := true }.note "L1: manual mode re-asserted") fan _ _
                  begun.window begun.own
            | error e =>
                obtain ⟨ticks, errors, notes, eq⟩ := failWrite_short
                  (p := ((p.looked fan).setMode .enterManual .manual).2)
                  s!"set Manual write error: {e}" begun.short
                rw [l1ModeDrift_error manual retaken, eq]
                refine entered.trans (.of_log ?_)
                exact l1Target_begun fan _ _ begun.window begun.own

/-- A first strike. -/
theorem failWrite_begins (msg : String) (strikes : p.writeFailures = 0) (window : p.stallPolls = 0)
    (unwritten : p.lastWritten = none) :
    (p.failWrite msg).log = p.log ∧ (p.failWrite msg).Begun none ∧
      (p.failWrite msg).autoRestorePending = p.autoRestorePending := by
  have first : p.writeFailures + 1 ≤ 1 := Nat.le_of_eq (congrArg (· + 1) strikes)
  have short : p.writeFailures + 1 < writeFailFallback := Nat.lt_of_le_of_lt first (by decide)
  obtain ⟨ticks, errors, notes, eq⟩ := failWrite_short msg short
  rw [eq]
  exact ⟨rfl, ⟨first, window, by simp [unwritten]⟩, rfl⟩

/-- The first write of an owned fan. -/
theorem writeOwned_begins (rpm : Nat) (strikes : p.writeFailures = 0) (window : p.stallPolls = 0)
    (unwritten : p.lastWritten = none) :
    Emits (¬ ·.autoAttempt) p (p.writeOwned rpm).1 ∧
      (p.writeOwned rpm).1.Begun (p.writeOwned rpm).2 ∧
      (p.writeOwned rpm).1.autoRestorePending = p.autoRestorePending := by
  have fresh : p.lastWritten ≠ some (clamp p.hwMin p.hwMax rpm) := by
    rw [unwritten]
    nofun
  have asked : Emits (¬ ·.autoAttempt) p
      (p.writeSpeed .writeControlled (clamp p.hwMin p.hwMax rpm)).2 :=
    .of_event (writeSpeed_log ..) nofun
  cases answer : (Smc.writeSpeed (clamp p.hwMin p.hwMax rpm) p.smc).1 with
  | ok verified =>
      rw [writeOwned_ok fresh answer]
      have strikes : p.writeFailures ≤ 1 := Nat.le_trans (Nat.le_of_eq strikes) (Nat.zero_le 1)
      exact ⟨asked, ⟨strikes, window, fun _ => rfl⟩, rfl⟩
  | error e =>
      rw [writeOwned_error fresh answer]
      obtain ⟨log, begun, pending⟩ := failWrite_begins
        (p := (p.writeSpeed .writeControlled (clamp p.hwMin p.hwMax rpm)).2)
        s!"rpm target {clamp p.hwMin p.hwMax rpm}: {e}" strikes window unwritten
      exact ⟨asked.trans (.of_log log), begun, pending⟩

/-- The first takeover is asked for, and nothing is released. -/
theorem writeControlled_begins (rpm : Nat) (free : p.manualArmed = false)
    (strikes : p.writeFailures = 0) (window : p.stallPolls = 0)
    (unwritten : p.lastWritten = none) :
    ∃ answer, Emits (¬ ·.autoAttempt) p (p.writeControlled rpm).1 ∧
      (⟨.enterManual, .setMode .manual answer, p.toCustody⟩ : Event)
        ∈ (p.writeControlled rpm).1.log ∧
      (p.writeControlled rpm).1.Begun (p.writeControlled rpm).2 ∧
      (p.writeControlled rpm).1.autoRestorePending = p.autoRestorePending := by
  have entered : Emits (¬ ·.autoAttempt) p (p.setMode .enterManual .manual).2 :=
    .of_event (setMode_log ..) nofun
  refine ⟨(Smc.setMode .manual p.smc).1, ?_⟩
  cases answer : (Smc.setMode .manual p.smc).1 with
  | error e =>
      rw [writeControlled_refused free answer]
      obtain ⟨log, begun, pending⟩ := failWrite_begins (p := (p.setMode .enterManual .manual).2)
        s!"set Manual write error: {e}" strikes window unwritten
      refine ⟨entered.trans (.of_log log), ?_, begun, pending⟩
      rw [log, setMode_log, answer]
      exact List.mem_concat_self
  | ok mode =>
      rw [writeControlled_taken free answer]
      obtain ⟨calls, begun, pending⟩ := writeOwned_begins
        (p := { (p.setMode .enterManual .manual).2 with manualArmed := true }) rpm strikes window
        unwritten
      refine ⟨entered.trans calls, ?_, begun, pending⟩
      obtain ⟨es, log, -⟩ := calls
      rw [log]
      refine List.mem_append_left es ?_
      rw [← answer]
      exact List.mem_concat_self

/-- A free supervisor that may drive takes any command on. -/
theorem applyMode_free (requested : RunMode) (free : p.manualArmed = false)
    (control : p.monitorOnly = false) (proven : p.l2Absent = false) :
    ∃ notes, p.applyMode requested = { p with mode := requested, notes := notes } := by
  have rearmed : p.rearm requested = p := by simp [rearm, control]
  unfold applyMode
  rw [if_neg fun refused => Bool.noConfusion (proven.symm.trans refused.1), rearmed]
  by_cases same : requested = p.mode
  · subst same
    exact ⟨p.notes, by simp⟩
  · by_cases observe : requested = .observe
    · subst observe
      simp only [same, ↓reduceIte, leaveControl_free free]
      exact ⟨_, rfl⟩
    · simp only [same, observe, ↓reduceIte]
      exact ⟨_, rfl⟩

end Frame

namespace Supervisor

variable {σ : Type} {host : Host} {s : Supervisor σ}

/-- As construction in a control mode leaves it. -/
structure AtRest (s : Supervisor σ) : Prop where
  mode : s.mode ≠ .observe
  control : s.monitorOnly = false
  proven : s.l2Absent = false
  free : s.manualArmed = false
  idle : s.autoRestorePending = false
  unwritten : s.lastWritten = none
  strikes : s.writeFailures = 0
  window : s.stallPolls = 0

variable [Smc σ]

theorem wired_atRest (smc : σ) (cfg : ResolvedConfig) (paths : RuntimePaths) :
    (wired smc cfg .curve paths).AtRest :=
  ⟨nofun, rfl, rfl, rfl, rfl, rfl, rfl, rfl⟩

variable [SerdeJson]

/-- The poll applies no observe command, and reads a valid temperature. -/
def TakesOver (host : Host) (s : Supervisor σ) : Prop :=
  s.freshCommand host ≠ some .observe ∧ hottest (readings s.smc) ≠ none

instance (host : Host) (s : Supervisor σ) : Decidable (s.TakesOver host) :=
  inferInstanceAs (Decidable (_ ∧ _))

namespace AtRest

theorem commanded (rest : s.AtRest) (host : Host) :
    ∃ cmd pings ticks errors notes, s.commanded host
      = { s.frame host with
          mode := (s.freshCommand host).getD s.mode, lastCmd := cmd, watchdogPings := pings,
          ticks := ticks, recentErrors := errors, notes := notes } := by
  cases fresh : s.freshCommand host with
  | none =>
      obtain ⟨ticks, errors, notes, eq⟩ := commanded_stale fresh
      exact ⟨_, _, ticks, errors, notes, eq⟩
  | some requested =>
      obtain ⟨raw, -, eq⟩ := commanded_fresh fresh
      obtain ⟨notes, applied⟩ := Frame.applyMode_free requested
        (p := { (s.frame host).pingWatchdog with lastCmd := some raw })
        rest.free rest.control rest.proven
      exact ⟨_, _, _, _, notes, eq.trans applied⟩

/-- The frame the first poll acts on. -/
theorem sensed (rest : s.AtRest) (host : Host) :
    ∃ cmd pings ticks errors notes answer, s.sensed host = (readings s.smc,
      { s.frame host with
        mode := (s.freshCommand host).getD s.mode, smc := (Smc.readSensors s.smc).2,
        lastCmd := cmd, watchdogPings := pings, ticks := ticks, recentErrors := errors,
        notes := notes, log := [⟨.stepOnce, .readSensors answer,
          { s.toCustody with mode := (s.freshCommand host).getD s.mode }⟩] }) := by
  obtain ⟨cmd, pings, ticks, errors, notes, eq⟩ := rest.commanded host
  obtain ⟨ticks, errors, sensed⟩ := sensed_idle host (by rw [eq]; exact rest.idle)
  rw [sensed, eq]
  exact ⟨_, _, _, _, _, _, rfl⟩

/-- The first poll reads the sensors before anything else. -/
theorem sensed_log (rest : s.AtRest) (host : Host) :
    ∀ e ∈ (s.sensed host).2.log, ¬ e.changing := by
  obtain ⟨cmd, pings, ticks, errors, notes, answer, eq⟩ := rest.sensed host
  rw [eq]
  simp only [List.forall_mem_singleton]
  exact nofun

/-- A first poll that takes over asks for Manual and releases nothing. -/
theorem takes (rest : s.AtRest) (takes : s.TakesOver host) :
    (∀ e ∈ s.calls host, ¬ e.autoAttempt) ∧
      ∃ e ∈ s.calls host, ∃ answer, e.op = .setMode .manual answer := by
  obtain ⟨cmd, pings, ticks, errors, notes, answer, eq⟩ := rest.sensed host
  obtain ⟨t, seen⟩ := Option.ne_none_iff_exists'.mp takes.2
  have mode : (s.freshCommand host).getD s.mode ≠ .observe := by
    cases fresh : s.freshCommand host with
    | none => exact rest.mode
    | some requested => exact fun observe => takes.1 (fresh.trans (congrArg some observe))
  have driving : (s.sensed host).2.Driving := by
    rw [eq]
    exact ⟨mode, rest.control⟩
  have readings : hottest (s.sensed host).1 = some t := by
    rw [eq]
    exact seen
  obtain ⟨rpm, commands⟩ := controllerStep_seen s.controller driving readings
    (s.sensed host).2.cfgMaxRpm
  have acted : s.acted host = (s.sensed host).2.writeControlled rpm :=
    Frame.act_speed driving.2 commands
  obtain ⟨manual, calls, asked, begun, idle⟩ := (s.sensed host).2.writeControlled_begins rpm
    (by rw [eq]; exact rest.free) (by rw [eq]; exact rest.strikes) (by rw [eq]; exact rest.window)
    (by rw [eq]; exact rest.unwritten)
  rw [← acted] at calls asked begun idle
  have idle : (s.acted host).1.autoRestorePending = false := by
    rw [idle, eq]
    exact rest.idle
  obtain ⟨es, log, quiet⟩ := calls
  obtain ⟨es', log', quiet'⟩ := begun.l1Poll idle
  have total : s.calls host = (s.acted host).1.log ++ es' := (calls_eq host s).trans log'
  constructor
  · intro e mem
    rw [total, log, List.append_assoc] at mem
    rcases List.mem_append.mp mem with mem | mem
    · exact fun attempt => rest.sensed_log host e mem (Event.changing_of_autoAttempt attempt)
    · exact (List.mem_append.mp mem).elim (quiet e) (quiet' e)
  · rw [total]
    exact ⟨_, List.mem_append_left _ asked, manual, rfl⟩

/-- Any other first poll acts on nothing. -/
theorem acted_spared (rest : s.AtRest) (spared : ¬ s.TakesOver host) :
    s.acted host = ((s.sensed host).2, none) := by
  obtain ⟨cmd, pings, ticks, errors, notes, answer, eq⟩ := rest.sensed host
  have free : (s.sensed host).2.manualArmed = false := by
    rw [eq]
    exact rest.free
  by_cases observe : s.freshCommand host = some .observe
  · have mode : (s.sensed host).2.mode = .observe := by
      rw [eq, observe]
      rfl
    exact acted_of_observe (controllerStep_observe (.inl mode))
  · have lost : hottest (s.sensed host).1 = none := by
      rw [eq]
      exact Decidable.byContradiction fun seen => spared ⟨observe, seen⟩
    have decides : (s.decided host).1 = .observe ∨ (s.decided host).1 = .returnToAuto :=
      controllerStep_lost s.controller lost
    rcases decides with observes | returns
    · exact acted_of_observe observes
    · rw [acted, returns, Frame.act_returnToAuto_free free]

/-- So it only reads. -/
theorem spares (rest : s.AtRest) (spared : ¬ s.TakesOver host) :
    ∀ e ∈ s.calls host, ¬ e.changing := by
  obtain ⟨cmd, pings, ticks, errors, notes, answer, eq⟩ := rest.sensed host
  have free : (s.sensed host).2.manualArmed = false := by
    rw [eq]
    exact rest.free
  have looked : ∀ e ∈ ((s.sensed host).2.readFan .l1Poll).2.log, ¬ e.changing := by
    intro e mem
    rcases List.mem_append.mp mem with mem | mem
    · exact rest.sensed_log host e mem
    · rw [List.mem_singleton.mp mem]
      nofun
  rw [calls_eq, checked, rest.acted_spared spared]
  cases answer : (Smc.readFan (s.sensed host).2.smc).1 with
  | ok fan =>
      rw [Frame.l1Poll_free answer free]
      exact looked
  | error e =>
      have strikes : (s.sensed host).2.writeFailures + 1 < writeFailFallback := by
        rw [eq]
        exact Nat.lt_of_le_of_lt (Nat.le_of_eq (congrArg (· + 1) rest.strikes)) (by decide)
      obtain ⟨ticks, errors, notes, failed⟩ := Frame.failWrite_short
        (p := ((s.sensed host).2.readFan .l1Poll).2.noteRecent s!"L1 fan read failed: {e}")
        "L1 poll defeated by fan read failure" strikes
      rw [Frame.l1Poll_error answer, failed]
      exact looked

end AtRest

end Supervisor

end Afanctl
