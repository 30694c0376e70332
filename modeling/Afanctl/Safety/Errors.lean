import Afanctl.Supervisor.Asked
import Afanctl.Safety.Stall
import Mathlib.Data.List.DropRight

/-!
What `recent_errors` tells of a run.

Every call that fails makes the daemon note an error text of its own, but for two: the look at
the inherited mode, which is nothing to an observing daemon, and the attempts of a pending
release, whose warning is rate-limited. So the last five entries are the end of a history in
which every other failed call has its entry, in the order of the calls and with a reading of
the clock in its poll.
-/

namespace Afanctl

open Afanctl.Lib

/-! ### The bounded log -/

section Ring

variable {α : Type}

/-- Dropping the oldest entry once there are too many keeps the last ones. -/
theorem push_rtake (k : Nat) (history : List α) (entry : α) :
    (if k + 1 < (history.rtake (k + 1) ++ [entry]).length
      then (history.rtake (k + 1) ++ [entry]).drop 1 else history.rtake (k + 1) ++ [entry])
      = (history ++ [entry]).rtake (k + 1) := by
  rw [List.rtake_concat_succ]
  unfold List.rtake
  by_cases full : k + 1 ≤ history.length
  · have first : 1 ≤ (history.drop (history.length - (k + 1))).length := by
      rw [List.length_drop]
      omega
    have next : history.length - (k + 1) + 1 = history.length - k := by omega
    rw [if_pos (by simp; omega), List.drop_append_of_le_length first, List.drop_drop, next]
  · have short : history.length - (k + 1) = 0 := by omega
    have shorter : history.length - k = 0 := by omega
    rw [if_neg (by simp; omega), short, shorter]

end Ring

/-! ### Complaints -/

namespace Event

/-- The text that the daemon notes for a failed call. -/
def complaint : Event → Option String
  | ⟨.run, .probeSafeRestore (.error e), _⟩ =>
      some (s!"L2 death path ABSENT: the arm-time restore probe failed: {e} (fix: run " ++
        "as root so the fan mode attribute is writable, then check `afanctl doctor`); " ++
        "refusing to arm an unproven restore, so no control mode will be entered")
  | ⟨.reconcile, .setMode _ (.error e), _⟩ =>
      some (s!"startup reconcile: restoring AUTO failed: {e} (fix: run as root so the " ++
        "fan mode attribute is writable); degrading to observe + monitor-only: never command " ++
        "manual while AUTO cannot be restored")
  | ⟨.applyMode, .setMode _ (.error e), _⟩ => some s!"cmd observe: set AUTO error: {e}"
  | ⟨.stepOnce, .readSensors (.error e), _⟩ => some s!"sensor read failed: {e}"
  | ⟨.act, .setMode _ (.error e), _⟩ => some s!"ReturnToAuto: set AUTO error: {e}"
  | ⟨.writeControlled, .writeSpeed rpm (.error e), _⟩ => some s!"rpm target {rpm}: {e}"
  | ⟨.enterManual, .setMode _ (.error e), _⟩ => some s!"set Manual write error: {e}"
  | ⟨.l1Poll, .readFan (.error e), _⟩ => some s!"L1 fan read failed: {e}"
  | ⟨.l1Poll, .writeSpeed rpm (.error e), _⟩ => some s!"L1 re-assert {rpm}: {e}"
  | ⟨.degradeToAuto, .setMode _ (.error e), _⟩ =>
      some (s!"L1 fallback: {writeFailFallback} failed writes → AUTO restore FAILED ({e}); " ++
        "fan still Manual, retrying AUTO every poll, monitor-only")
  | _ => none

/-- The calls that may fail without a complaint. -/
def excused : Event → Bool
  | ⟨.run, .readFan _, _⟩ => true
  | ⟨.autoRestoreRetry, _, _⟩ => true
  | _ => false

/-- A call is answered, excused, or complained about. -/
def Heard (e : Event) : Prop := e.answered ∨ e.excused ∨ e.complaint.isSome

end Event

/-- A text that was noted in a poll, when the clock was read for the `reading`-th time. -/
structure Noted where
  host : Host
  reading : Nat
  text : String

namespace Noted

/-- The entry it makes. -/
def entry (n : Noted) : RecentError := ⟨isoNow (n.host.now n.reading), n.text⟩

/-- What it says, and in which poll. -/
def told (n : Noted) : Host × String := (n.host, n.text)

end Noted

/-- Texts noted one after the other in a poll, from the `reading`-th reading of the clock on. -/
def noted (host : Host) (reading : Nat) (texts : List String) : List Noted :=
  (texts.zipIdx reading).map fun (text, reading) => ⟨host, reading, text⟩

theorem noted_append (host : Host) (reading : Nat) (texts more : List String) :
    noted host reading (texts ++ more)
      = noted host reading texts ++ noted host (reading + texts.length) more := by
  rw [noted, List.zipIdx_append, List.map_append]
  rfl

/-- What the log shows of a history. -/
def shown (history : List Noted) : List RecentError :=
  (history.map Noted.entry).rtake recentErrorsMax

namespace Frame

variable {σ : Type}

/-- The readings of the clock, and the log. -/
def record (p : Frame σ) : Nat × List RecentError := (p.ticks, p.recentErrors)

/-- From `p` to `q` the texts were noted, each with a reading of its own. -/
def Notes (texts : List String) (p q : Frame σ) : Prop :=
  ∀ history, p.recentErrors = shown history →
    q.record = (p.ticks + texts.length, shown (history ++ noted p.host p.ticks texts))

/-- Every failed call between two frames is heard of, and the poll and the last command are the
same. -/
structure Reports (p q : Frame σ) : Prop where
  host : q.host = p.host
  cmd : q.lastCmd = p.lastCmd
  heard : ∃ es texts, q.log = p.log ++ es ∧ p.Notes texts q ∧
    (es.filterMap Event.complaint).Sublist texts ∧ ∀ e ∈ es, e.Heard

/-- A frame with the same record has noted nothing. -/
theorem notes_nil {p q : Frame σ} (same : q.record = p.record) : p.Notes [] q := by
  intro history window
  rw [same, record, window]
  exact congrArg (fun h => (p.ticks, shown h)) (List.append_nil history).symm

theorem notes_noteRecent (msg : String) (p : Frame σ) : p.Notes [msg] (p.noteRecent msg) := by
  intro history window
  have pushed := push_rtake 4 (history.map Noted.entry) ⟨p.isoTime, msg⟩
  refine Prod.ext rfl ?_
  show (if recentErrorsMax < (p.recentErrors ++ [_]).length then _ else _) = _
  rw [window]
  simp only [shown, List.map_append]
  exact pushed

namespace Reports

variable {p q r : Frame σ} {e : Event} {text : String}

/-- Nothing was called or noted. -/
theorem of_eq (host : q.host = p.host) (cmd : q.lastCmd = p.lastCmd) (log : q.log = p.log)
    (same : q.record = p.record) : Reports p q :=
  ⟨host, cmd, [], [], by simpa using log, notes_nil same, .slnil, by simp⟩

theorem refl (p : Frame σ) : Reports p p := of_eq rfl rfl rfl rfl

theorem trans (first : Reports p q) (second : Reports q r) : Reports p r := by
  obtain ⟨host, cmd, es, texts, log, notes, told, heard⟩ := first
  obtain ⟨host', cmd', es', texts', log', notes', told', heard'⟩ := second
  refine ⟨host'.trans host, cmd'.trans cmd, es ++ es', texts ++ texts',
    by rw [log', log, List.append_assoc], ?_, ?_, ?_⟩
  · intro history window
    have between := notes history window
    have read : q.ticks = p.ticks + texts.length := congrArg Prod.fst between
    rw [notes' _ (congrArg Prod.snd between), host, read, noted_append, List.length_append,
      List.append_assoc, Nat.add_assoc]
  · rw [List.filterMap_append]
    exact told.append told'
  · intro e mem
    exact (List.mem_append.mp mem).elim (heard e) (heard' e)

theorem note (reports : Reports p q) (msg : String) : Reports p (q.note msg) :=
  reports.trans (of_eq rfl rfl rfl rfl)

/-- A text was noted. -/
theorem noteRecent (reports : Reports p q) (msg : String) : Reports p (q.noteRecent msg) := by
  refine reports.trans ⟨rfl, rfl, [], [msg], (List.append_nil q.log).symm, ?_,
    List.nil_sublist _, by simp⟩
  exact notes_noteRecent msg q

/-- A call was made that nothing is noted about. -/
theorem called (host : q.host = p.host) (cmd : q.lastCmd = p.lastCmd) (log : q.log = p.log ++ [e])
    (same : q.record = p.record) (silent : e.complaint = none) (heard : e.Heard) :
    Reports p q :=
  ⟨host, cmd, [e], [], log, notes_nil same, by simp [silent], by simpa using heard⟩

/-- A call was made and complained about. -/
theorem complained (host : q.host = p.host) (cmd : q.lastCmd = p.lastCmd)
    (log : q.log = p.log ++ [e]) (same : q.record = (p.noteRecent text).record)
    (names : e.complaint = some text) : Reports p q := by
  refine ⟨host, cmd, [e], [text], log, ?_, by simp [names], ?_⟩
  · intro history window
    rw [same]
    exact notes_noteRecent text p history window
  · intro e' mem
    rw [List.mem_singleton.mp mem]
    exact .inr (.inr (by rw [names]; rfl))

/-- The attempts of a pending release are excused. -/
theorem attempt {op : Op} {c : Custody} (host : q.host = p.host)
    (cmd : q.lastCmd = p.lastCmd) (log : q.log = p.log ++ [⟨.autoRestoreRetry, op, c⟩])
    (same : q.record = p.record) : Reports p q := by
  refine called host cmd log same ?_ (.inr (.inl rfl))
  cases op <;> rfl

end Reports

/-! ### Stages without a call -/

theorem reports_autoRestoreFailed (p : Frame σ) : Reports p p.autoRestoreFailed := by
  unfold autoRestoreFailed
  split
  · exact .trans (.noteRecent (.refl p) _) (.of_eq rfl rfl rfl rfl)
  · exact .of_eq rfl rfl rfl rfl

theorem reports_autoRestored (p : Frame σ) : Reports p p.autoRestored := by
  refine .note (.noteRecent ?_ _) _
  exact .of_eq rfl rfl rfl rfl

theorem reports_l1Dwell (p : Frame σ) : Reports p p.l1Dwell := by
  unfold l1Dwell
  simp only
  split
  · refine .note (.noteRecent ?_ _) _
    exact .of_eq rfl rfl rfl rfl
  · exact .of_eq rfl rfl rfl rfl

theorem reports_l1Verdict (failed : Bool) (p : Frame σ) : Reports p (p.l1Verdict failed).1 := by
  unfold l1Verdict
  split
  · exact .refl p
  · split
    · exact .of_eq rfl rfl rfl rfl
    · exact .refl p

variable [Smc σ]

/-! ### The write paths -/

theorem reports_degradeToAuto (p : Frame σ) : Reports p p.degradeToAuto := by
  unfold degradeToAuto
  simp only [setMode]
  cases answer : (Smc.setMode .auto p.smc).1 with
  | ok mode =>
      refine .note (.note (.noteRecent (.noteRecent ?_ _) _) _) _
      refine .called (e := ⟨.degradeToAuto, .setMode .auto (.ok mode), _⟩) rfl rfl rfl rfl rfl ?_
      exact .inl rfl
  | error e =>
      refine .note (.note ?_ _) _
      exact .complained (e := ⟨.degradeToAuto, .setMode .auto (.error e), _⟩) rfl rfl rfl rfl rfl

/-- A counted failure falls back on the third strike. -/
theorem Reports.failWrite {p q : Frame σ} {msg : String} (noted : Reports p (q.noteRecent msg)) :
    Reports p (q.failWrite msg) := by
  have struck : Reports p { (q.noteRecent msg).note "write/re-assert failed" with
      writeFailures := q.writeFailures + 1 } := noted.trans (.of_eq rfl rfl rfl rfl)
  unfold Frame.failWrite
  simp only
  split
  · exact struck.trans (reports_degradeToAuto _)
  · exact struck

theorem reports_enterManual (p : Frame σ) : Reports p p.enterManual.1 := by
  cases answer : (Smc.setMode .manual p.smc).1 with
  | ok mode =>
      rw [enterManual_ok answer]
      exact .called rfl rfl (setMode_log ..) rfl (by rw [answer]; rfl) (.inl (by rw [answer]; rfl))
  | error e =>
      rw [enterManual_error answer]
      exact .failWrite (.complained rfl rfl (setMode_log ..) rfl (by rw [answer]; rfl))

theorem reports_writeOwned (rpm : Nat) (p : Frame σ) : Reports p (p.writeOwned rpm).1 := by
  by_cases same : p.lastWritten = some (clamp p.hwMin p.hwMax rpm)
  · rw [writeOwned_same same]
    exact .refl p
  · cases answer : (Smc.writeSpeed (clamp p.hwMin p.hwMax rpm) p.smc).1 with
    | ok verified =>
        rw [writeOwned_ok same answer]
        exact .called rfl rfl (writeSpeed_log ..) rfl (by rw [answer]; rfl)
          (.inl (by rw [answer]; rfl))
    | error e =>
        rw [writeOwned_error same answer]
        exact .failWrite (.complained rfl rfl (writeSpeed_log ..) rfl (by rw [answer]; rfl))

theorem reports_writeControlled (rpm : Nat) (p : Frame σ) :
    Reports p (p.writeControlled rpm).1 := by
  cases armed : p.manualArmed with
  | true =>
      rw [writeControlled_armed rpm armed]
      exact reports_writeOwned rpm p
  | false =>
      have entered := reports_enterManual p
      cases answer : (Smc.setMode .manual p.smc).1 with
      | ok mode =>
          rw [enterManual_ok answer] at entered
          rw [writeControlled_taken armed answer]
          exact entered.trans (reports_writeOwned rpm _)
      | error e =>
          rw [enterManual_error answer] at entered
          rw [writeControlled_refused armed answer]
          exact entered

theorem reports_act (decision : Decision) (p : Frame σ) : Reports p (p.act decision).1 := by
  cases latched : p.monitorOnly with
  | true =>
      rw [act_latched decision latched]
      exact .refl p
  | false =>
      cases decision with
      | observe =>
          rw [act_observe]
          exact .refl p
      | setSpeed rpm =>
          rw [act_setSpeed rpm latched]
          exact reports_writeControlled rpm p
      | escalateMax =>
          rw [act_escalateMax latched]
          exact reports_writeControlled p.cfgMaxRpm p
      | returnToAuto =>
          cases armed : p.manualArmed with
          | false =>
              rw [act_returnToAuto_free armed]
              exact .refl p
          | true =>
              cases answer : (Smc.setMode .auto p.smc).1 with
              | ok mode =>
                  rw [act_returnToAuto_ok latched armed answer]
                  exact .called rfl rfl (setMode_log ..) rfl (by rw [answer]; rfl)
                    (.inl (by rw [answer]; rfl))
              | error e =>
                  rw [act_returnToAuto_error latched armed answer]
                  exact .failWrite (.complained rfl rfl (setMode_log ..) rfl (by rw [answer]; rfl))

/-! ### The retry and the command -/

theorem reports_autoRestoreRetry (p : Frame σ) : Reports p p.autoRestoreRetry := by
  cases pending : p.autoRestorePending with
  | false =>
      rw [autoRestoreRetry_idle pending]
      exact .refl p
  | true =>
      have looked : Reports p (p.attempting.readFan .autoRestoreRetry).2 :=
        .attempt rfl rfl (readFan_log ..) rfl
      by_cases seen : ∃ rpm, (Smc.readFan p.smc).1 = .ok ⟨rpm, .auto⟩
      · obtain ⟨rpm, answer⟩ := seen
        rw [autoRestoreRetry_seen pending answer]
        exact looked.trans (reports_autoRestored _)
      · have unseen : ∀ rpm, (Smc.readFan p.smc).1 ≠ .ok ⟨rpm, .auto⟩ :=
          fun rpm answer => seen ⟨rpm, answer⟩
        have asked : Reports p ((p.attempting.readFan .autoRestoreRetry).2.setMode
            .autoRestoreRetry .auto).2 :=
          looked.trans (.attempt rfl rfl (setMode_log ..) rfl)
        cases answer : (Smc.setMode .auto (Smc.readFan p.smc).2).1 with
        | ok mode =>
            rw [autoRestoreRetry_restored pending unseen answer]
            exact asked.trans (reports_autoRestored _)
        | error e =>
            rw [autoRestoreRetry_failed pending unseen answer]
            exact asked.trans (reports_autoRestoreFailed _)

theorem reports_leaveControl (p : Frame σ) : Reports p p.leaveControl := by
  cases armed : p.manualArmed with
  | false =>
      rw [leaveControl_free armed]
      exact .of_eq rfl rfl rfl rfl
  | true =>
      cases answer : (Smc.setMode .auto p.smc).1 with
      | ok mode =>
          refine .called (e := ⟨.applyMode, .setMode .auto (.ok mode), p.toCustody⟩)
            ?_ ?_ ?_ ?_ rfl (.inl rfl) <;>
            simp [leaveControl, armed, setMode, answer, Frame.note, Frame.called, record]
      | error e =>
          rw [leaveControl_error armed answer]
          refine .trans (.failWrite (q := p.releaseFailed) ?_) (.of_eq rfl rfl rfl rfl)
          exact .complained rfl rfl (setMode_log ..) rfl (by rw [answer]; rfl)

theorem reports_applyMode (requested : RunMode) (p : Frame σ) :
    Reports p (p.applyMode requested) := by
  have rearmed : Reports p (p.rearm requested) := by
    refine .of_eq ?_ ?_ (rearm_log requested) ?_ <;>
      unfold rearm <;> split <;> rfl
  unfold applyMode
  split
  · exact .note (.noteRecent (.refl p) _) _
  · simp only
    split
    · exact rearmed
    · split
      · exact rearmed.trans (reports_leaveControl _)
      · exact (rearmed.note _).trans (.of_eq rfl rfl rfl rfl)

/-! ### L1 -/

theorem reports_l1ModeDrift (fan : FanState) (p : Frame σ) : Reports p (p.l1ModeDrift fan).1 := by
  have entered := reports_enterManual p
  unfold l1ModeDrift
  split
  · exact .refl p
  · split
    · next taken =>
        rw [taken] at entered
        exact entered.note _
    · next refused =>
        rw [refused] at entered
        exact entered

theorem reports_l1Tracking (dev written : Nat) (applied : Option Nat) (failed : Bool)
    (p : Frame σ) : Reports p (p.l1Tracking dev written applied failed).1 := by
  by_cases off : p.Reasserts dev applied
  · cases answer : (Smc.writeSpeed written p.smc).1 with
    | ok verified =>
        rw [l1Tracking_ok off answer]
        exact .called (e := ⟨.l1Poll, .writeSpeed written (.ok verified), p.toCustody⟩) rfl rfl
          (by rw [← answer]; exact reasserted_log dev written p) rfl rfl (.inl rfl)
    | error e =>
        rw [l1Tracking_error off answer]
        refine .failWrite (.complained
          (e := ⟨.l1Poll, .writeSpeed written (.error e), p.toCustody⟩) rfl rfl ?_ rfl rfl)
        rw [← answer]
        exact reasserted_log dev written p
  · rw [l1Tracking_skip off]
    exact .refl p

theorem reports_l1Stall (dev rpm : Nat) (prevActual : Option Nat) (p : Frame σ) :
    Reports p (p.l1Stall dev rpm prevActual).1 := by
  unfold l1Stall
  simp only
  split
  · split
    · exact (reports_l1Dwell p).trans (.of_eq rfl rfl rfl rfl)
    · split
      · have stuck : Reports p { p.l1Dwell with
            stallPolls := min (p.l1Dwell.stallPolls + 1) u32Max } :=
          (reports_l1Dwell p).trans (.of_eq rfl rfl rfl rfl)
        refine .trans (.trans (.note (.noteRecent stuck _) _) (.of_eq rfl rfl rfl rfl))
          (reports_degradeToAuto _)
      · exact (reports_l1Dwell p).trans (.of_eq rfl rfl rfl rfl)
  · exact .of_eq rfl rfl rfl rfl

theorem reports_l1Window (dev rpm : Nat) (prevActual : Option Nat) (failed : Bool) (p : Frame σ) :
    Reports p (p.l1Window dev rpm prevActual failed).1 := by
  have watched := reports_l1Stall dev rpm prevActual p
  unfold l1Window
  split
  · next fired =>
      rw [fired] at watched
      exact watched
  · next quiet =>
      rw [quiet] at watched
      exact watched.trans (reports_l1Verdict _ _)

theorem reports_l1Target (fan : FanState) (prevActual applied : Option Nat) (failed : Bool)
    (p : Frame σ) : Reports p (p.l1Target fan prevActual applied failed).1 := by
  cases live : p.lastWritten with
  | none =>
      simp only [l1Target, live]
      exact reports_l1Verdict failed p
  | some written =>
      rw [l1Target_live live]
      exact (reports_l1Tracking ..).trans (reports_l1Window ..)

theorem reports_l1Checks (fan : FanState) (prevActual applied : Option Nat) (p : Frame σ) :
    Reports p (p.l1Checks fan prevActual applied).1 := by
  have drifted := reports_l1ModeDrift fan p
  unfold l1Checks
  split
  next eq =>
  rw [eq] at drifted
  exact drifted.trans (reports_l1Target ..)

theorem reports_l1Poll (applied : Option Nat) (p : Frame σ) : Reports p (p.l1Poll applied).1 := by
  cases answer : (Smc.readFan p.smc).1 with
  | error e =>
      have looked : Reports p ((p.readFan .l1Poll).2.noteRecent s!"L1 fan read failed: {e}") :=
        .complained rfl rfl (readFan_log ..) rfl (by rw [answer]; rfl)
      rw [l1Poll_error answer]
      exact .failWrite (looked.noteRecent _)
  | ok fan =>
      have looked : Reports p (p.looked fan) :=
        .called rfl rfl (readFan_log ..) rfl (by rw [answer]; rfl) (.inl (by rw [answer]; rfl))
      cases armed : p.manualArmed with
      | false =>
          rw [l1Poll_free answer armed]
          exact looked.trans (.of_eq rfl rfl rfl rfl)
      | true =>
          cases pending : p.autoRestorePending with
          | true =>
              rw [l1Poll_releasing answer armed pending]
              exact looked
          | false =>
              rw [l1Poll_owned answer armed pending]
              exact looked.trans (reports_l1Checks ..)

/-! ### Startup -/

theorem reports_armL2 (p : Frame σ) : Reports p p.armL2 := by
  unfold armL2 probeSafeRestore
  cases answer : (Smc.probeSafeRestore p.smc).1 with
  | ok restore =>
      simp only [answer]
      split <;> exact .called (e := ⟨.run, .probeSafeRestore (.ok restore), p.toCustody⟩)
        rfl rfl rfl rfl rfl (.inl rfl)
  | error e =>
      simp only [answer]
      split <;> exact .complained (e := ⟨.run, .probeSafeRestore (.error e), p.toCustody⟩)
        rfl rfl rfl rfl rfl

theorem reports_reconcileStaleState (inherited : Except SmcError FanMode) (p : Frame σ) :
    Reports p (p.reconcileStaleState inherited) := by
  unfold reconcileStaleState
  split
  · split
    · exact .refl p
    · exact .trans (.noteRecent (.refl p) _) (.of_eq rfl rfl rfl rfl)
  · exact .refl p
  · simp only [setMode]
    cases answer : (Smc.setMode .auto p.smc).1 with
    | ok mode =>
        refine .noteRecent ?_ _
        exact .called (e := ⟨.reconcile, .setMode .auto (.ok mode), p.toCustody⟩) rfl rfl rfl rfl
          rfl (.inl rfl)
    | error e =>
        exact .complained (e := ⟨.reconcile, .setMode .auto (.error e), p.toCustody⟩) rfl rfl rfl
          rfl rfl

theorem reports_startup (p : Frame σ) : Reports p p.startup := by
  have looked : Reports p ({ p with polls := 0 }.readFan .run).2 :=
    .called rfl rfl (readFan_log ..) rfl rfl (.inr (.inl rfl))
  exact looked.trans ((reports_armL2 _).trans (reports_reconcileStaleState _ _))

end Frame

/-! ### Polls -/

namespace Supervisor

variable {σ : Type} [Smc σ] [SerdeJson]

/-- The command that a poll takes, if it is fresh. -/
def taken (host : Host) (s : Supervisor σ) : Option String :=
  match s.freshCommand host, host.cmd with
  | some _, .content raw => some raw
  | _, _ => none

/-- The frame that has taken it. -/
def listening (host : Host) (s : Supervisor σ) : Frame σ :=
  { s.frame host with lastCmd := (s.taken host).or s.lastCmd }

/-- The command stage reports, from the frame that has taken the command. -/
theorem reports_commanded (host : Host) (s : Supervisor σ) :
    Frame.Reports (s.listening host) (s.commanded host) := by
  cases fresh : s.freshCommand host with
  | some requested =>
      obtain ⟨raw, cmd, eq⟩ := commanded_fresh fresh
      have took : (s.taken host).or s.lastCmd = some raw := by simp [taken, fresh, cmd]
      have ready : Frame.Reports (s.listening host)
          { (s.frame host).pingWatchdog with lastCmd := some raw } := .of_eq rfl took.symm rfl rfl
      rw [eq]
      exact ready.trans (Frame.reports_applyMode requested _)
  | none =>
      have kept : s.listening host = s.frame host := by simp [listening, taken, fresh, frame]
      rw [kept]
      unfold freshCommand at fresh
      unfold commanded Frame.applyCmdFile
      simp only [frame, Frame.pingWatchdog]
      cases cmd : host.cmd with
      | absent => exact .of_eq rfl rfl rfl rfl
      | unreadable e =>
          refine .noteRecent ?_ _
          exact .of_eq rfl rfl rfl rfl
      | content raw =>
          by_cases same : s.lastCmd = some raw
          · simp only [same, ↓reduceIte]
            exact .of_eq rfl same.symm rfl rfl
          · cases parsed : parseCmd raw with
            | error ignored =>
                simp only [same, parsed, ↓reduceIte]
                exact .of_eq rfl rfl rfl rfl
            | ok requested => simp [cmd, same, parsed, Except.toOption] at fresh

theorem reports_sensed (host : Host) (s : Supervisor σ) :
    Frame.Reports (s.commanded host) (s.sensed host).2 := by
  have retried : Frame.Reports (s.commanded host) (s.retried host) :=
    Frame.reports_autoRestoreRetry _
  cases answer : (Smc.readSensors (s.retried host).smc).1 with
  | ok readings =>
      rw [sensed_ok answer]
      exact retried.trans (.called rfl rfl (Frame.readSensors_log ..) rfl (by rw [answer]; rfl)
        (.inl (by rw [answer]; rfl)))
  | error e =>
      rw [sensed_error answer]
      exact retried.trans
        (.complained rfl rfl (Frame.readSensors_log ..) rfl (by rw [answer]; rfl))

/-- Every stage of a poll up to its end. -/
theorem reports_checked (host : Host) (s : Supervisor σ) :
    Frame.Reports (s.listening host) (s.checked host).1 :=
  (reports_commanded host s).trans ((reports_sensed host s).trans
    ((Frame.reports_act (s.decided host).1 _).trans (Frame.reports_l1Poll (s.acted host).2 _)))

/-- The last command after a poll is the one it takes, if it takes one. -/
theorem next_lastCmd (host : Host) (s : Supervisor σ) :
    (s.next host).lastCmd = (s.taken host).or s.lastCmd := by
  obtain ⟨pings, polls, errors, eq⟩ := next_eq host s
  rw [eq]
  exact (reports_checked host s).cmd

end Supervisor

end Afanctl
