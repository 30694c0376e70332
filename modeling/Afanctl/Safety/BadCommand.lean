import Afanctl.Bench
import Afanctl.Supervisor.Refinement

/-!
A bad command file changes nothing.

What is rejected, or was applied before, leaves a report note at most. Nothing a poll does
reads the notes, and only its command stage reads the file; so the poll goes on as it does
without one. `Alike` frames differ in these two at most, and every stage keeps them alike.
-/

namespace Afanctl

open Afanctl.Lib

namespace Frame

variable {σ : Type} {p q : Frame σ}

/-- The frame with other notes and another command file. -/
def recast (notes : List String) (cmd : CmdFile) (p : Frame σ) : Frame σ :=
  { p with notes := notes, host := { p.host with cmd := cmd } }

@[simp] theorem recast_toDaemon (notes : List String) (cmd : CmdFile) (p : Frame σ) :
    (p.recast notes cmd).toDaemon = p.toDaemon := rfl

/-- The frames differ in their notes and in the command file at most. -/
def Alike (p q : Frame σ) : Prop := ∃ notes cmd, q = p.recast notes cmd

/-- And so do the frames of two results that are else the same. -/
def AlikeOut {α : Type} (a b : Frame σ × α) : Prop :=
  ∃ notes cmd, b = (a.1.recast notes cmd, a.2)

namespace Alike

theorem out {α : Type} (alike : Alike p q) (a : α) : AlikeOut (p, a) (q, a) := by
  obtain ⟨notes, cmd, rfl⟩ := alike
  exact ⟨_, _, rfl⟩

theorem autoRestoreFailed (alike : Alike p q) : Alike p.autoRestoreFailed q.autoRestoreFailed := by
  obtain ⟨notes, cmd, rfl⟩ := alike
  unfold Frame.autoRestoreFailed
  by_cases due : p.autoRetryLogPolls = 0
  · simp only [recast_toDaemon, due, ↓reduceIte]
    exact ⟨_, _, rfl⟩
  · simp only [recast_toDaemon, due, ↓reduceIte]
    exact ⟨_, _, rfl⟩

theorem l1Dwell (alike : Alike p q) : Alike p.l1Dwell q.l1Dwell := by
  obtain ⟨notes, cmd, rfl⟩ := alike
  unfold Frame.l1Dwell
  by_cases due : min (p.offTargetPolls + 1) u32Max % offTargetWarnPolls = 0
  · simp only [recast_toDaemon, due, ↓reduceIte]
    exact ⟨_, _, rfl⟩
  · simp only [recast_toDaemon, due, ↓reduceIte]
    exact ⟨_, _, rfl⟩

theorem l1Verdict (alike : Alike p q) (failed : Bool) :
    AlikeOut (p.l1Verdict failed) (q.l1Verdict failed) := by
  obtain ⟨notes, cmd, rfl⟩ := alike
  unfold Frame.l1Verdict
  split
  · exact ⟨_, _, rfl⟩
  · by_cases live : p.lastWritten.isSome = true
    · simp only [recast_toDaemon, live, ↓reduceIte]
      exact ⟨_, _, rfl⟩
    · simp only [recast_toDaemon, live]
      exact ⟨_, _, rfl⟩

variable [Smc σ]

/-! ### The write paths -/

theorem degradeToAuto (alike : Alike p q) : Alike p.degradeToAuto q.degradeToAuto := by
  obtain ⟨notes, cmd, rfl⟩ := alike
  unfold Frame.degradeToAuto Frame.setMode
  simp only [recast_toDaemon]
  cases (Smc.setMode .auto p.smc).1 <;> exact ⟨_, _, rfl⟩

theorem failWrite (alike : Alike p q) (msg : String) :
    Alike (p.failWrite msg) (q.failWrite msg) := by
  obtain ⟨notes, cmd, rfl⟩ := alike
  show Alike (if writeFailFallback ≤ p.writeFailures + 1 then _ else _)
    (if writeFailFallback ≤ p.writeFailures + 1 then _ else _)
  by_cases third : writeFailFallback ≤ p.writeFailures + 1
  · rw [if_pos third, if_pos third]
    exact degradeToAuto ⟨_, _, rfl⟩
  · rw [if_neg third, if_neg third]
    exact ⟨_, _, rfl⟩

theorem enterManual (alike : Alike p q) : AlikeOut p.enterManual q.enterManual := by
  obtain ⟨notes, cmd, rfl⟩ := alike
  unfold Frame.enterManual Frame.setMode
  simp only [recast_toDaemon]
  cases (Smc.setMode .manual p.smc).1 with
  | ok mode => exact ⟨_, _, rfl⟩
  | error e => exact (failWrite ⟨_, _, rfl⟩ _).out false

theorem writeOwned (alike : Alike p q) (rpm : Nat) :
    AlikeOut (p.writeOwned rpm) (q.writeOwned rpm) := by
  obtain ⟨notes, cmd, rfl⟩ := alike
  by_cases same : p.lastWritten = some (clamp p.hwMin p.hwMax rpm)
  · rw [writeOwned_same same, writeOwned_same (p := p.recast notes cmd) same]
    exact ⟨_, _, rfl⟩
  · cases answer : (Smc.writeSpeed (clamp p.hwMin p.hwMax rpm) p.smc).1 with
    | ok verified =>
        rw [writeOwned_ok same answer, writeOwned_ok (p := p.recast notes cmd) same answer]
        exact ⟨_, _, rfl⟩
    | error e =>
        rw [writeOwned_error same answer, writeOwned_error (p := p.recast notes cmd) same answer]
        exact (failWrite ⟨_, _, rfl⟩ _).out none

theorem writeControlled (alike : Alike p q) (rpm : Nat) :
    AlikeOut (p.writeControlled rpm) (q.writeControlled rpm) := by
  have owned := alike.writeOwned rpm
  obtain ⟨taken, cmd', entered⟩ := alike.enterManual
  obtain ⟨notes, cmd, rfl⟩ := alike
  unfold Frame.writeControlled
  simp only [recast_toDaemon, entered]
  split
  · exact owned
  · rcases p.enterManual with ⟨r, _ | _⟩
    · exact ⟨_, _, rfl⟩
    · exact writeOwned ⟨_, _, rfl⟩ rpm

theorem act (alike : Alike p q) (decision : Decision) :
    AlikeOut (p.act decision) (q.act decision) := by
  have controlled := alike.writeControlled
  obtain ⟨notes, cmd, rfl⟩ := alike
  cases control : p.monitorOnly with
  | true =>
      rw [act_latched decision control, act_latched (p := p.recast notes cmd) decision control]
      exact ⟨_, _, rfl⟩
  | false =>
      cases decision with
      | observe =>
          rw [act_observe, act_observe]
          exact ⟨_, _, rfl⟩
      | setSpeed rpm =>
          rw [act_setSpeed rpm control, act_setSpeed (p := p.recast notes cmd) rpm control]
          exact controlled rpm
      | escalateMax =>
          rw [act_escalateMax control, act_escalateMax (p := p.recast notes cmd) control]
          exact controlled p.cfgMaxRpm
      | returnToAuto =>
          cases armed : p.manualArmed with
          | false =>
              rw [act_returnToAuto_free armed,
                act_returnToAuto_free (p := p.recast notes cmd) armed]
              exact ⟨_, _, rfl⟩
          | true =>
              cases answer : (Smc.setMode .auto p.smc).1 with
              | ok mode =>
                  rw [act_returnToAuto_ok control armed answer,
                    act_returnToAuto_ok (p := p.recast notes cmd) control armed answer]
                  exact ⟨_, _, rfl⟩
              | error e =>
                  rw [act_returnToAuto_error control armed answer,
                    act_returnToAuto_error (p := p.recast notes cmd) control armed answer]
                  exact (failWrite ⟨_, _, rfl⟩ _).out none

theorem autoRestoreRetry (alike : Alike p q) : Alike p.autoRestoreRetry q.autoRestoreRetry := by
  obtain ⟨notes, cmd, rfl⟩ := alike
  cases pending : p.autoRestorePending with
  | false =>
      rw [autoRestoreRetry_idle pending, autoRestoreRetry_idle (p := p.recast notes cmd) pending]
      exact ⟨_, _, rfl⟩
  | true =>
      by_cases seen : ∃ rpm, (Smc.readFan p.smc).1 = .ok ⟨rpm, .auto⟩
      · obtain ⟨rpm, answer⟩ := seen
        rw [autoRestoreRetry_seen pending answer,
          autoRestoreRetry_seen (p := p.recast notes cmd) pending answer]
        exact ⟨_, _, rfl⟩
      · have unseen : ∀ rpm, (Smc.readFan p.smc).1 ≠ .ok ⟨rpm, .auto⟩ :=
          fun rpm answer => seen ⟨rpm, answer⟩
        cases answer : (Smc.setMode .auto (Smc.readFan p.smc).2).1 with
        | ok mode =>
            rw [autoRestoreRetry_restored pending unseen answer,
              autoRestoreRetry_restored (p := p.recast notes cmd) pending unseen answer]
            exact ⟨_, _, rfl⟩
        | error e =>
            rw [autoRestoreRetry_failed pending unseen answer,
              autoRestoreRetry_failed (p := p.recast notes cmd) pending unseen answer]
            exact autoRestoreFailed ⟨_, _, rfl⟩

/-! ### L1 -/

theorem l1ModeDrift (alike : Alike p q) (fan : FanState) :
    AlikeOut (p.l1ModeDrift fan) (q.l1ModeDrift fan) := by
  obtain ⟨taken, cmd', entered⟩ := alike.enterManual
  obtain ⟨notes, cmd, rfl⟩ := alike
  unfold Frame.l1ModeDrift
  split
  · exact ⟨_, _, rfl⟩
  · rw [entered]
    rcases p.enterManual with ⟨r, _ | _⟩ <;> exact ⟨_, _, rfl⟩

theorem l1Tracking (alike : Alike p q) (dev written : Nat) (applied : Option Nat) (failed : Bool) :
    AlikeOut (p.l1Tracking dev written applied failed)
      (q.l1Tracking dev written applied failed) := by
  obtain ⟨notes, cmd, rfl⟩ := alike
  by_cases off : p.Reasserts dev applied
  · cases answer : (Smc.writeSpeed written p.smc).1 with
    | ok verified =>
        rw [l1Tracking_ok off answer, l1Tracking_ok (p := p.recast notes cmd) off answer]
        exact ⟨_, _, rfl⟩
    | error e =>
        rw [l1Tracking_error off answer, l1Tracking_error (p := p.recast notes cmd) off answer]
        exact (failWrite ⟨_, _, rfl⟩ _).out true
  · rw [l1Tracking_skip off, l1Tracking_skip (p := p.recast notes cmd) off]
    exact ⟨_, _, rfl⟩

theorem l1Stall (alike : Alike p q) (dev rpm : Nat) (prevActual : Option Nat) :
    AlikeOut (p.l1Stall dev rpm prevActual) (q.l1Stall dev rpm prevActual) := by
  obtain ⟨dwelt, cmd', eq⟩ := alike.l1Dwell
  obtain ⟨notes, cmd, rfl⟩ := alike
  unfold Frame.l1Stall
  simp only [eq, recast_toDaemon]
  split
  · split
    · exact ⟨_, _, rfl⟩
    · split
      · exact (degradeToAuto ⟨_, _, rfl⟩).out true
      · exact ⟨_, _, rfl⟩
  · exact ⟨_, _, rfl⟩

theorem l1Window (alike : Alike p q) (dev rpm : Nat) (prevActual : Option Nat) (failed : Bool) :
    AlikeOut (p.l1Window dev rpm prevActual failed) (q.l1Window dev rpm prevActual failed) := by
  obtain ⟨stalled, cmd, eq⟩ := alike.l1Stall dev rpm prevActual
  unfold Frame.l1Window
  rw [eq]
  rcases p.l1Stall dev rpm prevActual with ⟨r, _ | _⟩
  · exact l1Verdict ⟨_, _, rfl⟩ failed
  · exact ⟨_, _, rfl⟩

theorem l1Target (alike : Alike p q) (fan : FanState) (prevActual applied : Option Nat)
    (failed : Bool) :
    AlikeOut (p.l1Target fan prevActual applied failed)
      (q.l1Target fan prevActual applied failed) := by
  have tracked := fun dev written => alike.l1Tracking dev written applied failed
  have judged := alike.l1Verdict failed
  obtain ⟨notes, cmd, rfl⟩ := alike
  unfold Frame.l1Target
  simp only [recast_toDaemon]
  cases p.lastWritten with
  | none => exact judged
  | some written =>
      obtain ⟨noted, cmd', eq⟩ := tracked (absDiff fan.rpm written) written
      simp only [eq]
      exact l1Window ⟨_, _, rfl⟩ ..

theorem l1Checks (alike : Alike p q) (fan : FanState) (prevActual applied : Option Nat) :
    AlikeOut (p.l1Checks fan prevActual applied) (q.l1Checks fan prevActual applied) := by
  obtain ⟨noted, cmd, eq⟩ := alike.l1ModeDrift fan
  simp only [Frame.l1Checks, eq]
  exact l1Target ⟨_, _, rfl⟩ ..

theorem l1Poll (alike : Alike p q) (applied : Option Nat) :
    AlikeOut (p.l1Poll applied) (q.l1Poll applied) := by
  obtain ⟨notes, cmd, rfl⟩ := alike
  cases answer : (Smc.readFan p.smc).1 with
  | error e =>
      rw [l1Poll_error answer, l1Poll_error (p := p.recast notes cmd) answer]
      exact (failWrite ⟨_, _, rfl⟩ _).out false
  | ok fan =>
      cases armed : p.manualArmed with
      | false =>
          rw [l1Poll_free answer armed, l1Poll_free (p := p.recast notes cmd) answer armed]
          exact ⟨_, _, rfl⟩
      | true =>
          cases pending : p.autoRestorePending with
          | true =>
              rw [l1Poll_releasing answer armed pending,
                l1Poll_releasing (p := p.recast notes cmd) answer armed pending]
              exact ⟨_, _, rfl⟩
          | false =>
              rw [l1Poll_owned answer armed pending,
                l1Poll_owned (p := p.recast notes cmd) answer armed pending]
              exact l1Checks ⟨_, _, rfl⟩ ..

end Alike

end Frame

/-! ### The command stage -/

section Parse

variable [SerdeJson]

/-- What a command document is: the schema, and a mode with the rpm it needs. -/
inductive CommandDoc (doc : Value) : RunMode → Prop where
  | observe : doc.get "schema" = some (.string cmdSchema) →
      doc.get "mode" = some (.string "observe") → CommandDoc doc .observe
  | curve : doc.get "schema" = some (.string cmdSchema) →
      doc.get "mode" = some (.string "curve") → CommandDoc doc .curve
  | hold {rpm : Nat} : doc.get "schema" = some (.string cmdSchema) →
      doc.get "mode" = some (.string "hold") →
      doc.get "rpm" = some (.number (.posInt rpm)) → rpm ≤ u32Max → CommandDoc doc (.hold rpm)

omit [SerdeJson] in
theorem get_str_iff {doc : Value} {key text : String} :
    (doc.get key).bind Value.asStr = some text ↔ doc.get key = some (.string text) := by
  cases doc.get key with
  | none => simp
  | some value => cases value <;> simp [Value.asStr]

omit [SerdeJson] in
theorem get_u64_iff {doc : Value} {key : String} {n : Nat} :
    (doc.get key).bind Value.asU64 = some n ↔ doc.get key = some (.number (.posInt n)) := by
  cases doc.get key with
  | none => simp
  | some value =>
      cases value with
      | number number => cases number <;> simp [Value.asU64]
      | _ => simp [Value.asU64]

/-- A command is accepted exactly if it is a command document. -/
theorem parseCmd_ok_iff {raw : String} {requested : RunMode} :
    parseCmd raw = .ok requested ↔
      ∃ doc, SerdeJson.fromStr raw = .ok doc ∧ CommandDoc doc requested := by
  unfold parseCmd
  cases SerdeJson.fromStr raw with
  | error e => simp
  | ok doc =>
      simp only [Except.ok.injEq, exists_eq_left']
      constructor
      · intro parsed
        split at parsed
        · cases parsed
        next schema =>
        have schema := get_str_iff.mp (Decidable.of_not_not schema)
        split at parsed
        · next mode => cases parsed; exact .observe schema (get_str_iff.mp mode)
        · next mode => cases parsed; exact .curve schema (get_str_iff.mp mode)
        · next mode =>
            split at parsed
            · next rpm seen =>
                split at parsed
                · next fits =>
                    cases parsed
                    exact .hold schema (get_str_iff.mp mode) (get_u64_iff.mp seen) fits
                · cases parsed
            · cases parsed
        · cases parsed
        · cases parsed
      · intro document
        cases document with
        | observe schema mode => simp [get_str_iff.mpr schema, get_str_iff.mpr mode]
        | curve schema mode => simp [get_str_iff.mpr schema, get_str_iff.mpr mode]
        | hold schema mode seen fits =>
            simp [get_str_iff.mpr schema, get_str_iff.mpr mode, get_u64_iff.mpr seen, fits]

end Parse

namespace Supervisor

section Polls

variable {σ : Type} [Smc σ] [SerdeJson] {host host' : Host} {s : Supervisor σ}

/-- The same host, but for its command file. -/
def withCmd (cmd : CmdFile) (host : Host) : Host := { host with cmd := cmd }

/-- A command file that is not applied leaves a note at most. -/
theorem commanded_alike {raw : String} (bad : s.lastCmd = some raw ∨ ∀ m, parseCmd raw ≠ .ok m) :
    Frame.Alike (s.commanded (withCmd .absent host))
      (s.commanded (withCmd (.content raw) host)) := by
  unfold commanded Frame.applyCmdFile
  simp only [frame, Frame.pingWatchdog, withCmd]
  by_cases again : s.lastCmd = some raw
  · simp only [again, ↓reduceIte]
    exact ⟨_, _, rfl⟩
  · cases parsed : parseCmd raw with
    | ok requested => exact absurd parsed (bad.resolve_left again requested)
    | error ignored =>
        simp only [again, ↓reduceIte]
        exact ⟨_, _, rfl⟩

variable (alike : Frame.Alike (s.commanded host) (s.commanded host'))
include alike

theorem sensed_alike :
    (s.sensed host').1 = (s.sensed host).1 ∧
      Frame.Alike (s.sensed host).2 (s.sensed host').2 := by
  obtain ⟨notes, cmd, eq⟩ : Frame.Alike (s.retried host) (s.retried host') :=
    alike.autoRestoreRetry
  unfold sensed Frame.readSensors
  rw [eq]
  simp only [Frame.recast_toDaemon]
  cases (Smc.readSensors (s.retried host).smc).1 with
  | ok readings => exact ⟨rfl, _, _, rfl⟩
  | error e => exact ⟨rfl, _, _, rfl⟩

theorem decided_alike : s.decided host' = s.decided host := by
  obtain ⟨readings, notes, cmd, eq⟩ := sensed_alike alike
  unfold decided
  rw [readings, eq, Frame.recast_toDaemon]

theorem checked_alike :
    Frame.AlikeOut (s.checked host) (s.checked host') ∧ (s.acted host').2 = (s.acted host).2 := by
  have acted : Frame.AlikeOut (s.acted host) (s.acted host') := by
    unfold acted
    rw [decided_alike alike]
    exact (sensed_alike alike).2.act _
  obtain ⟨notes, cmd, eq⟩ := acted
  unfold checked
  rw [eq]
  exact ⟨Frame.Alike.l1Poll ⟨_, _, rfl⟩ _, rfl⟩

/-- Polls that come alike out of the command stage differ in their reports' notes at most. -/
theorem stepOnce_alike :
    (s.stepOnce host').sup = (s.stepOnce host).sup ∧
      (s.stepOnce host').state = (s.stepOnce host).state ∧
      (s.stepOnce host').log = (s.stepOnce host).log ∧
      ∃ notes, (s.stepOnce host').report = { (s.stepOnce host).report with notes := notes } := by
  obtain ⟨⟨notes, cmd, eq⟩, applied⟩ := checked_alike alike
  unfold stepOnce
  rw [decided_alike alike, applied, eq]
  rcases s.checked host with ⟨p, l1Ok⟩
  simp only [Frame.publishState, Frame.recast]
  cases p.host.publishError <;> exact ⟨rfl, rfl, rfl, _, rfl⟩

end Polls

/-- A command file is accepted exactly if it is a command document. Over every backend, in
every state and for every host: with a file that is not accepted, or was applied last, a poll
makes the calls, publishes the state and ends in the supervisor it would with no file, and
its report differs in the notes at most. -/
theorem bad_command {σ : Type} [Smc σ] [SerdeJson] (raw : String) :
    (∀ m, parseCmd raw = .ok m ↔ ∃ doc, SerdeJson.fromStr raw = .ok doc ∧ CommandDoc doc m) ∧
      ∀ (s : Supervisor σ) (host : Host),
        (s.lastCmd = some raw ∨ ∀ m, parseCmd raw ≠ .ok m) →
          let bad := s.stepOnce (withCmd (.content raw) host)
          let none := s.stepOnce (withCmd .absent host)
          bad.log = none.log ∧ bad.state = none.state ∧ bad.sup = none.sup ∧
            ∃ notes, bad.report = { none.report with notes := notes } := by
  refine ⟨fun m => parseCmd_ok_iff, fun s host bad => ?_⟩
  have alike : Frame.Alike (s.commanded (withCmd .absent host))
      (s.commanded (withCmd (.content raw) host)) := commanded_alike bad
  obtain ⟨sup, state, log, report⟩ := stepOnce_alike alike
  exact ⟨log, state, sup, report⟩

section Garbage

attribute [local instance] Bench.json

theorem bad_command_garbage :
    ((Bench.daemon Bench.healthy .curve).stepOnce (Bench.commanding "nonsense")).state
      = ((Bench.daemon Bench.healthy .curve).stepOnce Bench.quiet).state := by
  have rejected : ∀ m, parseCmd "nonsense" ≠ .ok m := by
    have failed : (parseCmd "nonsense").toOption = none := by decide
    intro m parsed
    rw [parsed] at failed
    cases failed
  have same := (bad_command "nonsense").2 (Bench.daemon Bench.healthy .curve) Bench.quiet
    (.inr rejected)
  exact same.2.1

end Garbage

end Supervisor

end Afanctl
