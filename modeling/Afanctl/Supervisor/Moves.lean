import Afanctl.Custody
import Afanctl.Supervisor.Poll

/-!
Each function of the poll, as moves of the custody automaton.

`p.Moves q` says that the calls between the frames `p` and `q` are the events of
moves leading from the one custody to the other. The write paths have their
custody and calls written out as equations; the stages then follow by composing
them. `moves_checked` is the whole of a poll after its command stage.
-/

namespace Afanctl

open Afanctl.Lib

namespace Frame

variable {σ : Type}

/-! ### Bookkeeping leaves custody and log alone -/

@[simp] theorem note_toCustody (msg : String) (p : Frame σ) :
    (p.note msg).toCustody = p.toCustody := rfl

@[simp] theorem note_log (msg : String) (p : Frame σ) : (p.note msg).log = p.log := rfl

@[simp] theorem noteRecent_toCustody (msg : String) (p : Frame σ) :
    (p.noteRecent msg).toCustody = p.toCustody := rfl

@[simp] theorem noteRecent_log (msg : String) (p : Frame σ) : (p.noteRecent msg).log = p.log := rfl

@[simp] theorem autoRestored_toCustody (p : Frame σ) :
    p.autoRestored.toCustody = p.toCustody.released := rfl

@[simp] theorem autoRestored_log (p : Frame σ) : p.autoRestored.log = p.log := rfl

@[simp] theorem autoRestored_smc (p : Frame σ) : p.autoRestored.smc = p.smc := rfl

@[simp] theorem autoRestoreFailed_toCustody (p : Frame σ) :
    p.autoRestoreFailed.toCustody = p.toCustody := by
  unfold autoRestoreFailed
  split <;> rfl

@[simp] theorem autoRestoreFailed_log (p : Frame σ) : p.autoRestoreFailed.log = p.log := by
  unfold autoRestoreFailed
  split <;> rfl

@[simp] theorem autoRestoreFailed_smc (p : Frame σ) : p.autoRestoreFailed.smc = p.smc := by
  unfold autoRestoreFailed
  split <;> rfl

/-- The frame of a release attempt, counted. -/
def attempting (p : Frame σ) : Frame σ :=
  { p with autoRestoreAttempts := min (p.autoRestoreAttempts + 1) u32Max }

@[simp] theorem attempting_toCustody (p : Frame σ) : p.attempting.toCustody = p.toCustody := rfl

@[simp] theorem attempting_log (p : Frame σ) : p.attempting.log = p.log := rfl

@[simp] theorem attempting_smc (p : Frame σ) : p.attempting.smc = p.smc := rfl

/-! ### What a call leaves -/

section Calls

variable [Smc σ] (site : Site) (p : Frame σ)

@[simp] theorem readSensors_toCustody : (p.readSensors site).2.toCustody = p.toCustody := rfl

@[simp] theorem readSensors_log :
    (p.readSensors site).2.log
      = p.log ++ [⟨site, .readSensors (Smc.readSensors p.smc).1, p.toCustody⟩] := rfl

@[simp] theorem readFan_toCustody : (p.readFan site).2.toCustody = p.toCustody := rfl

@[simp] theorem readFan_smc : (p.readFan site).2.smc = (Smc.readFan p.smc).2 := rfl

@[simp] theorem readFan_log :
    (p.readFan site).2.log = p.log ++ [⟨site, .readFan (Smc.readFan p.smc).1, p.toCustody⟩] := rfl

@[simp] theorem setMode_toCustody (mode : FanMode) :
    (p.setMode site mode).2.toCustody = p.toCustody := rfl

@[simp] theorem setMode_log (mode : FanMode) :
    (p.setMode site mode).2.log
      = p.log ++ [⟨site, .setMode mode (Smc.setMode mode p.smc).1, p.toCustody⟩] := rfl

@[simp] theorem writeSpeed_log (rpm : Nat) :
    (p.writeSpeed site rpm).2.log
      = p.log ++ [⟨site, .writeSpeed rpm (Smc.writeSpeed rpm p.smc).1, p.toCustody⟩] := rfl

end Calls

/-! ### The calls between two frames -/

/-- The calls from `p` to `q` are all `P`. -/
def Emits (P : Event → Prop) (p q : Frame σ) : Prop :=
  ∃ es, q.log = p.log ++ es ∧ ∀ e ∈ es, P e

namespace Emits

variable {P : Event → Prop} {p q r : Frame σ}

theorem of_log (log : q.log = p.log) : Emits P p q := ⟨[], by simpa using log, by simp⟩

theorem of_event {e : Event} (log : q.log = p.log ++ [e]) (meets : P e) : Emits P p q :=
  ⟨[e], log, by simpa using meets⟩

theorem trans (first : Emits P p q) (second : Emits P q r) : Emits P p r := by
  obtain ⟨es, log, all⟩ := first
  obtain ⟨es', log', all'⟩ := second
  refine ⟨es ++ es', by rw [log', log, List.append_assoc], fun e mem => ?_⟩
  exact (List.mem_append.mp mem).elim (all e) (all' e)

theorem mono {Q : Event → Prop} (emits : Emits P p q) (sub : ∀ e, P e → Q e) : Emits Q p q := by
  obtain ⟨es, log, all⟩ := emits
  exact ⟨es, log, fun e mem => sub e (all e mem)⟩

theorem log_subset (emits : Emits P p q) : p.log ⊆ q.log := by
  obtain ⟨es, log, -⟩ := emits
  rw [log]
  exact List.subset_append_left p.log es

end Emits

/-! ### Chains of moves -/

/-- The calls from `p` to `q` are those of a chain of custody moves. -/
def Moves (p q : Frame σ) : Prop :=
  ∃ es, q.log = p.log ++ es ∧ Steps Custody.Move p.toCustody es q.toCustody

namespace Moves

theorem of_eq {p q : Frame σ} (custody : q.toCustody = p.toCustody) (log : q.log = p.log) :
    p.Moves q :=
  ⟨[], by simpa using log, custody ▸ .refl _⟩

theorem refl (p : Frame σ) : p.Moves p := of_eq rfl rfl

theorem of_move {p q : Frame σ} {es : List Event} (log : q.log = p.log ++ es)
    (move : Custody.Move p.toCustody es q.toCustody) : p.Moves q :=
  ⟨es, log, .single move⟩

theorem trans {p q r : Frame σ} (first : p.Moves q) (second : q.Moves r) : p.Moves r := by
  obtain ⟨es, log, steps⟩ := first
  obtain ⟨es', log', steps'⟩ := second
  exact ⟨es ++ es', by rw [log', log, List.append_assoc], steps.trans steps'⟩

theorem log_subset {p q : Frame σ} (moves : p.Moves q) : p.log ⊆ q.log := by
  obtain ⟨es, log, -⟩ := moves
  rw [log]
  exact List.subset_append_left p.log es

theorem sound {p q : Frame σ} (moves : p.Moves q) (start : p.Sound) : q.Sound := by
  obtain ⟨es, -, steps⟩ := moves
  exact steps.invariant Custody.Sound.move start

theorem mode_eq {p q : Frame σ} (moves : p.Moves q) :
    q.mode = p.mode ∧ q.l2Absent = p.l2Absent := by
  obtain ⟨es, -, steps⟩ := moves
  exact steps.invariant (I := fun c => c.mode = p.mode ∧ c.l2Absent = p.l2Absent)
    (fun move kept => ⟨move.mode_eq.1.trans kept.1, move.mode_eq.2.trans kept.2⟩) ⟨rfl, rfl⟩

end Moves

variable [Smc σ]

/-! ### Counted failures and the fallback -/

theorem degradeToAuto_toCustody (p : Frame σ) :
    p.degradeToAuto.toCustody = p.toCustody.degraded (Smc.setMode .auto p.smc).1 := by
  unfold degradeToAuto setMode
  cases answer : (Smc.setMode .auto p.smc).1 <;> simp [answer, Custody.degraded] <;> rfl

theorem degradeToAuto_log (p : Frame σ) :
    p.degradeToAuto.log = p.log ++ [p.toCustody.degradeEvent (Smc.setMode .auto p.smc).1] := by
  unfold degradeToAuto setMode
  cases answer : (Smc.setMode .auto p.smc).1 <;> simp [answer, Custody.degradeEvent] <;> rfl

theorem failWrite_toCustody (msg : String) (p : Frame σ) :
    (p.failWrite msg).toCustody = p.toCustody.struck (Smc.setMode .auto p.smc).1 := by
  unfold failWrite Custody.struck
  by_cases third : writeFailFallback ≤ p.writeFailures + 1
  · simp only [note_toCustody, noteRecent_toCustody, third, ↓reduceIte, degradeToAuto_toCustody]
    rfl
  · simp only [note_toCustody, noteRecent_toCustody, third, ↓reduceIte]

theorem failWrite_log (msg : String) (p : Frame σ) :
    (p.failWrite msg).log = p.log ++ p.toCustody.struckLog (Smc.setMode .auto p.smc).1 := by
  unfold failWrite Custody.struckLog
  by_cases third : writeFailFallback ≤ p.writeFailures + 1
  · simp only [note_toCustody, noteRecent_toCustody, third, ↓reduceIte, degradeToAuto_log]
    rfl
  · simp [third]

/-- Short of the third, a strike is counted and noted. -/
theorem failWrite_short {p : Frame σ} (msg : String)
    (below : p.writeFailures + 1 < writeFailFallback) :
    ∃ ticks errors notes, p.failWrite msg
      = { p with
          writeFailures := p.writeFailures + 1, ticks := ticks, recentErrors := errors,
          notes := notes } := by
  have open' : ¬ writeFailFallback ≤ p.writeFailures + 1 := Nat.not_le.mpr below
  simp only [failWrite, note, noteRecent, open', ↓reduceIte]
  exact ⟨_, _, _, rfl⟩

theorem failWrite_below {p : Frame σ} (msg : String)
    (below : p.writeFailures + 1 < writeFailFallback) :
    (p.failWrite msg).toCustody = { p.toCustody with writeFailures := p.writeFailures + 1 } ∧
      (p.failWrite msg).log = p.log ∧ (p.failWrite msg).smc = p.smc := by
  obtain ⟨ticks, errors, notes, eq⟩ := failWrite_short msg below
  rw [eq]
  exact ⟨rfl, rfl, rfl⟩

/-- A failing call and the strike it is are one move. -/
theorem Moves.of_strike {p q : Frame σ} {e : Event} (msg : String)
    (custody : q.toCustody = p.toCustody) (log : q.log = p.log ++ [e])
    (move : ∀ answer,
      Custody.Move p.toCustody (e :: p.toCustody.struckLog answer) (p.toCustody.struck answer)) :
    p.Moves (q.failWrite msg) := by
  refine ⟨e :: p.toCustody.struckLog (Smc.setMode .auto q.smc).1, ?_, .single ?_⟩
  · rw [failWrite_log, log, custody, List.append_assoc]
    rfl
  · rw [failWrite_toCustody, custody]
    exact move _

theorem moves_degradeToAuto (p : Frame σ) : p.Moves p.degradeToAuto :=
  .of_move (degradeToAuto_log p) (degradeToAuto_toCustody p ▸ .degrade _)

/-! ### The write paths, by the backend's answer -/

section Writes

variable {p : Frame σ}

theorem enterManual_ok {mode : FanMode} (answer : (Smc.setMode .manual p.smc).1 = .ok mode) :
    p.enterManual = ({ (p.setMode .enterManual .manual).2 with manualArmed := true }, true) := by
  simp [enterManual, setMode, answer]

theorem enterManual_error {e : SmcError} (answer : (Smc.setMode .manual p.smc).1 = .error e) :
    p.enterManual
      = ((p.setMode .enterManual .manual).2.failWrite s!"set Manual write error: {e}", false) := by
  simp [enterManual, setMode, answer]

/-- Taking over needs the authority to drive. -/
theorem moves_enterManual (driving : p.Driving) (proven : p.l2Absent = false) :
    p.Moves p.enterManual.1 := by
  cases answer : (Smc.setMode .manual p.smc).1 with
  | ok mode =>
      rw [enterManual_ok answer]
      exact .of_move (setMode_log ..) (answer ▸ .takeover .enterManual mode driving proven)
  | error e =>
      rw [enterManual_error answer]
      refine .of_strike _ rfl (setMode_log ..) fun fallback => ?_
      rw [answer]
      exact .takeoverFailed .enterManual e fallback driving proven

theorem writeOwned_same {rpm : Nat} (same : p.lastWritten = some (clamp p.hwMin p.hwMax rpm)) :
    p.writeOwned rpm = (p, none) := by
  simp [writeOwned, same]

theorem writeOwned_ok {rpm verified : Nat}
    (fresh : p.lastWritten ≠ some (clamp p.hwMin p.hwMax rpm))
    (answer : (Smc.writeSpeed (clamp p.hwMin p.hwMax rpm) p.smc).1 = .ok verified) :
    p.writeOwned rpm
      = ({ (p.writeSpeed .writeControlled (clamp p.hwMin p.hwMax rpm)).2 with
          lastWritten := some verified }, some verified) := by
  simp [writeOwned, fresh, writeSpeed, answer]

theorem writeOwned_error {rpm : Nat} {e : SmcError}
    (fresh : p.lastWritten ≠ some (clamp p.hwMin p.hwMax rpm))
    (answer : (Smc.writeSpeed (clamp p.hwMin p.hwMax rpm) p.smc).1 = .error e) :
    p.writeOwned rpm
      = ((p.writeSpeed .writeControlled (clamp p.hwMin p.hwMax rpm)).2.failWrite
          s!"rpm target {clamp p.hwMin p.hwMax rpm}: {e}", none) := by
  simp [writeOwned, fresh, writeSpeed, answer]

theorem moves_writeOwned (rpm : Nat) (driving : p.Driving) (proven : p.l2Absent = false)
    (armed : p.manualArmed = true) : p.Moves (p.writeOwned rpm).1 := by
  by_cases same : p.lastWritten = some (clamp p.hwMin p.hwMax rpm)
  · rw [writeOwned_same same]
    exact .refl p
  · cases answer : (Smc.writeSpeed (clamp p.hwMin p.hwMax rpm) p.smc).1 with
    | ok verified =>
        rw [writeOwned_ok same answer]
        exact .of_move (writeSpeed_log ..)
          (answer ▸ .write .writeControlled _ verified driving proven armed)
    | error e =>
        rw [writeOwned_error same answer]
        refine .of_strike _ rfl (writeSpeed_log ..) fun fallback => ?_
        rw [answer]
        exact .writeFailed .writeControlled _ e fallback driving proven

theorem writeControlled_armed (rpm : Nat) (armed : p.manualArmed = true) :
    p.writeControlled rpm = p.writeOwned rpm := by
  simp [writeControlled, armed]

theorem writeControlled_taken {rpm : Nat} {mode : FanMode} (free : p.manualArmed = false)
    (answer : (Smc.setMode .manual p.smc).1 = .ok mode) :
    p.writeControlled rpm
      = { (p.setMode .enterManual .manual).2 with manualArmed := true }.writeOwned rpm := by
  simp [writeControlled, free, enterManual_ok answer]

theorem writeControlled_refused {rpm : Nat} {e : SmcError} (free : p.manualArmed = false)
    (answer : (Smc.setMode .manual p.smc).1 = .error e) :
    p.writeControlled rpm
      = ((p.setMode .enterManual .manual).2.failWrite s!"set Manual write error: {e}", none) := by
  simp [writeControlled, free, enterManual_error answer]

theorem moves_writeControlled (rpm : Nat) (driving : p.Driving) (proven : p.l2Absent = false) :
    p.Moves (p.writeControlled rpm).1 := by
  cases armed : p.manualArmed with
  | true =>
      rw [writeControlled_armed rpm armed]
      exact moves_writeOwned rpm driving proven armed
  | false =>
      have entered := moves_enterManual driving proven
      cases answer : (Smc.setMode .manual p.smc).1 with
      | ok mode =>
          rw [writeControlled_taken armed answer]
          rw [enterManual_ok answer] at entered
          exact entered.trans (moves_writeOwned rpm driving proven rfl)
      | error e =>
          rw [writeControlled_refused armed answer]
          rw [enterManual_error answer] at entered
          exact entered

end Writes

/-! ### The stages of a poll -/

section Stages

variable {p : Frame σ}

theorem act_latched (decision : Decision) (latched : p.monitorOnly = true) :
    p.act decision = (p, none) := by
  simp [act, latched]

theorem act_observe : p.act .observe = (p, none) := by
  simp [act]

theorem act_returnToAuto_ok {mode : FanMode} (control : p.monitorOnly = false)
    (armed : p.manualArmed = true) (answer : (Smc.setMode .auto p.smc).1 = .ok mode) :
    p.act .returnToAuto
      = ({ (p.setMode .act .auto).2 with manualArmed := false, lastWritten := none }.note
          "fan returned to AUTO (sensor loss)", none) := by
  simp [act, control, armed, setMode, answer]

theorem act_returnToAuto_error {e : SmcError} (control : p.monitorOnly = false)
    (armed : p.manualArmed = true) (answer : (Smc.setMode .auto p.smc).1 = .error e) :
    p.act .returnToAuto
      = ((p.setMode .act .auto).2.failWrite s!"ReturnToAuto: set AUTO error: {e}", none) := by
  simp [act, control, armed, setMode, answer]

theorem act_returnToAuto_free (free : p.manualArmed = false) :
    p.act .returnToAuto = (p, none) := by
  simp [act, free]

theorem act_setSpeed (rpm : Nat) (control : p.monitorOnly = false) :
    p.act (.setSpeed rpm) = p.writeControlled rpm := by
  simp [act, control]

theorem act_escalateMax (control : p.monitorOnly = false) :
    p.act .escalateMax = p.writeControlled p.cfgMaxRpm := by
  simp [act, control]

/-- Acting moves within the authority that a decision other than `observe` needs. -/
theorem moves_act {decision : Decision} (sound : p.Sound)
    (authority : p.mode = .observe → decision = .observe) : p.Moves (p.act decision).1 := by
  cases latched : p.monitorOnly with
  | true =>
      rw [act_latched decision latched]
      exact .refl p
  | false =>
      cases decision with
      | observe =>
          rw [act_observe]
          exact .refl p
      | returnToAuto =>
          cases armed : p.manualArmed with
          | false =>
              rw [act_returnToAuto_free armed]
              exact .refl p
          | true =>
              cases answer : (Smc.setMode .auto p.smc).1 with
              | ok mode =>
                  rw [act_returnToAuto_ok latched armed answer]
                  exact .of_move (setMode_log ..) (answer ▸ .release mode)
              | error e =>
                  rw [act_returnToAuto_error latched armed answer]
                  refine .of_strike _ rfl (setMode_log ..) fun fallback => ?_
                  rw [answer]
                  exact .releaseFailed e fallback
      | setSpeed rpm =>
          have driving : p.Driving := ⟨fun off => absurd (authority off) nofun, latched⟩
          rw [act_setSpeed rpm latched]
          exact moves_writeControlled rpm driving (sound.l2Absent_of_driving driving)
      | escalateMax =>
          have driving : p.Driving := ⟨fun off => absurd (authority off) nofun, latched⟩
          rw [act_escalateMax latched]
          exact moves_writeControlled _ driving (sound.l2Absent_of_driving driving)

theorem autoRestoreRetry_idle (idle : p.autoRestorePending = false) : p.autoRestoreRetry = p := by
  simp [autoRestoreRetry, idle]

theorem autoRestoreRetry_seen {rpm : Nat} (pending : p.autoRestorePending = true)
    (answer : (Smc.readFan p.smc).1 = .ok ⟨rpm, .auto⟩) :
    p.autoRestoreRetry = (p.attempting.readFan .autoRestoreRetry).2.autoRestored := by
  simp [autoRestoreRetry, pending, readFan, attempting, answer]

theorem autoRestoreRetry_restored {mode : FanMode} (pending : p.autoRestorePending = true)
    (unseen : ∀ rpm, (Smc.readFan p.smc).1 ≠ .ok ⟨rpm, .auto⟩)
    (answer : (Smc.setMode .auto (Smc.readFan p.smc).2).1 = .ok mode) :
    p.autoRestoreRetry
      = ((p.attempting.readFan .autoRestoreRetry).2.setMode
          .autoRestoreRetry .auto).2.autoRestored := by
  unfold autoRestoreRetry
  simp only [pending, ↓reduceIte]
  split
  · next fan => exact absurd (congrArg Prod.fst fan) (unseen _)
  · next fan =>
      cases fan
      simp [setMode, called, readFan, answer, attempting]

theorem autoRestoreRetry_failed {e : SmcError} (pending : p.autoRestorePending = true)
    (unseen : ∀ rpm, (Smc.readFan p.smc).1 ≠ .ok ⟨rpm, .auto⟩)
    (answer : (Smc.setMode .auto (Smc.readFan p.smc).2).1 = .error e) :
    p.autoRestoreRetry
      = ((p.attempting.readFan .autoRestoreRetry).2.setMode
          .autoRestoreRetry .auto).2.autoRestoreFailed := by
  unfold autoRestoreRetry
  simp only [pending, ↓reduceIte]
  split
  · next fan => exact absurd (congrArg Prod.fst fan) (unseen _)
  · next fan =>
      cases fan
      simp [setMode, called, readFan, answer, attempting]

/-- The retry in full: nothing pending; AUTO seen in the register; AUTO written;
AUTO written in vain. -/
theorem autoRestoreRetry_cases (p : Frame σ) :
    (p.autoRestorePending = false ∧ p.autoRestoreRetry = p) ∨
    (p.autoRestorePending = true ∧ ∃ rpm, (Smc.readFan p.smc).1 = .ok ⟨rpm, .auto⟩ ∧
      p.autoRestoreRetry.toCustody = p.toCustody.released ∧
      p.autoRestoreRetry.log
        = p.log ++ [⟨.autoRestoreRetry, .readFan (.ok ⟨rpm, .auto⟩), p.toCustody⟩]) ∨
    (p.autoRestorePending = true ∧ (∀ rpm, (Smc.readFan p.smc).1 ≠ .ok ⟨rpm, .auto⟩) ∧
      p.autoRestoreRetry.log
        = p.log ++ [⟨.autoRestoreRetry, .readFan (Smc.readFan p.smc).1, p.toCustody⟩]
            ++ [⟨.autoRestoreRetry, .setMode .auto (Smc.setMode .auto (Smc.readFan p.smc).2).1,
              p.toCustody⟩] ∧
      ((∃ mode, (Smc.setMode .auto (Smc.readFan p.smc).2).1 = .ok mode ∧
          p.autoRestoreRetry.toCustody = p.toCustody.released) ∨
        (∃ e, (Smc.setMode .auto (Smc.readFan p.smc).2).1 = .error e ∧
          p.autoRestoreRetry.toCustody = p.toCustody))) := by
  cases pending : p.autoRestorePending with
  | false => exact .inl ⟨rfl, autoRestoreRetry_idle pending⟩
  | true =>
      by_cases seen : ∃ rpm, (Smc.readFan p.smc).1 = .ok ⟨rpm, .auto⟩
      · obtain ⟨rpm, answer⟩ := seen
        refine .inr (.inl ⟨rfl, rpm, answer, ?_, ?_⟩)
        · rw [autoRestoreRetry_seen pending answer]
          rfl
        · rw [autoRestoreRetry_seen pending answer, autoRestored_log, readFan_log, ← answer]
          rfl
      · have unseen : ∀ rpm, (Smc.readFan p.smc).1 ≠ .ok ⟨rpm, .auto⟩ :=
          fun rpm answer => seen ⟨rpm, answer⟩
        refine .inr (.inr ⟨rfl, unseen, ?_⟩)
        cases answer : (Smc.setMode .auto (Smc.readFan p.smc).2).1 with
        | ok mode =>
            rw [autoRestoreRetry_restored pending unseen answer, ← answer]
            exact ⟨rfl, .inl ⟨mode, answer, rfl⟩⟩
        | error e =>
            rw [autoRestoreRetry_failed pending unseen answer, ← answer]
            refine ⟨?_, .inr ⟨e, answer, ?_⟩⟩
            · rw [autoRestoreFailed_log]
              rfl
            · rw [autoRestoreFailed_toCustody]
              rfl

/-- The retry leaves the custody alone or releases it. -/
theorem autoRestoreRetry_toCustody (p : Frame σ) :
    p.autoRestoreRetry.toCustody = p.toCustody ∨
      p.autoRestoreRetry.toCustody = p.toCustody.released := by
  rcases autoRestoreRetry_cases p with ⟨-, same⟩ | ⟨-, rpm, -, released, -⟩ |
    ⟨-, -, -, ⟨mode, -, released⟩ | ⟨e, -, kept⟩⟩
  · exact .inl (by rw [same])
  · exact .inr released
  · exact .inr released
  · exact .inl kept

/-- Its calls are made from its own site, and none is a control write. -/
theorem autoRestoreRetry_emits (p : Frame σ) :
    Emits (fun e => e.site = .autoRestoreRetry ∧ ¬ e.control) p p.autoRestoreRetry := by
  rcases autoRestoreRetry_cases p with ⟨-, same⟩ | ⟨-, rpm, -, -, log⟩ | ⟨-, -, log, -⟩
  · rw [same]
    exact .of_log rfl
  · exact .of_event log ⟨rfl, nofun⟩
  · have looked : Emits (fun e => e.site = .autoRestoreRetry ∧ ¬ e.control) p
        (p.readFan .autoRestoreRetry).2 := .of_event (readFan_log ..) ⟨rfl, nofun⟩
    exact looked.trans (.of_event log ⟨rfl, nofun⟩)

theorem moves_autoRestoreRetry (p : Frame σ) : p.Moves p.autoRestoreRetry := by
  rcases autoRestoreRetry_cases p with ⟨-, same⟩ | ⟨-, rpm, -, custody, log⟩ |
    ⟨-, unseen, log, ends⟩
  · rw [same]
    exact .refl p
  · exact .of_move log (custody ▸ .seeAuto rpm)
  · have unread : ¬ (Event.mk .autoRestoreRetry (.readFan (Smc.readFan p.smc).1)
        p.toCustody).verifiesAuto := by
      rintro seen
      obtain ⟨-, rpm, answer⟩ := Event.verifiesAuto_look.mp seen
      exact unseen rpm answer
    have looked := Steps.single (Custody.Move.look .autoRestoreRetry _ unread)
    rcases ends with ⟨mode, answer, custody⟩ | ⟨e, answer, custody⟩
    · rw [answer, List.append_assoc] at log
      exact ⟨_, log, custody ▸ looked.tail (.restore mode)⟩
    · rw [answer, List.append_assoc] at log
      exact ⟨_, log, custody ▸ looked.tail (.restoreFailed e)⟩

end Stages

end Frame

end Afanctl
