import Afanctl.Supervisor.Requests

/-!
Each write path, up to the fallback.

A function that writes either leaves control on, or its last call is the fallback's, which
resets the written value, the strikes and both windows and leaves the fan as the answer to
its AUTO write says. `Proceeds` states this together with a bound on the weight of the calls
before the fallback, for any weight on calls: a weight that marks calls bounds how many are
marked, one that times them how long they take.
-/

namespace Afanctl

open Afanctl.Lib

/-- What a degradation resets, ownership apart. -/
structure Daemon.Reset {σ : Type} (d : Daemon σ) : Prop where
  latched : d.monitorOnly = true
  unwritten : d.lastWritten = none
  uncounted : d.writeFailures = 0
  motionless : d.stallPolls = 0
  offTarget : d.offTargetPolls = 0

/-! ### Weights -/

/-- The weight of a list of calls. -/
def weight (w : Event → Nat) : List Event → Nat
  | [] => 0
  | e :: es => w e + weight w es

@[simp] theorem weight_nil (w : Event → Nat) : weight w [] = 0 := rfl

@[simp] theorem weight_cons (w : Event → Nat) (e : Event) (es : List Event) :
    weight w (e :: es) = w e + weight w es := rfl

@[simp] theorem weight_append (w : Event → Nat) (es es' : List Event) :
    weight w (es ++ es') = weight w es + weight w es' := by
  induction es with
  | nil => simp
  | cons e es ih => rw [List.cons_append, weight_cons, weight_cons, ih, Nat.add_assoc]

/-- Marks weigh nothing exactly if no call is marked. -/
theorem weight_marks {marked : Event → Bool} {es : List Event} :
    weight (fun e => (marked e).toNat) es ≤ 0 ↔ ∀ e ∈ es, ¬ marked e := by
  induction es with
  | nil => simp
  | cons e es ih =>
      rw [weight_cons, List.forall_mem_cons, ← ih]
      cases marked e <;> simp

/-- The weight of the calls that acting makes: `mode` bounds its mode writes, those from
`enterManual` only for a fan that is not owned, and `speed` its speed writes. -/
structure ActWeight (w : Event → Nat) (mode speed : Nat) : Prop where
  release : ∀ answer c, w ⟨.act, .setMode .auto answer, c⟩ ≤ mode
  enter : ∀ answer c, c.manualArmed = false → w ⟨.enterManual, .setMode .manual answer, c⟩ ≤ mode
  write : ∀ rpm answer c, w ⟨.writeControlled, .writeSpeed rpm answer, c⟩ ≤ speed

namespace Frame

variable {σ : Type} {w : Event → Nat} {m n : Nat} {p q r : Frame σ}

/-- The calls between two frames weigh at most `n`. -/
def Spends (w : Event → Nat) (n : Nat) (p q : Frame σ) : Prop :=
  ∃ es, q.log = p.log ++ es ∧ weight w es ≤ n

namespace Spends

theorem of_log (log : q.log = p.log) : Spends w n p q := ⟨[], by simpa using log, Nat.zero_le n⟩

theorem of_event {e : Event} (log : q.log = p.log ++ [e]) (light : w e ≤ n) : Spends w n p q :=
  ⟨[e], log, light⟩

theorem mono (spends : Spends w m p q) (le : m ≤ n) : Spends w n p q := by
  obtain ⟨es, log, light⟩ := spends
  exact ⟨es, log, Nat.le_trans light le⟩

theorem trans (first : Spends w m p q) (second : Spends w n q r) : Spends w (m + n) p r := by
  obtain ⟨es, log, light⟩ := first
  obtain ⟨es', log', light'⟩ := second
  refine ⟨es ++ es', by rw [log', log, List.append_assoc], ?_⟩
  rw [weight_append]
  exact Nat.add_le_add light light'

end Spends

/-- The last call between two frames is the fallback's, and those before it weigh at most
`n`. -/
def Falls (w : Event → Nat) (n : Nat) (p q : Frame σ) : Prop :=
  q.Reset ∧ ∃ es, ∃ c : Custody, ∃ answer,
    q.log = p.log ++ (es ++ [c.degradeEvent answer]) ∧ weight w es ≤ n ∧
    q.manualArmed = (c.degraded answer).manualArmed ∧
    q.autoRestorePending = (c.degraded answer).autoRestorePending

/-- Control stays on, or the fallback fires; the calls before it weigh at most `n`. -/
def Proceeds (w : Event → Nat) (n : Nat) (p q : Frame σ) : Prop :=
  q.monitorOnly = false ∧ Spends w n p q ∨ Falls w n p q

theorem Falls.after (first : Spends w m p q) (second : Falls w n q r) : Falls w (m + n) p r := by
  obtain ⟨es, log, light⟩ := first
  obtain ⟨reset, es', c, answer, log', light', owned⟩ := second
  refine ⟨reset, es ++ es', c, answer, ?_, ?_, owned⟩
  · rw [log', log, List.append_assoc, List.append_assoc]
  · rw [weight_append]
    exact Nat.add_le_add light light'

namespace Proceeds

theorem refl (control : p.monitorOnly = false) : Proceeds w n p p := .inl ⟨control, .of_log rfl⟩

theorem after (first : Spends w m p q) (second : Proceeds w n q r) : Proceeds w (m + n) p r :=
  second.imp (fun on => ⟨on.1, first.trans on.2⟩) (Falls.after first)

theorem mono (proceeds : Proceeds w m p q) (le : m ≤ n) : Proceeds w n p q := by
  rcases proceeds with on | ⟨reset, es, c, answer, log, light, owned⟩
  · exact .inl ⟨on.1, on.2.mono le⟩
  · exact .inr ⟨reset, es, c, answer, log, Nat.le_trans light le, owned⟩

end Proceeds

variable [Smc σ]

/-! ### The fallback and the strikes before it -/

theorem degradeToAuto_reset (p : Frame σ) : p.degradeToAuto.Reset := by
  unfold degradeToAuto setMode
  cases answer : (Smc.setMode .auto p.smc).1 <;> simp only [answer] <;>
    exact ⟨rfl, rfl, rfl, rfl, rfl⟩

/-- Of a latched fan without a live target L1 has nothing to check. -/
theorem l1Target_reset (fan : FanState) (previous applied : Option Nat) (reset : p.Reset) :
    p.l1Target fan previous applied true = (p, false) := by
  simp [l1Target, reset.unwritten, l1Verdict]

theorem falls_degradeToAuto (log : q.log = p.log) : Falls w n p q.degradeToAuto := by
  have custody := degradeToAuto_toCustody q
  refine ⟨degradeToAuto_reset q, [], _, _, ?_, Nat.zero_le n, congrArg Custody.manualArmed custody,
    congrArg Custody.autoRestorePending custody⟩
  rw [degradeToAuto_log, log, List.nil_append]

/-- The last strike is the fallback. -/
theorem falls_failWrite (msg : String) (last : writeFailFallback ≤ p.writeFailures + 1) :
    Falls w n p (p.failWrite msg) := by
  simp only [failWrite, note, noteRecent, last, ↓reduceIte]
  exact falls_degradeToAuto rfl

theorem proceeds_failWrite (msg : String) (control : p.monitorOnly = false) :
    Proceeds w n p (p.failWrite msg) := by
  by_cases below : p.writeFailures + 1 < writeFailFallback
  · obtain ⟨custody, log, -⟩ := failWrite_below msg below
    exact .inl ⟨by rw [custody]; exact control, .of_log log⟩
  · exact .inr (falls_failWrite msg (Nat.not_lt.mp below))

/-! ### The write paths -/

section Act

variable {mode speed : Nat}

theorem proceeds_writeOwned (rpm : Nat) (weights : ActWeight w mode speed)
    (control : p.monitorOnly = false) : Proceeds w speed p (p.writeOwned rpm).1 := by
  have asked : Spends w speed p (p.writeSpeed .writeControlled (clamp p.hwMin p.hwMax rpm)).2 :=
    .of_event (writeSpeed_log ..) (weights.write ..)
  by_cases same : p.lastWritten = some (clamp p.hwMin p.hwMax rpm)
  · rw [writeOwned_same same]
    exact .refl control
  · cases answer : (Smc.writeSpeed (clamp p.hwMin p.hwMax rpm) p.smc).1 with
    | ok verified =>
        rw [writeOwned_ok same answer]
        exact .inl ⟨control, asked⟩
    | error e =>
        rw [writeOwned_error same answer]
        exact .after (n := 0) asked (proceeds_failWrite _ control)

theorem proceeds_writeUnowned (rpm : Nat) (weights : ActWeight w mode speed)
    (control : p.monitorOnly = false) (free : p.manualArmed = false) :
    Proceeds w (mode + speed) p (p.writeControlled rpm).1 := by
  have asked : Spends w mode p (p.setMode .enterManual .manual).2 :=
    .of_event (setMode_log ..) (weights.enter _ _ free)
  cases answer : (Smc.setMode .manual p.smc).1 with
  | ok _ =>
      rw [writeControlled_taken free answer]
      have entered : Spends w mode p { (p.setMode .enterManual .manual).2 with
        manualArmed := true } := asked
      exact .after entered (proceeds_writeOwned rpm weights control)
  | error e =>
      rw [writeControlled_refused free answer]
      exact .after asked (proceeds_failWrite _ control)

/-- Acting on an owned fan makes one write. -/
theorem proceeds_act_owned (decision : Decision) (weights : ActWeight w mode speed)
    (control : p.monitorOnly = false) (armed : p.manualArmed = true) :
    Proceeds w (max mode speed) p (p.act decision).1 := by
  cases decision with
  | observe =>
      rw [act_observe]
      exact .refl control
  | setSpeed | escalateMax =>
      rw [act_speed control rfl, writeControlled_armed _ armed]
      exact (proceeds_writeOwned _ weights control).mono (Nat.le_max_right mode speed)
  | returnToAuto =>
      have asked : Spends w mode p (p.setMode .act .auto).2 :=
        .of_event (setMode_log ..) (weights.release ..)
      have le := Nat.le_max_left mode speed
      cases answer : (Smc.setMode .auto p.smc).1 with
      | ok _ =>
          rw [act_returnToAuto_ok control armed answer]
          exact .inl ⟨control, asked.mono le⟩
      | error e =>
          rw [act_returnToAuto_error control armed answer]
          exact (Proceeds.after (n := 0) asked (proceeds_failWrite _ control)).mono le

/-- Acting on any other makes a takeover and a write. -/
theorem proceeds_act_unowned (decision : Decision) (weights : ActWeight w mode speed)
    (control : p.monitorOnly = false) (free : p.manualArmed = false) :
    Proceeds w (mode + speed) p (p.act decision).1 := by
  cases decision with
  | observe =>
      rw [act_observe]
      exact .refl control
  | setSpeed | escalateMax =>
      rw [act_speed control rfl]
      exact proceeds_writeUnowned _ weights control free
  | returnToAuto =>
      rw [act_returnToAuto_free free]
      exact .refl control

theorem proceeds_act (decision : Decision) (weights : ActWeight w mode speed)
    (control : p.monitorOnly = false) : Proceeds w (mode + speed) p (p.act decision).1 := by
  cases armed : p.manualArmed with
  | true =>
      exact (proceeds_act_owned decision weights control armed).mono
        (Nat.max_le.mpr ⟨Nat.le_add_right mode speed, Nat.le_add_left speed mode⟩)
  | false => exact proceeds_act_unowned decision weights control armed

end Act

/-- Giving up an owned fan makes one mode write. -/
theorem proceeds_leaveControl (control : p.monitorOnly = false)
    (light : ∀ answer, w ⟨.applyMode, .setMode .auto answer, p.toCustody⟩ ≤ n) :
    Proceeds w n p p.leaveControl := by
  cases armed : p.manualArmed with
  | false =>
      rw [leaveControl_free armed]
      exact .inl ⟨control, .of_log rfl⟩
  | true =>
      cases answer : (Smc.setMode .auto p.smc).1 with
      | ok m =>
          obtain ⟨custody, log⟩ := leaveControl_ok armed answer
          exact .inl ⟨by rw [custody]; exact control, .of_event log (light _)⟩
      | error e =>
          rw [leaveControl_error armed answer]
          have asked : Spends w n p p.releaseFailed := .of_event (setMode_log ..) (light _)
          have struck := Proceeds.after (n := 0) asked
            (proceeds_failWrite s!"cmd observe: set AUTO error: {e}" control)
          rcases struck with on | ⟨reset, rest⟩
          · exact .inl on
          · exact .inr ⟨{ reset with }, rest⟩

end Frame

end Afanctl
