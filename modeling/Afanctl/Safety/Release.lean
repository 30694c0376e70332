import Afanctl.Safety.ObserveOnly
import Afanctl.Safety.Ownership
import Afanctl.Safety.Supersede

/-!
Handing the fan back: on an observe command, and on lost sensors.

Both paths write AUTO for an owned fan and mean to keep at it until it is verified.
What they miss: an observe command asks only whether the fan is owned, and a refused
takeover owns nothing although its write may still arrive; and a `returnToAuto` whose
AUTO write fails counts a strike and leaves the fan owned with nothing pending.
-/

namespace Afanctl

open Afanctl.Lib

/-! ### What the daemon knows of the fan's mode -/

namespace Event

/-- AUTO was seen: its write answered `Ok`, or a fan read reported it. -/
def seesAuto (e : Event) : Bool :=
  match e.op with
  | .setMode .auto (.ok _) => true
  | .readFan (.ok ⟨_, .auto⟩) => true
  | _ => false

/-- AUTO was written and verified. -/
def writesAuto (e : Event) : Bool :=
  match e.op with
  | .setMode .auto (.ok _) => true
  | _ => false

/-- A takeover was asked for, whatever the answer. -/
def asksManual (e : Event) : Bool :=
  match e.op with
  | .setMode .manual _ => true
  | _ => false

/-- Whether the fan may be in Manual after the call, if it may before. -/
def exposes (before : Bool) (e : Event) : Bool :=
  e.asksManual || before && !e.seesAuto

theorem asksManual_of_not_control {e : Event} (silent : ¬ e.control) : e.asksManual = false := by
  obtain ⟨site, op, custody⟩ := e
  cases op with
  | setMode mode =>
      cases mode with
      | auto => rfl
      | manual => exact absurd rfl silent
  | _ => rfl

theorem seesAuto_of_verifiesAuto {e : Event} (verified : e.verifiesAuto) : e.seesAuto := by
  unfold verifiesAuto at verified
  unfold seesAuto
  split at verified <;> simp_all

theorem verifiesAuto_of_writesAuto {e : Event} (written : e.writesAuto) : e.verifiesAuto := by
  unfold writesAuto at written
  unfold verifiesAuto
  split at written <;> simp_all

end Event

/-- A takeover was asked for since AUTO was last seen. -/
def exposed (es : List Event) : Bool := es.foldl Event.exposes false

/-- Calls without a control write expose nothing, and cover what sees AUTO. -/
theorem exposed_silent (history : List Event) {es : List Event} (silent : ∀ e ∈ es, ¬ e.control) :
    exposed (history ++ es) = (exposed history && !es.any (·.seesAuto)) := by
  unfold exposed
  rw [List.foldl_append]
  generalize history.foldl Event.exposes false = before
  induction es generalizing before with
  | nil => simp
  | cons e es ih =>
      have asks := Event.asksManual_of_not_control (silent e List.mem_cons_self)
      rw [List.foldl_cons, ih fun e' mem => silent e' (List.mem_cons_of_mem e mem)]
      simp [Event.exposes, asks, Bool.and_assoc]

namespace Custody

variable {c c' c'' : Custody} {es es' : List Event}

/-! ### Retreating -/

/-- From `c` to `c'` nothing is driven, and a release is pending, or AUTO was written
and nothing is owned, or neither has changed. -/
structure Retreats (c : Custody) (es : List Event) (c' : Custody) : Prop where
  silent : ∀ e ∈ es, ¬ e.control
  ends : c'.autoRestorePending = true ∨ (c'.manualArmed = false ∧ ∃ e ∈ es, e.writesAuto) ∨
    (c'.autoRestorePending = c.autoRestorePending ∧ c'.manualArmed = c.manualArmed)

theorem Retreats.refl (c : Custody) : c.Retreats [] c :=
  ⟨by simp, .inr (.inr ⟨rfl, rfl⟩)⟩

theorem Retreats.trans (first : c.Retreats es c') (second : c'.Retreats es' c'') :
    c.Retreats (es ++ es') c'' := by
  refine ⟨fun e mem => (List.mem_append.mp mem).elim (first.silent e) (second.silent e), ?_⟩
  rcases second.ends with pending | ⟨free, e, mem, written⟩ | ⟨pending, armed⟩
  · exact .inl pending
  · exact .inr (.inl ⟨free, e, List.mem_append_right es mem, written⟩)
  · rw [pending, armed]
    rcases first.ends with pending | ⟨free, e, mem, written⟩ | same
    · exact .inl pending
    · exact .inr (.inl ⟨free, e, List.mem_append_left es' mem, written⟩)
    · exact .inr (.inr same)

/-- A strike for a call that drives nothing retreats. -/
theorem strike_retreats {first : Event} (silent : ¬ first.control)
    (answer : Except SmcError FanMode) (c : Custody) :
    c.Retreats (first :: c.struckLog answer) (c.struck answer) := by
  refine ⟨fun e mem => ?_, ?_⟩
  · rcases mem_strike mem with rfl | attempt
    · exact silent
    · exact Event.not_control_of_autoAttempt attempt
  · unfold struck struckLog
    split
    · cases answer with
      | ok mode => exact .inr (.inl ⟨rfl, c.degradeEvent (.ok mode), by simp, rfl⟩)
      | error e => exact .inl rfl
    · exact .inr (.inr ⟨rfl, rfl⟩)

/-- L1 has nothing to drive: the fan is not owned, or is being released. -/
def Withheld (c : Custody) : Prop := c.autoRestorePending = true ∨ c.manualArmed = false

theorem Retreats.withheld (retreats : c.Retreats es c') (withheld : c.Withheld) : c'.Withheld := by
  rcases retreats.ends with pending | ⟨free, -⟩ | ⟨pending, armed⟩
  · exact .inl pending
  · exact .inr free
  · exact withheld.imp pending.trans armed.trans

/-- The command stage keeps the fan withheld unless it accepts a control mode. -/
theorem Obeys.withheld {command : Option RunMode} (obeys : Obeys command c es c')
    (unaccepted : ∀ requested, command = some requested → requested ≠ .observe → c.l2Absent = true)
    (withheld : c.Withheld) : c'.Withheld := by
  cases obeys with
  | accepted control proven => simp [unaccepted _ rfl control] at proven
  | released => exact .inr rfl
  | releaseFailed _ answer =>
      have quiet : ¬ (c.degradeEvent answer).control := nofun
      exact (strike_retreats quiet answer c.releasing).withheld (.inl rfl)
  | _ => exact withheld

end Custody

namespace Frame

variable {σ : Type} {p : Frame σ}

/-- The calls from `p` to `q` retreat. -/
def Retreats (p q : Frame σ) : Prop :=
  ∃ es, q.log = p.log ++ es ∧ p.toCustody.Retreats es q.toCustody

namespace Retreats

theorem of_eq {q : Frame σ} (custody : q.toCustody = p.toCustody) (log : q.log = p.log) :
    p.Retreats q :=
  ⟨[], by simpa using log, custody ▸ .refl _⟩

theorem of_call {q : Frame σ} {e : Event} (custody : q.toCustody = p.toCustody)
    (log : q.log = p.log ++ [e]) (silent : ¬ e.control) : p.Retreats q := by
  refine ⟨[e], log, fun e' mem => ?_, .inr (.inr ?_)⟩
  · rw [List.mem_singleton.mp mem]
    exact silent
  · rw [custody]
    exact ⟨rfl, rfl⟩

theorem trans {q r : Frame σ} (first : p.Retreats q) (second : q.Retreats r) : p.Retreats r := by
  obtain ⟨es, log, retreats⟩ := first
  obtain ⟨es', log', retreats'⟩ := second
  exact ⟨es ++ es', by rw [log', log, List.append_assoc], retreats.trans retreats'⟩

theorem withheld {q : Frame σ} (retreats : p.Retreats q) (withheld : p.Withheld) : q.Withheld := by
  obtain ⟨es, -, retreats⟩ := retreats
  exact retreats.withheld withheld

end Retreats

variable [Smc σ]

/-- A call that drives nothing and the strike after it retreat. -/
theorem Retreats.of_strike {q : Frame σ} {e : Event} (msg : String)
    (custody : q.toCustody = p.toCustody) (log : q.log = p.log ++ [e]) (silent : ¬ e.control) :
    p.Retreats (q.failWrite msg) := by
  refine ⟨e :: p.toCustody.struckLog (Smc.setMode .auto q.smc).1, ?_, ?_⟩
  · rw [failWrite_log, log, custody, List.append_assoc]
    rfl
  · rw [failWrite_toCustody, custody]
    exact Custody.strike_retreats silent _ _

/-- Acting on lost sensors retreats. -/
theorem act_retreats {decision : Decision}
    (lost : decision = .observe ∨ decision = .returnToAuto) : p.Retreats (p.act decision).1 := by
  cases latched : p.monitorOnly with
  | true =>
      rw [act_latched decision latched]
      exact .of_eq rfl rfl
  | false =>
      rcases lost with rfl | rfl
      · rw [act_observe]
        exact .of_eq rfl rfl
      · cases armed : p.manualArmed with
        | false =>
            rw [act_returnToAuto_free armed]
            exact .of_eq rfl rfl
        | true =>
            cases answer : (Smc.setMode .auto p.smc).1 with
            | ok mode =>
                rw [act_returnToAuto_ok latched armed answer]
                refine ⟨_, setMode_log .., fun e mem => ?_, .inr (.inl ⟨rfl, ?_⟩)⟩
                · rw [List.mem_singleton.mp mem]
                  nofun
                · exact ⟨_, List.mem_singleton.mpr rfl, by rw [answer]; rfl⟩
            | error e =>
                rw [act_returnToAuto_error latched armed answer]
                exact .of_strike _ (setMode_toCustody ..) (setMode_log ..) nofun

/-- L1 with nothing to drive retreats. -/
theorem l1Poll_retreats (applied : Option Nat) (withheld : p.Withheld) :
    p.Retreats (p.l1Poll applied).1 := by
  cases answer : (Smc.readFan p.smc).1 with
  | error e =>
      rw [l1Poll_error answer]
      exact .of_strike _ (noteRecent_toCustody _ (p.readFan .l1Poll).2) (readFan_log ..) nofun
  | ok fan =>
      cases armed : p.manualArmed with
      | false =>
          rw [l1Poll_free answer armed]
          exact .of_call rfl (readFan_log ..) nofun
      | true =>
          have pending : p.autoRestorePending = true := by
            rcases withheld with pending | free
            · exact pending
            · simp [armed] at free
          rw [l1Poll_releasing answer armed pending]
          exact .of_call rfl (readFan_log ..) nofun

/-- A `returnToAuto` at `p` does not lose the fan: a release is pending already, there
is nothing to release, the AUTO write answers `Ok`, or its failure is the last strike. -/
def HandsBack (p : Frame σ) : Prop :=
  p.autoRestorePending = true ∨ p.manualArmed = false ∨
    (∃ mode, (Smc.setMode .auto p.smc).1 = .ok mode) ∨ writeFailFallback ≤ p.writeFailures + 1

/-- Then acting on it leaves L1 nothing to drive. -/
theorem act_handsBack (control : p.monitorOnly = false) (handsBack : p.HandsBack) :
    (p.act .returnToAuto).1.Withheld := by
  rcases handsBack with pending | free | ⟨mode, answer⟩ | third
  · exact (act_retreats (.inr rfl)).withheld (.inl pending)
  · exact (act_retreats (.inr rfl)).withheld (.inr free)
  · cases armed : p.manualArmed with
    | false => exact (act_retreats (.inr rfl)).withheld (.inr armed)
    | true =>
        rw [act_returnToAuto_ok control armed answer]
        exact .inr rfl
  · cases armed : p.manualArmed with
    | false => exact (act_retreats (.inr rfl)).withheld (.inr armed)
    | true =>
        cases answer : (Smc.setMode .auto p.smc).1 with
        | ok mode =>
            rw [act_returnToAuto_ok control armed answer]
            exact .inr rfl
        | error e =>
            rw [act_returnToAuto_error control armed answer]
            show ((p.setMode .act .auto).2.failWrite _).toCustody.Withheld
            rw [failWrite_toCustody, setMode_toCustody]
            unfold Custody.struck
            rw [if_pos third]
            cases (Smc.setMode .auto (p.setMode .act .auto).2.smc).1 with
            | ok mode => exact .inr rfl
            | error e => exact .inl rfl

end Frame

namespace Supervisor

section Runs

variable {σ : Type} [Smc σ] [SerdeJson] {host : Host} {s : Supervisor σ}

/-! ### The stages before the decision -/

theorem retried_silent (host : Host) (s : Supervisor σ) :
    ∀ e ∈ (s.retried host).log, ¬ e.control := by
  have commanded : ∀ e ∈ (s.commanded host).log, ¬ e.control := fun e mem =>
    Event.not_control_of_autoAttempt ((commanded_obeys host s).attempts e mem)
  obtain ⟨es, log, quiet⟩ := Frame.autoRestoreRetry_emits (s.commanded host)
  unfold retried
  rw [log]
  simp only [List.forall_mem_append]
  exact ⟨commanded, fun e mem => (quiet e mem).2⟩

/-- Nothing before the decision is a control write. -/
theorem sensed_silent (host : Host) (s : Supervisor σ) :
    ∀ e ∈ (s.sensed host).2.log, ¬ e.control := by
  rw [sensed_log]
  simp only [List.forall_mem_append, List.forall_mem_singleton]
  exact ⟨retried_silent host s, nofun⟩

/-- A poll on lost sensors that leaves L1 nothing to drive retreats. -/
theorem sensed_retreats (lost : (s.decided host).1 = .observe ∨ (s.decided host).1 = .returnToAuto)
    (withheld : (s.acted host).1.Withheld) : (s.sensed host).2.Retreats (s.checked host).1 :=
  (Frame.act_retreats lost).trans (Frame.l1Poll_retreats _ withheld)

/-- And writes no speed and takes nothing over. -/
theorem calls_silent (lost : (s.decided host).1 = .observe ∨ (s.decided host).1 = .returnToAuto)
    (withheld : (s.acted host).1.Withheld) : ∀ e ∈ s.calls host, ¬ e.control := by
  obtain ⟨es, log, retreats⟩ := sensed_retreats lost withheld
  rw [calls_eq, log]
  simp only [List.forall_mem_append]
  exact ⟨sensed_silent host s, retreats.silent⟩

/-- A decision other than `observe` is made out of the latch. -/
theorem decided_control (acts : (s.decided host).1 ≠ .observe) :
    (s.sensed host).2.monitorOnly = false := by
  cases latched : (s.sensed host).2.monitorOnly with
  | false => rfl
  | true => exact absurd (controllerStep_observe (.inr latched)) acts

/-- A decision to return the fan hands it back, or leaves a release pending. -/
theorem acted_withheld (lost : (s.decided host).1 = .returnToAuto)
    (handsBack : (s.sensed host).2.HandsBack) : (s.acted host).1.Withheld := by
  have control := decided_control (by rw [lost]; nofun)
  rw [acted, lost]
  exact Frame.act_handsBack control handsBack

/-! ### Withdrawing a takeover -/

/-- What an observe command leaves of an owned or pending fan: AUTO written, or a
release pending. -/
theorem withdrawn (withdraws : s.Withdraws host)
    (held : s.manualArmed = true ∨ s.autoRestorePending = true) :
    (∃ e ∈ (s.commanded host).log, e.writesAuto) ∨
      (s.commanded host).autoRestorePending = true := by
  have obeys := commanded_obeys host s
  rw [withdraws.1] at obeys
  generalize (s.commanded host).log = es, (s.commanded host).toCustody = c at obeys ⊢
  cases obeys with
  | accepted control => exact absurd rfl control
  | refused control => exact absurd rfl control
  | already mode => exact absurd mode withdraws.2
  | left _ free => exact held.elim (fun armed => by simp [free] at armed) .inr
  | released mode => exact .inl ⟨_, List.mem_singleton.mpr rfl, rfl⟩
  | releaseFailed e answer =>
      unfold Custody.struckLog Custody.struck
      split
      · cases answer with
        | ok mode => exact .inl ⟨s.releasing.degradeEvent (.ok mode), by simp, rfl⟩
        | error e => exact .inr rfl
      · exact .inr rfl

theorem commanded_withdrawn (withdraws : s.Withdraws host) :
    (s.commanded host).mode = .observe := by
  have obeys := commanded_obeys host s
  rw [withdraws.1] at obeys
  generalize (s.commanded host).log = es, (s.commanded host).toCustody = c at obeys ⊢
  cases obeys with
  | accepted control => exact absurd rfl control
  | refused control => exact absurd rfl control
  | already mode => exact absurd mode withdraws.2
  | _ => rfl

/-- A fan that may be in Manual at the end of the poll was released, or is being. -/
def Releases (host : Host) (history : List Event) (s : Supervisor σ) : Prop :=
  exposed (history ++ s.calls host) = true →
    (∃ e ∈ s.calls host, e.writesAuto) ∨ (s.next host).autoRestorePending = true

instance (host : Host) (history : List Event) (s : Supervisor σ) :
    Decidable (s.Releases host history) :=
  inferInstanceAs (Decidable (_ → _))

/-- This poll's own look at the fan settles it: it reads Auto, or it fails as the last
strike. -/
def LookSettles (s : Supervisor σ) : Prop :=
  (∃ rpm, (watched s.smc).1 = .ok ⟨rpm, .auto⟩) ∨
    (∃ e, (watched s.smc).1 = .error e) ∧ writeFailFallback ≤ s.writeFailures + 1

/-- An observe command over a fan that is neither owned nor being released only
changes the mode. -/
theorem retried_withdrawn (withdraws : s.Withdraws host) (free : s.manualArmed = false)
    (idle : s.autoRestorePending = false) :
    (s.retried host).toCustody = { s.toCustody with mode := .observe } ∧
      (s.retried host).log = [] ∧ (s.retried host).smc = s.smc := by
  obtain ⟨raw, -, eq⟩ := commanded_fresh withdraws.1
  rw [Frame.applyMode_observe withdraws.2, Frame.leaveControl_free free] at eq
  unfold retried
  rw [Frame.autoRestoreRetry_idle (by rw [eq]; exact idle), eq]
  exact ⟨rfl, rfl, rfl⟩

theorem watchLog_control : ∀ e ∈ s.watchLog host, ¬ e.control := by
  simp [watchLog, Event.control]

/-- Without an owned or pending fan, a withdrawal releases exactly if nothing was
exposed or the look at the fan settles it. -/
theorem releases_unheld (withdraws : s.Withdraws host) (free : s.manualArmed = false)
    (idle : s.autoRestorePending = false) (history : List Event) :
    s.Releases host history ↔ exposed history = false ∨ s.LookSettles := by
  obtain ⟨custody, log, smc⟩ := retried_withdrawn withdraws free idle
  have watching : (s.retried host).Watching := custody ▸ ⟨rfl, free⟩
  unfold Releases LookSettles
  rw [calls_eq, next_toCustody, ← smc]
  cases answer : (watched (s.retried host).smc).1 with
  | ok fan =>
      obtain ⟨ended, total, -⟩ := checked_seen watching answer
      have kept : (s.checked host).1.autoRestorePending = false := by
        rw [ended, custody]
        exact idle
      rw [total, log, List.nil_append, exposed_silent history watchLog_control, kept]
      obtain ⟨rpm, mode⟩ := fan
      cases mode <;> simp [watchLog, answer, Event.seesAuto, Event.writesAuto]
  | error e =>
      obtain ⟨q, msg, eq, ended, total, -⟩ := checked_unseen watching answer
      rw [eq, Frame.failWrite_log, Frame.failWrite_toCustody, total, log, List.nil_append, ended,
        custody]
      unfold Custody.struckLog Custody.struck
      by_cases third : writeFailFallback ≤ s.writeFailures + 1
      · simp only [third, ↓reduceIte]
        refine ⟨fun _ => .inr (.inr ⟨⟨e, rfl⟩, trivial⟩), fun _ _ => ?_⟩
        cases (Smc.setMode .auto q.smc).1 with
        | ok mode => exact .inl ⟨_, List.mem_append_right _ (List.mem_singleton.mpr rfl), rfl⟩
        | error e => exact .inr rfl
      · simp only [third, ↓reduceIte, List.append_nil]
        rw [exposed_silent history watchLog_control]
        simp [watchLog, answer, Event.seesAuto, Event.writesAuto, idle]

/-- With an owned or pending fan, a withdrawal releases. -/
theorem releases_held (sound : s.Sound) (withdraws : s.Withdraws host)
    (held : s.manualArmed = true ∨ s.autoRestorePending = true) (history : List Event) :
    s.Releases host history := by
  intro exposing
  have idle : ¬ (s.commanded host).Driving := fun driving =>
    driving.1 (commanded_withdrawn withdraws)
  have silent := commanded_idle_silent sound idle
  rcases withdrawn withdraws held with ⟨e, mem, written⟩ | pending
  · exact .inl ⟨e, commanded_log_subset host sound mem, written⟩
  · obtain ⟨es, moved, calls, steps, ends⟩ := next_moves host sound
    rcases Custody.steps_keep steps with ⟨e, mem, verified⟩ | kept
    · -- AUTO was seen, and no takeover was asked for after it
      have seen : (s.calls host).any (·.seesAuto) := List.any_eq_true.mpr
        ⟨e, calls ▸ List.mem_append_right _ mem, Event.seesAuto_of_verifiesAuto verified⟩
      rw [exposed_silent history silent, seen] at exposing
      simp at exposing
    · refine .inr ?_
      rcases ends with custody | custody
      · rw [custody]
        exact kept.2 pending
      · rw [custody]
        exact kept.2 pending

/-- A `returnToAuto` that hands the fan back releases it, unless it is not owned and
was exposed before. -/
theorem releases_lost (lost : (s.decided host).1 = .returnToAuto)
    (handsBack : (s.sensed host).2.HandsBack) {history : List Event}
    (covered : (s.sensed host).2.autoRestorePending = false →
      (s.sensed host).2.manualArmed = false →
      exposed (history ++ (s.sensed host).2.log) = false) :
    s.Releases host history := by
  have withheld := acted_withheld lost handsBack
  obtain ⟨es, log, retreats⟩ := sensed_retreats (.inr lost) withheld
  intro exposing
  rw [calls_eq] at exposing ⊢
  rw [next_toCustody]
  rcases retreats.ends with pending | ⟨-, e, mem, written⟩ | ⟨pending, armed⟩
  · exact .inr pending
  · exact .inl ⟨e, log ▸ List.mem_append_right _ mem, written⟩
  · cases held : (s.checked host).1.autoRestorePending with
    | true => exact .inr rfl
    | false =>
        have free : (s.checked host).1.manualArmed = false :=
          ((Frame.l1Poll_retreats _ withheld).withheld withheld).resolve_left fun pending =>
            Bool.noConfusion (held.symm.trans pending)
        have unexposed := covered (pending.symm.trans held) (armed.symm.trans free)
        rw [log, ← List.append_assoc, exposed_silent _ retreats.silent, unexposed] at exposing
        cases exposing

/-- In any reached state: an observe command releases a fan that may be in Manual
exactly if the fan is owned or being released, or nothing was exposed, or the poll's
look at the fan settles it; a `returnToAuto` does if it hands the fan back, and a fan
it finds neither owned nor being released was not exposed. -/
theorem takeover_released {history : List Event} (reach : Reachable s history) (host : Host) :
    (s.Withdraws host →
      (s.Releases host history ↔ s.manualArmed = true ∨ s.autoRestorePending = true ∨
        exposed history = false ∨ s.LookSettles)) ∧
    ((s.decided host).1 = .returnToAuto → (s.sensed host).2.HandsBack →
      ((s.sensed host).2.autoRestorePending = false → (s.sensed host).2.manualArmed = false →
        exposed (history ++ (s.sensed host).2.log) = false) →
      s.Releases host history) := by
  refine ⟨fun withdraws => ?_, fun lost handsBack covered => releases_lost lost handsBack covered⟩
  cases armed : s.manualArmed with
  | true => simp [releases_held (reach_sound reach) withdraws (.inl armed) history]
  | false =>
      cases pending : s.autoRestorePending with
      | true => simp [releases_held (reach_sound reach) withdraws (.inr pending) history]
      | false => simpa using releases_unheld withdraws armed pending history

end Runs

section Withdrawn

attribute [local instance] Bench.json

/-- A bench daemon in Hold 3000 after one poll, which asks for its takeover; `mode`
prepares the answers to its mode writes. -/
def takingDaemon (mode : List (Option SmcError)) : Supervisor Bench :=
  loop.run [Bench.quiet] (Bench.daemon { Bench.healthy with mode := mode } (.hold 3000))

/-- Every call up to then. -/
def takingHistory (mode : List (Option SmcError)) : List Event :=
  ((Supervisor.wired { Bench.healthy with mode := mode } Bench.config (.hold 3000)
      Bench.paths).started Bench.quiet).log
    ++ loop.trace [Bench.quiet] (Bench.daemon { Bench.healthy with mode := mode } (.hold 3000))

/-- A verified takeover whose release is refused twice is still being released. -/
theorem takeover_released_verified :
    (takingDaemon [none, some Bench.refused, some Bench.refused]).Releases
      (Bench.commanding Bench.observeText)
      (takingHistory [none, some Bench.refused, some Bench.refused]) :=
  ((takeover_released (Bench.daemon_reachable _ ⟨rfl, rfl⟩ (.hold 3000) [Bench.quiet])
    (Bench.commanding Bench.observeText)).1 (by decide)).mpr (.inl (by decide))

/-- A refused takeover is not released by an observe command: the daemon ends in
Observe, with nothing pending and no AUTO written. -/
theorem takeover_released_refused :
    (∃ history, history = takingHistory [some Bench.refused] ∧
      Reachable (takingDaemon [some Bench.refused]) history) ∧
      (takingDaemon [some Bench.refused]).Withdraws (Bench.commanding Bench.observeText) ∧
      ¬ (takingDaemon [some Bench.refused]).Releases (Bench.commanding Bench.observeText)
        (takingHistory [some Bench.refused]) ∧
      ((takingDaemon [some Bench.refused]).next (Bench.commanding Bench.observeText)).mode
        = .observe :=
  ⟨⟨_, rfl, Bench.daemon_reachable _ ⟨rfl, rfl⟩ (.hold 3000) [Bench.quiet]⟩, by decide, by decide,
    by decide⟩

end Withdrawn

end Supervisor

end Afanctl
