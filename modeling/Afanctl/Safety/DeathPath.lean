import Afanctl.Bench
import Afanctl.Supervisor.FirstPoll
import Afanctl.Verbs

/-!
The death path under the one-shot verbs.

From a verb's first takeover until AUTO is verified, or a failure reported, a death of the
process must restore the fan: the armed descriptor must have been proven on a handle that
is still open. `once` drops the handle with its supervisor before it restores AUTO, and
drives the fan whether its probe passed or not; the roundtrip test never arms anything. So
they keep the promise exactly where they do not take the fan over.
-/

namespace Afanctl

open Afanctl.Lib

namespace Deed

/-- A takeover. -/
def takesOver (d : Deed) : Bool :=
  match d with
  | .called _ (.setMode .manual _) => true
  | _ => false

/-- A control write: a takeover or a speed write. -/
def control (d : Deed) : Bool :=
  match d with
  | .called _ (.setMode .manual _) => true
  | .called _ (.writeSpeed _ _) => true
  | _ => false

/-- A call goes to no handle but this one. -/
def On (handle : Nat) (d : Deed) : Prop :=
  match d with
  | .called h _ => h = handle
  | _ => True

/-- AUTO was verified, or a failure reported. -/
def ends (d : Deed) : Bool :=
  match d with
  | .called _ (.setMode .auto (.ok _)) => true
  | .reported false => true
  | _ => false

end Deed

/-- What a verb has armed, proven and closed, and whether it answers for the fan. -/
structure Watch where
  armed : Option SafeRestore
  /-- the descriptors proven, each with the handle that was probed -/
  proven : List (Nat × SafeRestore)
  dropped : List Nat
  /-- Manual was asked for, and neither AUTO verified nor a failure reported since -/
  exposed : Bool

namespace Watch

/-- A process that has just started. -/
def fresh : Watch := ⟨none, [], [], false⟩

/-- The armed descriptor is usable, and a probe proved it on a handle still open. -/
def Live (w : Watch) : Prop :=
  isArmed w.armed = true ∧ ∃ proof ∈ w.proven, w.armed = some proof.2 ∧ proof.1 ∉ w.dropped

instance (w : Watch) : Decidable w.Live := inferInstanceAs (Decidable (_ ∧ _))

/-- What a deed changes. -/
def after (d : Deed) (w : Watch) : Watch :=
  match d with
  | .called handle (.probeSafeRestore (.ok restore)) =>
      { w with proven := (handle, restore) :: w.proven }
  | .installDeathPath restore => { w with armed := some restore }
  | .dropped handle => { w with dropped := handle :: w.dropped }
  | d => { w with exposed := d.takesOver || (w.exposed && !d.ends) }

/-- The watch of a verb. -/
def machine : Machine Deed Watch Unit where
  next := after
  out _ _ := []

end Watch

/-- Whenever the verb answers for the fan, the death path is live. -/
def Guarded (deeds : List Deed) : Prop :=
  Watch.machine.Along (fun d w => (w.after d).exposed = true → (w.after d).Live) deeds Watch.fresh

instance (deeds : List Deed) : Decidable (Guarded deeds) :=
  inferInstanceAs (Decidable (Machine.Along ..))

/-- A verb's promise on the backend it opened: its deeds are guarded, and where the restore
probe fails there is no control write. -/
def Protects {σ : Type} [Smc σ] (opened : Except SmcError σ) (deeds : List Deed) : Prop :=
  Guarded deeds ∧ ∀ smc e, opened = .ok smc → (Smc.probeSafeRestore smc).1 = .error e →
    ∀ d ∈ deeds, ¬ d.control

/-! ### Watching deeds -/

namespace Watch

variable {d : Deed} {w : Watch} {deeds : List Deed}

theorem after_exposed (d : Deed) (w : Watch) :
    (w.after d).exposed = (d.takesOver || (w.exposed && !d.ends)) := by
  unfold after
  split
  · simp [Deed.takesOver, Deed.ends]
  · simp [Deed.takesOver, Deed.ends]
  · simp [Deed.takesOver, Deed.ends]
  · rfl

/-- The handles whose descriptors are proven were probed. -/
theorem after_proven {handle : Nat} (own : d.On handle)
    (proven : ∀ proof ∈ w.proven, proof.1 = handle) :
    ∀ proof ∈ (w.after d).proven, proof.1 = handle := by
  unfold after
  split
  · simp only [List.forall_mem_cons]
    exact ⟨own, proven⟩
  · exact proven
  · exact proven
  · exact proven

/-- A verb that has taken over, and not ended it, answers for the fan. -/
theorem exposed_of_takeover (taken : ∃ d ∈ deeds, d.takesOver) (open' : ∀ d ∈ deeds, ¬ d.ends)
    (w : Watch) : (machine.run deeds w).exposed = true := by
  obtain ⟨d, mem, takes⟩ := taken
  obtain ⟨before, rest, rfl⟩ := List.append_of_mem mem
  have open' : ∀ d ∈ rest, ¬ d.ends := fun e mem => open' e (by simp [mem])
  rw [Machine.run_append]
  show (machine.run rest ((machine.run before w).after d)).exposed = true
  refine Machine.run_invariant (P := fun d _ => ¬ Deed.ends d)
    (I := fun w : Watch => w.exposed = true) ?_ (Machine.Along.of_mem open' _) ?_
  · intro d w open' exposed
    show (w.after d).exposed = true
    rw [after_exposed, exposed, Bool.eq_false_iff.mpr open']
    simp
  · rw [after_exposed, takes]
    rfl

/-- Deeds on one handle prove descriptors of that handle only. -/
theorem proven_of_handle {handle : Nat} (own : ∀ d ∈ deeds, d.On handle)
    (proven : ∀ proof ∈ w.proven, proof.1 = handle) :
    ∀ proof ∈ (machine.run deeds w).proven, proof.1 = handle :=
  Machine.run_invariant (P := fun d _ => Deed.On handle d)
    (I := fun w : Watch => ∀ proof ∈ w.proven, proof.1 = handle)
    (fun own proven => after_proven own proven) (Machine.Along.of_mem own w) proven

end Watch

/-- A verb that never takes over is guarded. -/
theorem guarded_of_calm {deeds : List Deed} (calm : ∀ d ∈ deeds, ¬ d.takesOver) :
    Guarded deeds := by
  refine Machine.along_invariant (P := fun d _ => ¬ Deed.takesOver d)
    (I := fun w : Watch => w.exposed = false) ?_ ?_ (Machine.Along.of_mem calm _) rfl
  · intro d w calm covered
    show (w.after d).exposed = false
    rw [Watch.after_exposed, covered, Bool.eq_false_iff.mpr calm]
    rfl
  · intro d w calm covered exposed
    rw [Watch.after_exposed, covered, Bool.eq_false_iff.mpr calm] at exposed
    cases exposed

/-- A verb that takes over on one handle, and drops the handle before it ends that, is not. -/
theorem not_guarded_of_dropped {handle : Nat} {deeds rest : List Deed}
    (own : ∀ d ∈ deeds, d.On handle)
    (taken : ∃ d ∈ deeds, d.takesOver) (open' : ∀ d ∈ deeds, ¬ d.ends) :
    ¬ Guarded (deeds ++ .dropped handle :: rest) := by
  intro guarded
  have exposed := Watch.exposed_of_takeover taken open' Watch.fresh
  have proven := Watch.proven_of_handle (w := Watch.fresh) own nofun
  obtain ⟨-, proof, mem, -, held⟩ := (Machine.along_append.mp guarded).2.1 (by
    rw [Watch.after_exposed, exposed]
    rfl)
  exact held (proven proof mem ▸ List.mem_cons_self)

/-! ### The verbs -/

namespace Deed

theorem not_takesOver_of_not_control {d : Deed} (quiet : ¬ d.control) : ¬ d.takesOver := by
  cases d with
  | called handle op =>
      cases op with
      | setMode mode => cases mode with
        | manual => exact quiet
        | auto => nofun
      | _ => nofun
  | _ => nofun

theorem not_control_of_read {e : Event} {handle : Nat} (read : ¬ e.changing) :
    ¬ (called handle e.op).control := by
  obtain ⟨site, op, custody⟩ := e
  cases op with
  | setMode mode => exact absurd rfl read
  | writeSpeed rpm => exact absurd rfl read
  | _ => nofun

theorem not_ends_of_kept {e : Event} {handle : Nat} (kept : ¬ e.autoAttempt) :
    ¬ (called handle e.op).ends := by
  obtain ⟨site, op, custody⟩ := e
  cases op with
  | setMode mode => cases mode with
    | manual => nofun
    | auto => exact absurd rfl kept
  | _ => nofun

end Deed

section Once

variable {σ : Type} [Smc σ]

/-- Arming probes handle 0 and writes nothing else. -/
theorem armOnce_deeds (smc : σ) : ∀ d ∈ (armOnce smc).1,
    d.On 0 ∧ ¬ d.ends ∧ ¬ d.control := by
  unfold armOnce
  cases (Smc.probeSafeRestore smc).1 with
  | ok restore =>
      simp only [List.forall_mem_cons]
      exact ⟨⟨rfl, nofun, nofun⟩, ⟨trivial, nofun, nofun⟩, nofun⟩
  | error e =>
      simp only [List.forall_mem_singleton]
      exact ⟨rfl, nofun, nofun⟩

theorem restoreAutoOnExit_deeds (reopen : σ → Except SmcError σ) (smc : σ) :
    ∀ d ∈ (restoreAutoOnExit reopen smc).1, ¬ d.control := by
  unfold restoreAutoOnExit
  cases reopen smc with
  | error e => nofun
  | ok smc =>
      simp only [List.forall_mem_cons]
      exact ⟨nofun, nofun, nofun⟩

variable [SerdeJson] {smc : σ} {config : Config} {paths : RuntimePaths} {host : Host}

/-- The config is accepted on the backend, and the poll takes over. -/
def PollTakesOver (config : Config) (paths : RuntimePaths) (host : Host) (smc : σ) : Prop :=
  config.validate (Smc.hwMinRpm smc, Smc.hwMaxRpm smc) = .ok () ∧
    (Supervisor.wired smc (.ofConfig config) .curve paths).TakesOver host

theorem pollOnce_takes (takes : PollTakesOver config paths host smc) :
    ∃ deeds, (pollOnce config paths host smc).1 = deeds ++ [.dropped 0] ∧
      (∀ d ∈ deeds, d.On 0 ∧ ¬ d.ends) ∧
      ∃ d ∈ deeds, d.takesOver := by
  have rest := Supervisor.wired_atRest smc (.ofConfig config) paths
  have wired : Supervisor.new smc (.ofConfig config) .curve paths = .ok (.wired smc ..) :=
    Supervisor.new_eq_ok.mpr ⟨takes.1, rfl⟩
  obtain ⟨kept, e, mem, answer, op⟩ := rest.takes takes.2
  unfold pollOnce
  rw [wired]
  refine ⟨_, rfl, ?_, .called 0 e.op, List.mem_map_of_mem mem, ?_⟩
  · simp only [List.forall_mem_map]
    exact fun e mem => ⟨rfl, Deed.not_ends_of_kept (kept e mem)⟩
  · rw [op]
    rfl

theorem pollOnce_spares (spared : ¬ PollTakesOver config paths host smc) :
    ∀ d ∈ (pollOnce config paths host smc).1, ¬ d.control := by
  unfold pollOnce
  cases wired : Supervisor.new smc (.ofConfig config) .curve paths with
  | error e =>
      simp only [List.forall_mem_singleton]
      nofun
  | ok supervisor =>
      obtain ⟨valid, rfl⟩ := Supervisor.new_eq_ok.mp wired
      have rest := Supervisor.wired_atRest smc (.ofConfig config) paths
      have reads := rest.spares fun takes => spared ⟨valid, takes⟩
      simp only [List.forall_mem_append, List.forall_mem_map, List.forall_mem_singleton]
      exact ⟨fun e mem => Deed.not_control_of_read (reads e mem), nofun⟩

/-- The live path of `once` takes the fan over: the backend opens, and on what its probe
leaves the poll takes over. -/
def OnceTakesOver (opened : Except SmcError σ) (config : Config) (paths : RuntimePaths)
    (host : Host) : Prop :=
  ∃ smc, opened = .ok smc ∧ PollTakesOver config paths host (Smc.probeSafeRestore smc).2

variable {opened : Except SmcError σ} {reopen : σ → Except SmcError σ}

theorem liveOnceReport_takes (takes : OnceTakesOver opened config paths host) :
    ¬ Guarded (liveOnceReport opened reopen config paths host).1 := by
  obtain ⟨smc, rfl, takes⟩ := takes
  have arming := armOnce_deeds smc
  have takes : PollTakesOver config paths { host with isArmed := isArmed (armOnce smc).2 }
      (Smc.probeSafeRestore smc).2 := takes
  obtain ⟨deeds, polling, all, d, mem, taken⟩ := pollOnce_takes takes
  simp only [liveOnceReport, polling, List.append_assoc, List.singleton_append]
  rw [← List.append_assoc]
  refine not_guarded_of_dropped ?_ ⟨d, List.mem_append_right _ mem, taken⟩ ?_
  · exact List.forall_mem_append.mpr ⟨fun d mem => (arming d mem).1, fun d mem => (all d mem).1⟩
  · exact List.forall_mem_append.mpr ⟨fun d mem => (arming d mem).2.1, fun d mem => (all d mem).2⟩

theorem liveOnceReport_spares (reopen : σ → Except SmcError σ)
    (spared : ¬ OnceTakesOver opened config paths host) :
    ∀ d ∈ (liveOnceReport opened reopen config paths host).1, ¬ d.control := by
  cases opened with
  | error e =>
      simp only [liveOnceReport, List.forall_mem_singleton]
      nofun
  | ok smc =>
      have arming := armOnce_deeds smc
      have spared : ¬ PollTakesOver config paths { host with isArmed := isArmed (armOnce smc).2 }
          (Smc.probeSafeRestore smc).2 := fun takes => spared ⟨smc, rfl, takes⟩
      have polling := pollOnce_spares spared
      simp only [liveOnceReport, List.forall_mem_append, List.forall_mem_singleton]
      exact ⟨⟨⟨fun d mem => (arming d mem).2.2, polling⟩, restoreAutoOnExit_deeds reopen _⟩, nofun⟩

end Once

section Roundtrip

variable {σ : Type} [Smc σ] {smc : σ}

theorem roundtripManualTest_refuses (hold : Nat) (unopened : Smc.safeRestore smc = none) :
    (roundtripManualTest smc hold).1 = [.reported false] := by
  simp only [roundtripManualTest, unopened]

/-- The takeover of the roundtrip test finds nothing armed. -/
theorem roundtripManualTest_takes (hold : Nat) {restore : SafeRestore}
    (present : Smc.safeRestore smc = some restore) :
    ¬ Guarded (roundtripManualTest smc hold).1 := by
  simp only [roundtripManualTest, present]
  intro guarded
  have live : isArmed Watch.fresh.armed = true := (guarded.1 rfl).1
  cases live

end Roundtrip

/-- The verbs keep their promise exactly where they do not take the fan over: `once` where
its poll does not, the roundtrip test where it refuses to write. -/
theorem verbs_protect_iff {σ : Type} [Smc σ] [SerdeJson] :
    (∀ (opened : Except SmcError σ) (reopen : σ → Except SmcError σ) (config : Config)
        (paths : RuntimePaths) (host : Host),
      Protects opened (liveOnceReport opened reopen config paths host).1 ↔
        ¬ OnceTakesOver opened config paths host) ∧
    (∀ (smc : σ) (hold : Nat), Protects (.ok smc) (roundtripManualTest smc hold).1 ↔
      Smc.safeRestore smc = none) := by
  constructor
  · intro opened reopen config paths host
    constructor
    · rintro ⟨guarded, -⟩ takes
      exact liveOnceReport_takes takes guarded
    · intro spared
      have quiet := liveOnceReport_spares reopen spared
      exact ⟨guarded_of_calm fun d mem => Deed.not_takesOver_of_not_control (quiet d mem),
        fun smc e _ _ => quiet⟩
  · intro smc hold
    constructor
    · rintro ⟨guarded, -⟩
      cases present : Smc.safeRestore smc with
      | none => rfl
      | some restore => exact absurd guarded (roundtripManualTest_takes hold present)
    · intro unopened
      rw [roundtripManualTest_refuses hold unopened]
      have quiet : ∀ d ∈ [Deed.reported false], ¬ d.control := by
        simp only [List.forall_mem_singleton]
        nofun
      exact ⟨guarded_of_calm fun d mem => Deed.not_takesOver_of_not_control (quiet d mem),
        fun smc e _ _ => quiet⟩

section Concrete

attribute [local instance] Bench.json

open Bench

/-- A bench that proves no restore. -/
structure Unproven where
  bench : Bench

instance : Smc Unproven where
  readSensors b := (Smc.readSensors b.bench).map id Unproven.mk
  readFan b := (Smc.readFan b.bench).map id Unproven.mk
  hwMinRpm b := b.bench.hwMin
  hwMaxRpm b := b.bench.hwMax
  writeSpeed rpm b := (Smc.writeSpeed rpm b.bench).map id Unproven.mk
  setMode mode b := (Smc.setMode mode b.bench).map id Unproven.mk
  safeRestore _ := some Bench.restore
  probeSafeRestore b := (.error (.verifyFailed 0 1), b)
  safetyCapabilities b := Smc.safetyCapabilities b.bench

/-- A healthy backend at 70 °C. `once` takes the fan over and closes the proven file before
it restores AUTO; where the probe failed it takes the fan over and writes all the same; and
the roundtrip test takes it over with nothing armed. -/
theorem verbs_unprotected :
    ¬ Protects (.ok healthy) (liveOnceReport (.ok healthy) .ok config.config paths quiet).1 ∧
      ¬ Protects (.ok (Unproven.mk healthy))
        (liveOnceReport (.ok (Unproven.mk healthy)) .ok config.config paths quiet).1 ∧
      ¬ Protects (.ok healthy) (roundtripManualTest healthy 2).1 := by
  refine ⟨fun promise => ?_, fun promise => ?_, fun promise => ?_⟩
  · exact absurd promise.1 (by decide +kernel)
  · exact absurd (promise.2 _ _ rfl rfl) (by decide +kernel)
  · exact absurd promise.1 (by decide +kernel)

end Concrete

end Afanctl
