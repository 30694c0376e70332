import Afanctl.Supervisor.Reach
import Afanctl.Supervisor.Served

/-!
A whole run as calls on its backend.

Startup makes one call that no poll makes, the arm-time probe. With it, what is recorded from
construction on is, made call by call, what happened to the backend.
-/

namespace Afanctl

open Afanctl.Lib

variable {σ : Type} [Smc σ]

/-- One recorded call of a run, the probe of startup included. -/
inductive Ask : σ → List Event → σ → Prop where
  | serve {smc smc' : σ} {es : List Event} : Serve smc es smc' → Ask smc es smc'
  | probe {smc : σ} (site : Site) (c : Custody) :
      Ask smc [⟨site, .probeSafeRestore (Smc.probeSafeRestore smc).1, c⟩]
        (Smc.probeSafeRestore smc).2

/-- Recorded calls of a run, made one after the other. -/
abbrev Asks : σ → List Event → σ → Prop := Steps Ask

theorem Serves.asks {smc smc' : σ} {es : List Event} (serves : Serves smc es smc') :
    Asks smc es smc' := by
  induction serves with
  | refl => exact .refl _
  | tail _ last ih => exact ih.tail (.serve last)

namespace Frame

variable {p : Frame σ}

/-- The probe is one call, whatever it answers. -/
theorem armL2_probes (p : Frame σ) :
    p.armL2.log
        = p.log ++ [⟨.run, .probeSafeRestore (Smc.probeSafeRestore p.smc).1, p.toCustody⟩] ∧
      p.armL2.smc = (Smc.probeSafeRestore p.smc).2 := by
  cases answer : (Smc.probeSafeRestore p.smc).1 with
  | ok restore =>
      rw [armL2_ok answer, ← answer]
      exact ⟨rfl, rfl⟩
  | error e =>
      refine ⟨(armL2_error answer).2, ?_⟩
      simp only [armL2, probeSafeRestore, answer]
      split <;> rfl

theorem faithful_reconcileStaleState (inherited : Except SmcError FanMode) (p : Frame σ) :
    Faithful p (p.reconcileStaleState inherited) := by
  cases inherited with
  | error e =>
      unfold reconcileStaleState
      simp only
      split
      · exact .refl p
      · exact .of_eq rfl rfl
  | ok mode =>
      cases mode with
      | auto => exact .refl p
      | manual =>
          have asked := faithful_setMode .reconcile .auto p
          cases answer : (Smc.setMode .auto p.smc).1 with
          | ok mode =>
              refine asked.trans (.of_eq ?_ ?_) <;>
                simp [reconcileStaleState, setMode, answer, noteRecent]
          | error e =>
              refine asked.trans (.of_eq ?_ ?_) <;>
                simp [reconcileStaleState, setMode, answer, noteRecent, degradeStartupToObserve]

end Frame

namespace Supervisor

/-- The second call of startup is the probe. -/
theorem started_probes (host : Host) (s : Supervisor σ) :
    ∃ es, (s.started host).log = (s.inherited host).log
      ++ ⟨.run, .probeSafeRestore (Smc.probeSafeRestore (s.inherited host).smc).1,
        (s.inherited host).toCustody⟩ :: es := by
  obtain ⟨probeLog, -⟩ := Frame.armL2_probes (s.inherited host)
  obtain ⟨es, log, -⟩ := Frame.faithful_reconcileStaleState
    ((Smc.readFan s.smc).1.map (·.mode)) (s.inherited host).armL2
  refine ⟨es, ?_⟩
  have whole : (s.started host).log = (s.inherited host).armL2.log ++ es := log
  rw [whole, probeLog, List.append_assoc, List.singleton_append]

/-- The calls of startup, made on the backend it found, leave the backend it left. -/
theorem started_asked (host : Host) (s : Supervisor σ) :
    Asks s.smc (s.started host).log (s.start host).smc := by
  have looked : Asks s.smc (s.inherited host).log (s.inherited host).smc :=
    .single (.serve (.readFan .run _))
  obtain ⟨probeLog, probed⟩ := Frame.armL2_probes (s.inherited host)
  obtain ⟨es, log, serves⟩ := Frame.faithful_reconcileStaleState
    ((Smc.readFan s.smc).1.map (·.mode)) (s.inherited host).armL2
  have armed := looked.tail (.probe .run (s.inherited host).toCustody)
  rw [probed] at serves
  have whole := armed.trans serves.asks
  rw [← probeLog, ← log] at whole
  exact whole

variable [SerdeJson]

/-- The calls of the polls, made on the backend the first one found, leave the backend the
last one left. -/
theorem trace_asked (hosts : List Host) (s : Supervisor σ) :
    Asks s.smc (loop.trace hosts s) (loop.run hosts s).smc := by
  induction hosts generalizing s with
  | nil => exact .refl _
  | cons host hosts ih => exact (calls_served host s).asks.trans (ih (s.next host))

end Supervisor

end Afanctl
