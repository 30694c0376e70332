import Afanctl.Supervisor.Fallback
import Afanctl.Supervisor.Served
import Afanctl.Sysfs.Adapter

/-!
How long the adapter's calls sleep.

Only the two verified writes sleep in a poll, each for at most its windows. As the recorded
calls of a poll are the calls made, their weight bounds what the poll sleeps.
-/

namespace Afanctl

open Afanctl.Lib

/-- The sleeps of a verified write with windows of so many milliseconds: one for each sample
of a window but the first, in each attempt. -/
def settleNs (windowMs : Nat) : Nat :=
  (writeRetryMax + 1) * ((echoSettleSamples - 1) * settleStep windowMs)

/-- What a call costs by its kind: `mode` for a mode write, `speed` for a speed write. -/
def Event.cost (mode speed : Nat) (e : Event) : Nat :=
  match e.op with
  | .setMode _ _ => mode
  | .writeSpeed _ _ => speed
  | _ => 0

variable {δ : Type} [Sysfs δ] {n : Nat}

theorem settleWrite_within {path payload : String} {wrote windowMs : Nat}
    {readBack : World δ → Except SmcError Nat × World δ} {accepted : Nat → Bool}
    (quiet : ∀ w, World.Within 0 w (readBack w).2) (w : World δ) :
    World.Within (settleNs windowMs) w
      (settleWrite path payload wrote windowMs readBack accepted w).2 := by
  unfold settleNs settleWrite
  exact settleAttempts_within quiet _ (none, w)

theorem within_readSensorFiles (files : List (String × String)) (w : World δ) :
    World.Within n w (readSensorFiles files w).2 := by
  induction files generalizing w with
  | nil => exact World.within_refl w
  | cons file rest ih =>
      have read : World.Within 0 w (readSensor file.1 file.2 w).2 := by
        have read : World.Within 0 w (w.read file.1).2 := World.within_read ..
        unfold readSensor
        split
        · next eq => rw [eq] at read; exact read
        · next eq =>
            rw [eq] at read
            split <;> exact read
      exact (read.trans (ih _)).mono (Nat.le_of_eq (Nat.zero_add n))

namespace SysfsSmc

theorem within_readMode (s : SysfsSmc δ) (w : World δ) : World.Within n w (s.readMode w).2 := by
  have read : World.Within n w (w.readString s.modePath).2 := World.within_readString ..
  unfold readMode
  split <;> next eq => rw [eq] at read; exact read

theorem within_modeValue (s : SysfsSmc δ) (w : World δ) :
    World.Within n w (s.modeValue w).2 := by
  have read : World.Within n w (s.readMode w).2 := s.within_readMode w
  unfold modeValue
  split <;> next eq => rw [eq] at read; exact read

theorem within_readFan (s : SysfsSmc δ) : World.Within n s.world s.readFan.2 := by
  have read : World.Within n s.world (s.world.readU32 (s.join "fan1_input")).2 :=
    World.within_readU32 ..
  unfold readFan
  split
  · next eq => rw [eq] at read; exact read
  · next w eq =>
      rw [eq] at read
      have moded : World.Within 0 w (s.readMode w).2 := s.within_readMode w
      split <;> next eq => rw [eq] at moded; exact read.trans moded

theorem within_writeSpeed (rpm : Nat) (s : SysfsSmc δ) :
    World.Within (settleNs echoSettleMs) s.world (s.writeSpeed rpm).2 :=
  settleWrite_within (World.within_readU32 s.out) _

theorem within_setMode (mode : FanMode) (s : SysfsSmc δ) :
    World.Within (settleNs modeSettleMs) s.world (s.setMode mode).2 := by
  have settled : World.Within (settleNs modeSettleMs) s.world (settleWrite s.modePath
      (s.abi.token mode) (s.abi.tokenValue mode) modeSettleMs s.modeValue
      (· == s.abi.tokenValue mode) s.world).2 :=
    settleWrite_within s.within_modeValue _
  unfold setMode
  simp only
  split <;> next eq => rw [eq] at settled; exact settled

end SysfsSmc

/-- Recorded calls sleep no longer than they cost. -/
theorem serves_within {mode speed : Nat} (modes : settleNs modeSettleMs ≤ mode)
    (speeds : settleNs echoSettleMs ≤ speed) {s s' : SysfsSmc δ} {es : List Event}
    (serves : Serves s es s') :
    World.Within (weight (Event.cost mode speed) es) s.world s'.world := by
  induction serves with
  | refl => exact World.within_refl _
  | tail before last ih =>
      rw [weight_append]
      refine ih.trans ?_
      cases last with
      | readSensors => exact within_readSensorFiles _ _
      | readFan => exact SysfsSmc.within_readFan _
      | writeSpeed site rpm => exact (SysfsSmc.within_writeSpeed rpm _).mono speeds
      | setMode site requested => exact (SysfsSmc.within_setMode requested _).mono modes

end Afanctl
