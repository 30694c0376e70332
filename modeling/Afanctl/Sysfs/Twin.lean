import Afanctl.Bench
import Afanctl.Supervisor.Asked
import Afanctl.Supervisor.Over
import Afanctl.Sysfs.Mock
import Afanctl.Sysfs.Plant

/-!
The mock and the adapter.

The tests of the daemon run on the mock, and the daemon runs on the adapter. Without an
injected fault the mock is what the adapter sees of a fan that behaves as the mock's comments
say, lagging tach and frozen tach included: the same answers to the same calls, and so the
same daemon.
-/

namespace Afanctl

open Afanctl.Lib

/-! ### The mock without faults -/

namespace MockSmc

variable {m : MockSmc}

/-- No fault is injected. A tach that lags or stands still is none. -/
structure Honest (m : MockSmc) : Prop where
  echoes : m.writeStuckRpm = none
  modes : m.modeReadBack = none
  reads : m.fanReadFault = none

/-- Only the registers and the count of attempts differ. -/
def Moved (m m' : MockSmc) : Prop :=
  m' = { m with
    rpm := m'.rpm, outReg := m'.outReg, mode := m'.mode, writeAttempts := m'.writeAttempts }

/-- The tach turns on, up to its read. -/
def turned (m : MockSmc) : MockSmc :=
  match m.lagRate, m.mode with
  | none, _ => m
  | some _, .auto => { m with outReg := m.rpm }
  | some rate, .manual => if m.tachFrozen then m else { m with rpm := m.tachSlew m.rpm rate }

theorem readFan_honest (honest : m.fanReadFault = none) :
    m.readFan = (.ok ⟨m.turned.rpm, m.mode⟩, m.turned) := by
  cases lag : m.lagRate with
  | none => simp [readFan, turned, honest, lag]
  | some rate =>
      cases mode : m.mode with
      | auto => simp [readFan, turned, honest, lag, mode]
      | manual => cases frozen : m.tachFrozen <;> simp [readFan, turned, honest, lag, mode, frozen]

theorem moved_turned (m : MockSmc) : m.Moved m.turned := by
  unfold turned
  split
  · rfl
  · rfl
  · split <;> rfl

/-- With another count of attempts. -/
def attempted (k : Nat) (m : MockSmc) : MockSmc := { m with writeAttempts := k }

/-- A speed write, once it is sampled. -/
def driven (target : Nat) (m : MockSmc) : MockSmc :=
  match m.lagRate, m.mode with
  | none, _ => { m with rpm := target }
  | some _, .manual => { m with outReg := target }
  | some _, .auto => m

theorem moved_driven (target k : Nat) (m : MockSmc) :
    m.Moved ((m.driven target).attempted k) := by
  unfold driven
  split <;> rfl

/-- What its echo reads. -/
def echoed (target : Nat) (m : MockSmc) : Nat :=
  match m.lagRate, m.mode with
  | none, _ => target
  | some _, .manual => target
  | some _, .auto => m.outReg

theorem speedSample_honest (target : Nat) (honest : m.writeStuckRpm = none) (last : Option Nat) :
    speedSample target (last, m)
      = (.ok (decide (absDiff (m.echoed target) target ≤ writeEchoToleranceRpm)),
        (some (m.echoed target), m.driven target)) := by
  cases lag : m.lagRate with
  | none => simp [speedSample, echoSpeed, honest, lag, echoed, driven]
  | some rate =>
      cases mode : m.mode <;> simp [speedSample, echoSpeed, honest, lag, mode, echoed, driven]

/-- Sampling again changes nothing. -/
theorem driven_again (target : Nat) (m : MockSmc) :
    (m.driven target).driven target = m.driven target ∧
      (m.driven target).echoed target = m.echoed target ∧
      (m.driven target).writeStuckRpm = m.writeStuckRpm := by
  cases lag : m.lagRate with
  | none => simp [driven, echoed, lag]
  | some rate => cases mode : m.mode <;> simp [driven, echoed, lag, mode]

theorem driven_attempted (target k : Nat) (m : MockSmc) :
    (m.attempted k).driven target = (m.driven target).attempted k := by
  unfold driven attempted
  simp only
  split <;> rfl

section Attempts

variable {wrote left : Nat} {last : Option Nat} {t : Option Nat × MockSmc}
  {sample : Option Nat × MockSmc → Except SmcError Bool × (Option Nat × MockSmc)}

theorem attempts_taken
    (taken : settle id sample (last, m.attempted (m.writeAttempts + 1)) = (.ok true, t)) :
    attempts wrote sample (left + 1) (last, m) = (.ok (), t.2) := by
  unfold attempted at taken
  simp only [attempts, taken]

theorem attempts_expired
    (expired : settle id sample (last, m.attempted (m.writeAttempts + 1)) = (.ok false, t)) :
    attempts wrote sample (left + 1) (last, m) = attempts wrote sample left t := by
  unfold attempted at expired
  simp only [attempts, expired]

end Attempts

/-- A window of a speed write is judged by the one value its echo reads. -/
theorem window_honest (target : Nat) (honest : m.writeStuckRpm = none) (last : Option Nat) :
    settle id (speedSample target) (last, m)
      = (.ok (decide (absDiff (m.echoed target) target ≤ writeEchoToleranceRpm)),
        (some (m.echoed target), m.driven target)) := by
  have first := speedSample_honest target honest last
  obtain ⟨again, echo, stuck⟩ := m.driven_again target
  by_cases near : absDiff (m.echoed target) target ≤ writeEchoToleranceRpm
  · rw [decide_eq_true near] at first ⊢
    exact settleFrom_taken first
  · rw [decide_eq_false near]
    have rejects : ∀ {t : Option Nat × MockSmc}, t.2 = m ∨ t.2 = m.driven target →
        ∃ t', speedSample target t = (.ok false, t') ∧
          t' = (some (m.echoed target), m.driven target) := by
      rintro ⟨seen, here⟩ (rfl | rfl)
      · exact ⟨_, decide_eq_false near ▸ speedSample_honest target honest seen, rfl⟩
      · have sampled := speedSample_honest target (stuck.trans honest) seen
        rw [again, echo, decide_eq_false near] at sampled
        exact ⟨_, sampled, rfl⟩
    obtain ⟨t, expired, rfl⟩ := @settleFrom_expires _ id (speedSample target)
      (fun t => t.2 = m ∨ t.2 = m.driven target)
      (fun t => t = (some (m.echoed target), m.driven target))
      (fun ends => .inr (congrArg Prod.snd ends)) rejects 0 (echoSettleSamples - 1) (last, m)
      (.inl rfl)
    exact expired

/-- So is the write. -/
theorem writeSpeed_honest (honest : m.writeStuckRpm = none) (rpm : Nat) :
    ∃ k, m.writeSpeed rpm
      = (if absDiff (m.echoed (clamp m.hwMin m.hwMax rpm)) (clamp m.hwMin m.hwMax rpm)
            ≤ writeEchoToleranceRpm then .ok (clamp m.hwMin m.hwMax rpm)
          else .error (.verifyFailed (clamp m.hwMin m.hwMax rpm)
            (m.echoed (clamp m.hwMin m.hwMax rpm))),
        (m.driven (clamp m.hwMin m.hwMax rpm)).attempted k) := by
  unfold writeSpeed
  simp only
  generalize clamp m.hwMin m.hwMax rpm = target
  have first (k : Nat) : settle id (speedSample target) (none, m.attempted k)
      = (.ok (decide (absDiff (m.echoed target) target ≤ writeEchoToleranceRpm)),
        (some (m.echoed target), (m.driven target).attempted k)) := by
    have window := window_honest target (m := m.attempted k) honest none
    rw [driven_attempted] at window
    exact window
  -- the register is left as it was sampled, and the second window finds it so
  have second (k : Nat) :
      settle id (speedSample target) (some (m.echoed target), (m.driven target).attempted k)
        = (.ok (decide (absDiff (m.echoed target) target ≤ writeEchoToleranceRpm)),
          (some (m.echoed target), (m.driven target).attempted k)) := by
    obtain ⟨again, echo, stuck⟩ := m.driven_again target
    have window := window_honest target (m := (m.driven target).attempted k)
      (stuck.trans honest) (some (m.echoed target))
    rw [driven_attempted, again] at window
    rw [← echo]
    exact window
  by_cases near : absDiff (m.echoed target) target ≤ writeEchoToleranceRpm
  · refine ⟨m.writeAttempts + 1, ?_⟩
    rw [attempts_taken ((first _).trans (by rw [decide_eq_true near])), if_pos near]
    rfl
  · refine ⟨m.writeAttempts + 1 + 1, ?_⟩
    have again : attempts target (speedSample target) (0 + 1)
        (some (m.echoed target), (m.driven target).attempted (m.writeAttempts + 1))
          = attempts target (speedSample target) 0
            (some (m.echoed target), (m.driven target).attempted (m.writeAttempts + 1 + 1)) :=
      attempts_expired ((second _).trans (by rw [decide_eq_false near]; rfl))
    have once : writeRetryMax = 0 + 1 := rfl
    rw [attempts_expired ((first _).trans (by rw [decide_eq_false near])), once, again,
      if_neg near]
    rfl

theorem setMode_honest (honest : m.modeReadBack = none) (mode : FanMode) :
    m.setMode mode = (.ok mode, (m.attempted (m.writeAttempts + 1)).entered mode) := by
  have sampled : modeSample mode (none, m.attempted (m.writeAttempts + 1))
      = (.ok true, (some (modeValue mode), m.attempted (m.writeAttempts + 1))) := by
    simp [modeSample, attempted, honest]
  unfold setMode
  rw [attempts_taken (settleFrom_taken sampled)]

end MockSmc

/-! ### Twins -/

/-- The plant has the mock's registers. The speed register of a mock without lag says nothing. -/
structure Plant.Shows (d : Plant) (m : MockSmc) : Prop where
  rpm : d.rpm = m.rpm
  mode : d.mode = m.mode
  lagRate : d.lagRate = m.lagRate
  frozen : d.frozen = m.tachFrozen
  outReg : m.lagRate ≠ none → d.outReg = m.outReg

/-- No speed in the registers exceeds `top`, and no tach that lags can leave its `u32`. -/
structure MockSmc.Below (top : Nat) (m : MockSmc) : Prop where
  rpm : m.rpm ≤ top
  outReg : m.outReg ≤ top
  hwMax : m.hwMax ≤ top
  room : top + m.lagRate.getD 0 ≤ u32Max

/-- The adapter over a plant, and the mock of the same fan. -/
structure Twin (top : Nat) (m : MockSmc) (a : SysfsSmc Plant) : Prop where
  honest : m.Honest
  below : m.Below top
  fits : a.Fits a.world.device
  shows : a.world.device.Shows m
  hwMin : a.hwMin = m.hwMin
  hwMax : a.hwMax = m.hwMax
  readings : a.sensors.map a.world.device.reading = m.readSensors

namespace Twin

variable {top : Nat} {m m' : MockSmc} {a : SysfsSmc Plant} {d : Plant} {w : World Plant}

/-- Both move on together: what is not a register stays. -/
theorem moved (twin : Twin top m a) (here : w.device = d)
    (fanDir : d.fanDir = a.world.device.fanDir) (abi : d.abi = a.world.device.abi)
    (temps : d.temps = a.world.device.temps) (frame : m.Moved m') (shows : d.Shows m')
    (rpm : m'.rpm ≤ top) (outReg : m'.outReg ≤ top) : Twin top m' { a with world := w } := by
  subst here
  have reading : w.device.reading = a.world.device.reading := by
    unfold Plant.reading Plant.celsius
    rw [temps]
  unfold MockSmc.Moved at frame
  refine ⟨?_, ⟨rpm, outReg, ?_, ?_⟩, twin.fits.moved rfl fanDir abi, shows, ?_, ?_, ?_⟩
  · rw [frame]
    exact ⟨twin.honest.echoes, twin.honest.modes, twin.honest.reads⟩
  · rw [frame]
    exact twin.below.hwMax
  · rw [frame]
    exact twin.below.room
  · rw [frame]
    exact twin.hwMin
  · rw [frame]
    exact twin.hwMax
  · rw [frame]
    show a.sensors.map w.device.reading = _
    rw [reading]
    exact twin.readings

end Twin

/-! ### The registers move alike -/

section Registers

variable {top : Nat} {m : MockSmc} {d : Plant}

theorem MockSmc.Below.turned (below : m.Below top) :
    m.turned.rpm ≤ top ∧ m.turned.outReg ≤ top := by
  obtain ⟨rpm, outReg, -, -⟩ := below
  unfold MockSmc.turned
  split
  · exact ⟨rpm, outReg⟩
  · exact ⟨rpm, rpm⟩
  · split
    · exact ⟨rpm, outReg⟩
    · refine ⟨?_, outReg⟩
      show m.tachSlew m.rpm _ ≤ top
      unfold MockSmc.tachSlew
      split <;> omega

/-- The mock's tach turns as the plant's does, and overflows nowhere. -/
theorem Plant.Shows.turned (shows : d.Shows m) (below : m.Below top) :
    d.turned.Shows m.turned := by
  obtain ⟨rpm, mode, lagRate, frozen, outReg⟩ := shows
  cases lag : m.lagRate with
  | none =>
      have here : d.turned = d := by simp [Plant.turned, lagRate, lag]
      have there : m.turned = m := by simp [MockSmc.turned, lag]
      rw [here, there]
      exact ⟨rpm, mode, lagRate, frozen, outReg⟩
  | some rate =>
      cases driving : m.mode with
      | auto =>
          have here : d.turned = { d with outReg := d.rpm } := by
            simp [Plant.turned, lagRate, lag, mode, driving]
          have there : m.turned = { m with outReg := m.rpm } := by
            simp [MockSmc.turned, lag, driving]
          rw [here, there]
          exact ⟨rpm, mode, lagRate, frozen, fun _ => rpm⟩
      | manual =>
          cases stands : m.tachFrozen with
          | true =>
              have here : d.turned = d := by
                simp [Plant.turned, lagRate, lag, mode, driving, frozen, stands]
              have there : m.turned = m := by simp [MockSmc.turned, lag, driving, stands]
              rw [here, there]
              exact ⟨rpm, mode, lagRate, frozen, outReg⟩
          | false =>
              have register : d.outReg = m.outReg := outReg (by simp [lag])
              have room : m.rpm + rate ≤ u32Max := by
                have room := below.room
                rw [lag, Option.getD_some] at room
                exact Nat.le_trans (Nat.add_le_add_right below.rpm rate) room
              have here : d.turned = { d with rpm := m.tachSlew m.rpm rate } := by
                simp [Plant.turned, lagRate, lag, mode, driving, frozen, stands, rpm, register,
                  MockSmc.tachSlew, wrap32_of_le room]
              have there : m.turned = { m with rpm := m.tachSlew m.rpm rate } := by
                simp [MockSmc.turned, lag, driving, stands]
              rw [here, there]
              exact ⟨rfl, mode, lagRate, frozen, outReg⟩

theorem MockSmc.Below.driven {target : Nat} (below : m.Below top) (capped : target ≤ top) :
    (m.driven target).rpm ≤ top ∧ (m.driven target).outReg ≤ top := by
  obtain ⟨rpm, outReg, -, -⟩ := below
  unfold MockSmc.driven
  split
  · exact ⟨capped, outReg⟩
  · exact ⟨rpm, capped⟩
  · exact ⟨rpm, outReg⟩

/-- Both take a speed alike, and read back the same echo. -/
theorem Plant.Shows.driven (shows : d.Shows m) (target k : Nat) :
    (d.driven target).Shows ((m.driven target).attempted k) ∧
      (d.driven target).outReg = m.echoed target := by
  obtain ⟨rpm, mode, lagRate, frozen, outReg⟩ := shows
  cases lag : m.lagRate with
  | none =>
      have here : d.driven target = { d with rpm := target, outReg := target } := by
        simp [Plant.driven, lagRate, lag]
      have there : m.driven target = { m with rpm := target } := by simp [MockSmc.driven, lag]
      have echo : m.echoed target = target := by simp [MockSmc.echoed, lag]
      rw [here, there, echo]
      exact ⟨⟨rfl, mode, lagRate, frozen, fun lags => absurd lag lags⟩, rfl⟩
  | some rate =>
      cases driving : m.mode with
      | manual =>
          have here : d.driven target = { d with outReg := target } := by
            simp [Plant.driven, lagRate, lag, mode, driving]
          have there : m.driven target = { m with outReg := target } := by
            simp [MockSmc.driven, lag, driving]
          have echo : m.echoed target = target := by simp [MockSmc.echoed, lag, driving]
          rw [here, there, echo]
          exact ⟨⟨rpm, mode, lagRate, frozen, fun _ => rfl⟩, rfl⟩
      | auto =>
          have here : d.driven target = d := by simp [Plant.driven, lagRate, lag, mode, driving]
          have there : m.driven target = m := by simp [MockSmc.driven, lag, driving]
          have echo : m.echoed target = m.outReg := by simp [MockSmc.echoed, lag, driving]
          rw [here, there, echo]
          exact ⟨⟨rpm, mode, lagRate, frozen, outReg⟩, outReg (by simp [lag])⟩

/-- Both change their mode alike. -/
theorem Plant.Shows.switched (shows : d.Shows m) (mode : FanMode) (k : Nat) :
    (d.switched mode).Shows ((m.attempted k).entered mode) := by
  obtain ⟨rpm, -, lagRate, frozen, outReg⟩ := shows
  refine ⟨rpm, rfl, lagRate, frozen, fun lags => ?_⟩
  show (if d.lagRate.isSome ∧ mode = .auto then d.rpm else d.outReg)
    = if m.lagRate.isSome ∧ mode = .auto then m.rpm else m.outReg
  rw [lagRate, rpm, outReg lags]

end Registers

namespace Twin

variable {top : Nat} {m : MockSmc} {a : SysfsSmc Plant}

/-! ### The four calls -/

theorem readSensors (twin : Twin top m a) :
    (Smc.readSensors m).1 = (Smc.readSensors a).1 ∧
      Twin top (Smc.readSensors m).2 (Smc.readSensors a).2 := by
  obtain ⟨w, read, left⟩ := twin.fits.readSensorFiles
  have real : Smc.readSensors a = (.ok (readSensorFiles a.sensors a.world).1,
      { a with world := (readSensorFiles a.sensors a.world).2 }) := rfl
  rw [real, read, twin.readings]
  exact ⟨rfl, twin.moved left rfl rfl rfl rfl twin.shows twin.below.rpm twin.below.outReg⟩

theorem readFan (twin : Twin top m a) :
    (Smc.readFan m).1 = (Smc.readFan a).1 ∧
      Twin top (Smc.readFan m).2 (Smc.readFan a).2 := by
  have shows := twin.shows.turned twin.below
  obtain ⟨rpm, outReg⟩ := twin.below.turned
  have fits : a.world.device.turned.rpm ≤ u32Max := by
    rw [shows.rpm]
    exact Nat.le_trans rpm (Nat.le_trans (Nat.le_add_right _ _) twin.below.room)
  obtain ⟨w, read, left⟩ := twin.fits.readFan fits
  have mock : Smc.readFan m = (.ok ⟨m.turned.rpm, m.mode⟩, m.turned) :=
    MockSmc.readFan_honest twin.honest.reads
  have real : Smc.readFan a = (a.readFan.1, { a with world := a.readFan.2 }) := rfl
  rw [mock, real, read, shows.rpm, twin.shows.mode]
  exact ⟨rfl, twin.moved left (Plant.turned_fanDir _) (Plant.turned_abi _) (Plant.turned_temps _)
    m.moved_turned shows rpm outReg⟩

theorem writeSpeed (rpm : Nat) (twin : Twin top m a) :
    (Smc.writeSpeed rpm m).1 = (Smc.writeSpeed rpm a).1 ∧
      Twin top (Smc.writeSpeed rpm m).2 (Smc.writeSpeed rpm a).2 := by
  have capped : clamp m.hwMin m.hwMax rpm ≤ top := by
    rw [← twin.hwMin, ← twin.hwMax]
    exact Nat.le_trans (clamp_mem a.band rpm).2 (twin.hwMax ▸ twin.below.hwMax)
  have small : top ≤ u32Max := Nat.le_trans (Nat.le_add_right _ _) twin.below.room
  obtain ⟨k, wrote⟩ := MockSmc.writeSpeed_honest twin.honest.echoes rpm
  obtain ⟨shows, echo⟩ := twin.shows.driven (clamp m.hwMin m.hwMax rpm) k
  obtain ⟨rpmTop, outTop⟩ := twin.below.driven capped
  have register : (a.world.device.driven (clamp a.hwMin a.hwMax rpm)).outReg ≤ u32Max := by
    rw [twin.hwMin, twin.hwMax, echo]
    unfold MockSmc.echoed
    split
    · exact Nat.le_trans capped small
    · exact Nat.le_trans capped small
    · exact Nat.le_trans twin.below.outReg small
  obtain ⟨w, written, left⟩ := twin.fits.writeSpeed rpm register
  rw [twin.hwMin, twin.hwMax] at written left
  rw [echo] at written
  have mock : Smc.writeSpeed rpm m = m.writeSpeed rpm := rfl
  have real : Smc.writeSpeed rpm a
      = ((a.writeSpeed rpm).1, { a with world := (a.writeSpeed rpm).2 }) := rfl
  rw [mock, wrote, real, written]
  exact ⟨rfl, twin.moved left (Plant.driven_fanDir _ _) (Plant.driven_abi _ _)
    (Plant.driven_temps _ _) (m.moved_driven _ k) shows rpmTop outTop⟩

theorem setMode (mode : FanMode) (twin : Twin top m a) :
    (Smc.setMode mode m).1 = (Smc.setMode mode a).1 ∧
      Twin top (Smc.setMode mode m).2 (Smc.setMode mode a).2 := by
  obtain ⟨w, written, left⟩ := twin.fits.setMode mode
  have mock : Smc.setMode mode m = m.setMode mode := rfl
  have real : Smc.setMode mode a
      = ((a.setMode mode).1, { a with world := (a.setMode mode).2 }) := rfl
  rw [mock, MockSmc.setMode_honest twin.honest.modes, real, written]
  refine ⟨rfl, twin.moved left rfl rfl rfl rfl (twin.shows.switched mode _) twin.below.rpm ?_⟩
  show (if m.lagRate.isSome ∧ mode = .auto then m.rpm else m.outReg) ≤ top
  split
  · exact twin.below.rpm
  · exact twin.below.outReg

/-- So the daemon cannot tell them apart. -/
theorem alike (top : Nat) : Alike (Twin top) where
  readSensors := readSensors
  readFan := readFan
  writeSpeed := writeSpeed
  setMode := setMode

/-! ### The probe -/

/-- Both have a death path, with the same descriptor and payload. -/
structure Armed (m : MockSmc) (a : SysfsSmc Plant) : Prop where
  mock : ∃ fd, m.restoreFile = some ⟨fd, a.abi.auto, none⟩ ∧ a.restoreFile = some fd

/-- The fan read of startup takes neither away, nor changes the mode. -/
theorem Armed.read (armed : Armed m a) (honest : m.fanReadFault = none) :
    Armed (Smc.readFan m).2 (Smc.readFan a).2 ∧ (Smc.readFan m).2.mode = m.mode := by
  have mock : (Smc.readFan m).2 = m.turned := congrArg Prod.snd (MockSmc.readFan_honest honest)
  have frame : m.turned.restoreFile = m.restoreFile ∧ m.turned.mode = m.mode := by
    unfold MockSmc.turned
    split
    · exact ⟨rfl, rfl⟩
    · exact ⟨rfl, rfl⟩
    · split <;> exact ⟨rfl, rfl⟩
  obtain ⟨fd, mockFile, file⟩ := armed.mock
  rw [mock]
  exact ⟨⟨fd, frame.1.trans mockFile, file⟩, frame.2⟩

/-- Over a fan in Auto both prove their restore. -/
theorem probe_auto (twin : Twin top m a) (armed : Armed m a) (auto : m.mode = .auto) :
    (Smc.probeSafeRestore m).1 = (Smc.probeSafeRestore a).1 ∧
      Twin top (Smc.probeSafeRestore m).2 (Smc.probeSafeRestore a).2 := by
  obtain ⟨fd, mockFile, file⟩ := armed.mock
  obtain ⟨w, proven, left⟩ := twin.fits.probeSafeRestore file
  have mock : Smc.probeSafeRestore m = (.ok ⟨fd, a.abi.auto⟩, m.turned) := by
    show m.probeSafeRestore = _
    simp only [MockSmc.probeSafeRestore, mockFile, MockSmc.readFan_honest twin.honest.reads, auto]
  have real : Smc.probeSafeRestore a
      = (a.probeSafeRestore.1, { a with world := a.probeSafeRestore.2 }) := rfl
  obtain ⟨rpm, outReg⟩ := twin.below.turned
  have shows : (a.world.device.switched .auto).Shows m.turned := by
    obtain ⟨rpm, mode, lagRate, frozen, outReg⟩ := twin.shows
    cases lag : m.lagRate with
    | none =>
        have there : m.turned = m := by simp [MockSmc.turned, lag]
        rw [there]
        exact ⟨rpm, auto.symm, lagRate, frozen, fun lags => absurd lag lags⟩
    | some rate =>
        have there : m.turned = { m with outReg := m.rpm } := by
          simp [MockSmc.turned, lag, auto]
        rw [there]
        refine ⟨rpm, auto.symm, lagRate, frozen, fun _ => ?_⟩
        simp [Plant.switched, lagRate, lag, rpm]
  rw [mock, real, proven, ← twin.fits.abi]
  exact ⟨rfl, twin.moved left rfl rfl rfl m.moved_turned shows rpm outReg⟩

/-- Over a fan in Manual the adapter restores it, where the mock only looks at it. -/
theorem probe_manual (twin : Twin top m a) (armed : Armed m a) (manual : m.mode = .manual) :
    (Smc.probeSafeRestore m).1 ≠ (Smc.probeSafeRestore a).1 := by
  obtain ⟨fd, mockFile, file⟩ := armed.mock
  obtain ⟨w, proven, -⟩ := twin.fits.probeSafeRestore file
  have mock : (Smc.probeSafeRestore m).1 = .error (.verifyFailed 0 1) := by
    show m.probeSafeRestore.1 = _
    simp only [MockSmc.probeSafeRestore, mockFile, MockSmc.readFan_honest twin.honest.reads,
      manual]
  have real : (Smc.probeSafeRestore a).1 = a.probeSafeRestore.1 := rfl
  rw [mock, real, proven]
  exact nofun

end Twin

/-! ### The daemon over both -/

namespace Supervisor

variable {top : Nat} {m : MockSmc} {a : SysfsSmc Plant}

/-- Building a daemon looks at the hardware band alone, which both have. -/
theorem new_twin (twin : Twin top m a) (cfg : ResolvedConfig) (start : RunMode)
    (paths : RuntimePaths) :
    (∃ s, Supervisor.new m cfg start paths = .ok s) ↔
      ∃ t, Supervisor.new a cfg start paths = .ok t := by
  have hwMin : Smc.hwMinRpm a = Smc.hwMinRpm m := twin.hwMin
  have hwMax : Smc.hwMaxRpm a = Smc.hwMaxRpm m := twin.hwMax
  simp only [new_eq_ok, hwMin, hwMax, exists_and_left, exists_eq, and_true]

theorem wired_mirrors (twin : Twin top m a) (cfg : ResolvedConfig) (start : RunMode)
    (paths : RuntimePaths) :
    (Supervisor.wired m cfg start paths).Mirrors (Twin top)
      (Supervisor.wired a cfg start paths) := by
  have hwMin : Smc.hwMinRpm a = Smc.hwMinRpm m := twin.hwMin
  have hwMax : Smc.hwMaxRpm a = Smc.hwMaxRpm m := twin.hwMax
  refine ⟨twin, ?_⟩
  unfold wired onto
  simp only [hwMin, hwMax]

/-- Startup tells them apart by the probe, over a fan that it finds in Manual. -/
theorem started_twin (twin : Twin top m a) (armed : Twin.Armed m a) (cfg : ResolvedConfig)
    (start : RunMode) (paths : RuntimePaths) (boot : Host)
    (same : ((Supervisor.wired m cfg start paths).started boot).log
      = ((Supervisor.wired a cfg start paths).started boot).log) : m.mode = .auto := by
  obtain ⟨armed', mode'⟩ := armed.read twin.honest.reads
  cases mode : m.mode with
  | auto => rfl
  | manual =>
      -- the second call of both startups is the probe
      obtain ⟨es, mock⟩ := started_probes boot (Supervisor.wired m cfg start paths)
      obtain ⟨es', real⟩ := started_probes boot (Supervisor.wired a cfg start paths)
      rw [mock, real] at same
      obtain ⟨-, rest⟩ := List.cons.inj (show _ :: _ = _ :: _ from same)
      obtain ⟨probes, -⟩ := List.cons.inj rest
      have ops := congrArg Event.op probes
      injection ops with answers
      exact absurd answers (Twin.probe_manual twin.readFan.2 armed' (mode'.trans mode))

variable [SerdeJson]

/-- A mock without injected faults, whose restore file has the adapter's descriptor and AUTO
token, stands in for the adapter over the fan it mimics: the daemon can be built over the one
exactly if it can over the other. Startup makes the same calls with the same answers exactly if
it finds the fan in Auto, and then so does every run, with the same custody, reports and
published states, but for the capabilities. -/
theorem mock_stands_in (twin : Twin top m a) (armed : Twin.Armed m a) (cfg : ResolvedConfig)
    (start : RunMode) (paths : RuntimePaths) :
    ((∃ s, Supervisor.new m cfg start paths = .ok s) ↔
        ∃ t, Supervisor.new a cfg start paths = .ok t) ∧
      ∀ s t, Supervisor.new m cfg start paths = .ok s →
        Supervisor.new a cfg start paths = .ok t → ∀ boot,
          ((s.started boot).log = (t.started boot).log ↔ m.mode = .auto) ∧
          (m.mode = .auto → ∀ hosts,
            let ends := loop.run hosts (s.start boot)
            let ends' := loop.run hosts (t.start boot)
            Twin top ends.smc ends'.smc ∧ ends'.toCustody = ends.toCustody ∧
              loop.trace hosts (s.start boot) = loop.trace hosts (t.start boot) ∧
              reports.trace hosts (t.start boot) = (reports.trace hosts (s.start boot)).map
                (Prod.map id (StateFile.onto (Smc.safetyCapabilities a)))) := by
  refine ⟨new_twin twin cfg start paths, fun s t built built' boot => ?_⟩
  obtain ⟨-, rfl⟩ := new_eq_ok.mp built
  obtain ⟨-, rfl⟩ := new_eq_ok.mp built'
  obtain ⟨armed', mode'⟩ := armed.read twin.honest.reads
  have mirrored (auto : m.mode = .auto) :=
    (wired_mirrors twin cfg start paths).start (Twin.alike top) boot (by
      rintro m' a' twin' rfl rfl
      exact Twin.probe_auto twin' armed' (mode'.trans auto))
  refine ⟨⟨started_twin twin armed cfg start paths boot, fun auto => (mirrored auto).2.1⟩, ?_⟩
  intro auto hosts
  obtain ⟨started, -, caps⟩ := mirrored auto
  obtain ⟨ends, trace, published⟩ := started.run (Twin.alike top) hosts
  refine ⟨ends.smc, ?_, trace, ?_⟩
  · rw [ends.same]
    rfl
  · rw [published, caps]
    rfl

end Supervisor

section Concrete

attribute [local instance] Bench.json

/-- A mock of a fan in Auto, with a tach that moves 500 rpm at a read. -/
def laggingMock : MockSmc :=
  { MockSmc.new 1200 7200 with
    sensors := Bench.reading 70000, rpm := 2000, outReg := 2000, lagRate := some 500,
    restoreFile := some ⟨7, "2", none⟩ }

/-- The same fan behind the files of the modern generation. -/
def laggingPlant : Plant where
  fanDir := "/fan"
  abi := modern
  bound := Shelf.adapter.bound
  temps := [("/temp1_input", "70000\n")]
  rpm := 2000
  outReg := 2000
  mode := .auto
  lagRate := some 500
  frozen := false

/-- The adapter over it. -/
def laggingAdapter : SysfsSmc Plant where
  fanDir := "/fan"
  abi := modern
  bound := Shelf.adapter.bound
  sensors := [("/temp1_input", "Core 0")]
  hwMin := 1200
  hwMax := 7200
  band := Shelf.adapter.band
  restoreFile := some 7
  world := { device := laggingPlant, journal := [] }

theorem lagging_twin : Twin 7200 laggingMock laggingAdapter where
  honest := ⟨rfl, rfl, rfl⟩
  below := ⟨by decide, by decide, by decide, by decide⟩
  fits := ⟨rfl, rfl, rfl, by decide, by decide⟩
  shows := ⟨rfl, rfl, rfl, rfl, fun _ => rfl⟩
  hwMin := rfl
  hwMax := rfl
  readings := by decide

namespace Supervisor

/-- The daemon over the mock. -/
def laggingDaemon : Supervisor MockSmc := .wired laggingMock Bench.config .curve Bench.paths

theorem mock_stands_in_lagging :
    ∃ t, Supervisor.new laggingAdapter Bench.config .curve Bench.paths = .ok t ∧
      (loop.trace [Bench.quiet, Bench.quiet] (t.start Bench.quiet)).countP (·.control) = 3 := by
  have built : Supervisor.new laggingMock Bench.config .curve Bench.paths = .ok laggingDaemon :=
    new_eq_ok.mpr ⟨Bench.config_valid, rfl⟩
  obtain ⟨alike, runs⟩ := mock_stands_in lagging_twin ⟨7, rfl, rfl⟩ Bench.config .curve Bench.paths
  obtain ⟨t, built'⟩ := alike.mp ⟨_, built⟩
  obtain ⟨-, -, trace, -⟩ :=
    (runs laggingDaemon t built built' Bench.quiet).2 rfl [Bench.quiet, Bench.quiet]
  have mock : (loop.trace [Bench.quiet, Bench.quiet] (laggingDaemon.start Bench.quiet)).countP
      (·.control) = 3 := by decide +kernel
  exact ⟨t, built', trace ▸ mock⟩

end Supervisor

end Concrete

end Afanctl
