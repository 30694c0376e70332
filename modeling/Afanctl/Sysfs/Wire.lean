import Afanctl.Supervisor.State
import Afanctl.Sysfs.Adapter

/-!
What a call of the adapter does to its device.

Each method appends to the journal operations of its own kind only: the reads of its
attributes, one payload, the sleeps of its windows, and no more writes than it has attempts.
None of them changes anything else in the adapter.
-/

namespace Afanctl

open Afanctl.Lib

/-- The operation writes to the device. -/
def FileOp.writes : FileOp → Bool
  | .write .. => true
  | .writeHeld .. => true
  | _ => false

namespace World

variable {δ : Type}

/-- `w'` is what became of `w` by operations that are all a `P`, at most `n` of them writes. -/
def Does (P : FileOp → Prop) (n : Nat) (w w' : World δ) : Prop :=
  ∃ ops, w'.journal = w.journal ++ ops ∧ (∀ op ∈ ops, P op) ∧ ops.countP (·.writes) ≤ n

section Does

variable {P : FileOp → Prop} {m n : Nat} {w w' w'' : World δ}

theorem does_refl (w : World δ) : Does P n w w := ⟨[], by simp, nofun, Nat.zero_le n⟩

theorem Does.mono (does : Does P m w w') (le : m ≤ n) : Does P n w w' := by
  obtain ⟨ops, journal, all, few⟩ := does
  exact ⟨ops, journal, all, Nat.le_trans few le⟩

theorem Does.trans (first : Does P m w w') (second : Does P n w' w'') : Does P (m + n) w w'' := by
  obtain ⟨ops, journal, all, few⟩ := first
  obtain ⟨ops', journal', all', few'⟩ := second
  refine ⟨ops ++ ops', by rw [journal', journal, List.append_assoc], ?_, ?_⟩
  · intro op mem
    rcases List.mem_append.mp mem with mem | mem
    · exact all op mem
    · exact all' op mem
  · rw [List.countP_append]
    exact Nat.add_le_add few few'

theorem does_op {op : FileOp} (journal : w'.journal = w.journal ++ [op]) (allowed : P op)
    (counted : (if op.writes then 1 else 0) ≤ n) : Does P n w w' := by
  refine ⟨[op], journal, fun o mem => List.mem_singleton.mp mem ▸ allowed, ?_⟩
  rwa [List.countP_singleton]

end Does

variable [Sysfs δ] {P : FileOp → Prop} {n : Nat} {path payload : String}

theorem does_read (allowed : ∀ answer, P (.read path answer)) (w : World δ) :
    Does P n w (w.read path).2 :=
  does_op rfl (allowed _) (Nat.zero_le n)

theorem does_write (allowed : ∀ answer, P (.write path payload answer)) (w : World δ) :
    Does P 1 w (w.write path payload).2 :=
  does_op rfl (allowed _) (Nat.le_refl 1)

theorem does_sleep {ns : Nat} (allowed : P (.sleep ns)) (w : World δ) : Does P n w (w.sleep ns) :=
  does_op rfl allowed (Nat.zero_le n)

theorem does_readString (allowed : ∀ answer, P (.read path answer)) (w : World δ) :
    Does P n w (w.readString path).2 := by
  have read : Does P n w (w.read path).2 := does_read allowed w
  unfold readString
  split <;> next eq => rw [eq] at read; exact read

theorem does_readU32 (allowed : ∀ answer, P (.read path answer)) (w : World δ) :
    Does P n w (w.readU32 path).2 := by
  have read : Does P n w (w.readString path).2 := does_readString allowed w
  unfold readU32
  split
  · next eq => rw [eq] at read; exact read
  · next eq =>
      rw [eq] at read
      split <;> exact read

end World

/-! ### The loops -/

/-- A window stays within any preorder that its pauses and samples stay within. -/
theorem settleFrom_related {τ : Type} {R : τ → τ → Prop} {pause : τ → τ}
    {sample : τ → Except SmcError Bool × τ} (refl : ∀ t, R t t)
    (trans : ∀ {t t' t''}, R t t' → R t' t'' → R t t'') (pauses : ∀ t, R t (pause t))
    (samples : ∀ t, R t (sample t).2) (n left : Nat) (t : τ) :
    R t (settleFrom pause sample n left t).2 := by
  induction left generalizing n t with
  | zero => exact refl t
  | succ left ih =>
      have here : R t (sample (if 0 < n then pause t else t)).2 := by
        split
        · exact trans (pauses t) (samples _)
        · exact samples t
      unfold settleFrom
      split
      · next eq => rw [eq] at here; exact here
      · next eq => rw [eq] at here; exact here
      · next eq =>
          rw [eq] at here
          exact trans here (ih _ _)

section Loops

variable {δ : Type} [Sysfs δ] {P : FileOp → Prop} {path payload : String} {wrote windowMs : Nat}
  {readBack : World δ → Except SmcError Nat × World δ} {accepted : Nat → Bool}

omit [Sysfs δ] in
/-- A settle window writes nothing. -/
theorem settle_does {α : Type} {sample : α × World δ → Except SmcError Bool × (α × World δ)}
    {pause : α × World δ → α × World δ} (pauses : ∀ t, World.Does P 0 t.2 (pause t).2)
    (samples : ∀ t, World.Does P 0 t.2 (sample t).2.2) (t : α × World δ) :
    World.Does P 0 t.2 (settle pause sample t).2.2 :=
  settleFrom_related (R := fun t t' => World.Does P 0 t.2 t'.2) (fun t => World.does_refl t.2)
    (fun first second => first.trans second) pauses samples 0 echoSettleSamples t

theorem settleAttempts_does (writes : ∀ answer, P (.write path payload answer))
    (sleeps : ∀ ns, P (.sleep ns)) (reads : ∀ w, World.Does P 0 w (readBack w).2) (left : Nat)
    (t : Option Nat × World δ) :
    World.Does P left t.2
      (settleAttempts path payload wrote windowMs readBack accepted left t).2 := by
  induction left generalizing t with
  | zero => exact World.does_refl t.2
  | succ left ih =>
      have samples (t : Option Nat × World δ) :
          World.Does P 0 t.2 (echo readBack accepted t).2.2 := by
        have read := reads t.2
        unfold echo
        split <;> next eq => rw [eq] at read; exact read
      have pauses (t : Option Nat × World δ) : World.Does P 0 t.2 (pause windowMs t).2 :=
        World.does_sleep (sleeps _) t.2
      have written : World.Does P 1 t.2 (t.2.write path payload).2 := World.does_write writes t.2
      unfold settleAttempts
      split
      · next eq =>
          rw [eq] at written
          exact written.mono (by omega)
      · next w eq =>
          rw [eq] at written
          have settled := written.trans (settle_does pauses samples (t.1, w))
          split
          · next eq => rw [eq] at settled; exact settled.mono (by omega)
          · next eq => rw [eq] at settled; exact settled.mono (by omega)
          · next t' eq =>
              rw [eq] at settled
              exact (settled.trans (ih t')).mono (by omega)

theorem settleWrite_does (writes : ∀ answer, P (.write path payload answer))
    (sleeps : ∀ ns, P (.sleep ns)) (reads : ∀ w, World.Does P 0 w (readBack w).2) (w : World δ) :
    World.Does P (writeRetryMax + 1) w
      (settleWrite path payload wrote windowMs readBack accepted w).2 :=
  settleAttempts_does writes sleeps reads (writeRetryMax + 1) (none, w)

end Loops

/-! ### The methods -/

namespace SysfsSmc

variable {δ : Type}

/-- What a call may do to the device. -/
inductive Touches (s : SysfsSmc δ) : Op → FileOp → Prop where
  | sensor {readings : Except SmcError (List SensorReading)} {file : String × String}
      {answer : Except String String} :
      file ∈ s.sensors → Touches s (.readSensors readings) (.read file.1 answer)
  | tach {fan : Except SmcError FanState} {answer : Except String String} :
      Touches s (.readFan fan) (.read (s.join "fan1_input") answer)
  | fanMode {fan : Except SmcError FanState} {answer : Except String String} :
      Touches s (.readFan fan) (.read s.modePath answer)
  | speed {rpm : Nat} {verified : Except SmcError Nat} {answer : Except String Unit} :
      Touches s (.writeSpeed rpm verified)
        (.write s.out (toString (clamp s.hwMin s.hwMax rpm)) answer)
  | echo {rpm : Nat} {verified : Except SmcError Nat} {answer : Except String String} :
      Touches s (.writeSpeed rpm verified) (.read s.out answer)
  | speedPause {rpm : Nat} {verified : Except SmcError Nat} {ns : Nat} :
      Touches s (.writeSpeed rpm verified) (.sleep ns)
  | mode {mode : FanMode} {verified : Except SmcError FanMode} {answer : Except String Unit} :
      Touches s (.setMode mode verified) (.write s.modePath (s.abi.token mode) answer)
  | modeEcho {mode : FanMode} {verified : Except SmcError FanMode}
      {answer : Except String String} :
      Touches s (.setMode mode verified) (.read s.modePath answer)
  | modePause {mode : FanMode} {verified : Except SmcError FanMode} {ns : Nat} :
      Touches s (.setMode mode verified) (.sleep ns)
  | restore {proven : Except SmcError SafeRestore} {answer : Except String Unit} :
      Touches s (.probeSafeRestore proven) (.writeHeld s.abi.auto answer)
  | restoreEcho {proven : Except SmcError SafeRestore} {answer : Except String String} :
      Touches s (.probeSafeRestore proven) (.read s.modePath answer)
  | restorePause {proven : Except SmcError SafeRestore} {ns : Nat} :
      Touches s (.probeSafeRestore proven) (.sleep ns)

/-- The operations a recorded call has left in the journal. -/
structure Journals (s : SysfsSmc δ) (op : Op) (ops : List FileOp) : Prop where
  touches : ∀ o ∈ ops, s.Touches op o
  few : ops.countP (·.writes) ≤ writeRetryMax + 1
  /-- a probe that passes has written the restore bytes -/
  proven : ∀ restore, op = .probeSafeRestore (.ok restore) →
    FileOp.writeHeld s.abi.auto (.ok ()) ∈ ops

/-- `s'` is `s` after such operations. -/
def Serviced (op : Op) (s s' : SysfsSmc δ) : Prop :=
  s' = { s with world := s'.world } ∧
    ∃ ops, s'.world.journal = s.world.journal ++ ops ∧ s.Journals op ops

variable {s : SysfsSmc δ}

theorem serviced_of_does {op : Op} {w : World δ}
    (does : World.Does (s.Touches op) (writeRetryMax + 1) s.world w)
    (plain : ∀ restore, op ≠ .probeSafeRestore (.ok restore)) :
    Serviced op s { s with world := w } := by
  obtain ⟨ops, journal, all, few⟩ := does
  exact ⟨rfl, ops, journal, all, few, fun restore eq => absurd eq (plain restore)⟩

variable [Sysfs δ]

theorem does_readMode {P : FileOp → Prop} (allowed : ∀ answer, P (.read s.modePath answer))
    (w : World δ) : World.Does P 0 w (s.readMode w).2 := by
  have read : World.Does P 0 w (w.readString s.modePath).2 := World.does_readString allowed w
  unfold readMode
  split <;> next eq => rw [eq] at read; exact read

theorem does_modeValue {P : FileOp → Prop} (allowed : ∀ answer, P (.read s.modePath answer))
    (w : World δ) : World.Does P 0 w (s.modeValue w).2 := by
  have read : World.Does P 0 w (s.readMode w).2 := does_readMode allowed w
  unfold modeValue
  split <;> next eq => rw [eq] at read; exact read

theorem does_readSensorFiles {P : FileOp → Prop} (files : List (String × String))
    (allowed : ∀ file ∈ files, ∀ answer, P (.read file.1 answer)) (w : World δ) :
    World.Does P 0 w (readSensorFiles files w).2 := by
  induction files generalizing w with
  | nil => exact World.does_refl w
  | cons file rest ih =>
      have read : World.Does P 0 w (readSensor file.1 file.2 w).2 := by
        have read : World.Does P 0 w (w.read file.1).2 :=
          World.does_read (allowed file List.mem_cons_self) w
        unfold readSensor
        split
        · next eq => rw [eq] at read; exact read
        · next eq =>
            rw [eq] at read
            split <;> exact read
      exact read.trans (ih (fun f mem => allowed f (.tail file mem)) _)

theorem serviced_readSensors (s : SysfsSmc δ) :
    Serviced (.readSensors (Smc.readSensors s).1) s (Smc.readSensors s).2 := by
  apply serviced_of_does
  · exact (does_readSensorFiles s.sensors (fun _ mem _ => .sensor mem) s.world).mono
      (Nat.zero_le _)
  · exact nofun

theorem serviced_readFan (s : SysfsSmc δ) :
    Serviced (.readFan (Smc.readFan s).1) s (Smc.readFan s).2 := by
  apply serviced_of_does
  · have read : World.Does (s.Touches (.readFan (Smc.readFan s).1)) 0 s.world
        (s.world.readU32 (s.join "fan1_input")).2 := World.does_readU32 (fun _ => .tach) s.world
    refine World.Does.mono (m := 0) ?_ (Nat.zero_le _)
    generalize Smc.readFan s = called at read
    unfold readFan
    split
    · next eq => rw [eq] at read; exact read
    · next w eq =>
        rw [eq] at read
        have moded : World.Does (s.Touches (.readFan called.1)) 0 w (s.readMode w).2 :=
          does_readMode (fun _ => .fanMode) w
        split <;> next eq => rw [eq] at moded; exact read.trans moded
  · exact nofun

theorem serviced_writeSpeed (rpm : Nat) (s : SysfsSmc δ) :
    Serviced (.writeSpeed rpm (Smc.writeSpeed rpm s).1) s (Smc.writeSpeed rpm s).2 := by
  apply serviced_of_does
  · exact settleWrite_does (fun _ => .speed) (fun _ => .speedPause)
      (fun w => World.does_readU32 (fun _ => .echo) w) s.world
  · exact nofun

theorem serviced_setMode (mode : FanMode) (s : SysfsSmc δ) :
    Serviced (.setMode mode (Smc.setMode mode s).1) s (Smc.setMode mode s).2 := by
  apply serviced_of_does
  · have settled : World.Does (s.Touches (.setMode mode (Smc.setMode mode s).1))
        (writeRetryMax + 1) s.world (settleWrite s.modePath (s.abi.token mode)
          (s.abi.tokenValue mode) modeSettleMs s.modeValue (· == s.abi.tokenValue mode)
          s.world).2 :=
      settleWrite_does (fun _ => .mode) (fun _ => .modePause)
        (does_modeValue fun _ => .modeEcho) s.world
    generalize Smc.setMode mode s = called at settled
    unfold setMode
    simp only
    split <;> next eq => rw [eq] at settled; exact settled
  · exact nofun

/-- The window of the probe, on the device as the write has left it. -/
theorem does_probe {P : FileOp → Prop} (reads : ∀ answer, P (.read s.modePath answer))
    (sleeps : ∀ ns, P (.sleep ns)) (w : World δ) :
    World.Does P 0 w (settle (pause modeSettleMs) s.probeSample (none, w)).2.2 := by
  refine settle_does (fun t => World.does_sleep (sleeps _) t.2) ?_ (none, w)
  intro t
  have read : World.Does P 0 t.2 (s.readMode t.2).2 := does_readMode reads t.2
  unfold probeSample
  split <;> next eq => rw [eq] at read; exact read

theorem serviced_probeSafeRestore (s : SysfsSmc δ) :
    Serviced (.probeSafeRestore (Smc.probeSafeRestore s).1) s (Smc.probeSafeRestore s).2 := by
  refine ⟨rfl, ?_⟩
  show ∃ ops, s.probeSafeRestore.2.journal = s.world.journal ++ ops ∧
    s.Journals (.probeSafeRestore s.probeSafeRestore.1) ops
  cases held : s.restoreFile with
  | none =>
      refine ⟨[], by simp [probeSafeRestore, held], nofun, Nat.zero_le _, fun restore eq => ?_⟩
      simp [probeSafeRestore, held] at eq
  | some fd =>
      cases wrote : s.world.writeHeld s.abi.auto with
      | mk answer w =>
          have journal : w.journal = s.world.journal ++ [.writeHeld s.abi.auto answer] := by
            have same := congrArg (·.2.journal) wrote
            have said := congrArg (·.1) wrote
            simp only [World.writeHeld] at same said
            rw [← same, said]
          cases answer with
          | error source =>
              have result : s.probeSafeRestore = (.error (.write s.modePath source), w) := by
                simp only [probeSafeRestore, held, wrote]
              rw [result]
              refine ⟨_, journal, fun o mem => ?_, ?_, nofun⟩
              · rw [List.mem_singleton.mp mem]
                exact .restore
              · exact Nat.le_succ 1
          | ok done =>
              -- whatever the window answers, the operations are the write and the window's
              have window := does_probe (s := s)
                (P := s.Touches (.probeSafeRestore s.probeSafeRestore.1))
                (fun _ => .restoreEcho) (fun _ => .restorePause) w
              obtain ⟨ops, more, all, few⟩ := window
              have after : s.probeSafeRestore.2
                  = (settle (pause modeSettleMs) s.probeSample (none, w)).2.2 := by
                simp only [probeSafeRestore, held, wrote]
                split
                · next eq => rw [eq]
                · next eq => rw [eq]
                · next eq =>
                    rw [eq]
                    split <;> rfl
              rw [after]
              refine ⟨.writeHeld s.abi.auto (.ok done) :: ops, ?_, ?_, ?_, ?_⟩
              · rw [more, journal, List.append_assoc, List.singleton_append]
              · intro o mem
                rcases List.mem_cons.mp mem with rfl | mem
                · exact .restore
                · exact all o mem
              · rw [List.countP_cons]
                exact Nat.add_le_add (Nat.le_trans few (Nat.zero_le _)) (Nat.le_refl 1)
              · exact fun _ _ => List.mem_cons_self

end SysfsSmc

end Afanctl
