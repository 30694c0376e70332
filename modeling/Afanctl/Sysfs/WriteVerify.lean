import Afanctl.Sysfs.Adapter

/-!
What a verified write has seen.

On a tape the answer is the first deciding operation's, and nothing is done after it. On any
device, an adapter method that reports success has just read the value it reports: the last
entry of the journal is that read.
-/

namespace Afanctl

open Afanctl.Lib

section Reads

variable {δ : Type} [Sysfs δ]

theorem World.readString_ok {path raw : String} {w w' : World δ}
    (read : w.readString path = (.ok raw, w')) :
    w'.journal = w.journal ++ [.read path (.ok raw)] := by
  unfold readString at read
  split at read
  · cases read
  · next answer =>
      cases read
      obtain ⟨answered, rfl⟩ := Prod.mk.inj answer
      simp only [answered]

theorem World.readU32_ok {path : String} {n : Nat} {w w' : World δ}
    (read : w.readU32 path = (.ok n, w')) :
    ∃ raw, w'.journal = w.journal ++ [.read path (.ok raw)] ∧ parseU32 (trim raw) = some n := by
  unfold readU32 at read
  split at read
  · cases read
  · next raw _ got =>
      split at read
      · next parsed =>
          cases read
          exact ⟨raw, World.readString_ok got, parsed⟩
      · cases read

end Reads

namespace SysfsSmc

variable {δ : Type} [Sysfs δ] {s : SysfsSmc δ}

theorem modeValue_ok {n : Nat} {w w' : World δ} (read : s.modeValue w = (.ok n, w')) :
    ∃ raw mode, w'.journal = w.journal ++ [.read s.modePath (.ok raw)] ∧
      s.abi.parseMode s.modePath raw = .ok mode ∧ n = s.abi.tokenValue mode := by
  unfold modeValue at read
  split at read
  · cases read
  · next mode _ got =>
      cases read
      unfold readMode at got
      split at got
      · cases got
      · next raw _ taken =>
          obtain ⟨parsed, rfl⟩ := Prod.mk.inj got
          exact ⟨raw, mode, World.readString_ok taken, parsed, rfl⟩

/-- A speed write that succeeds is the clamped request, and the last thing done was to read
an echo within the tolerance. -/
theorem writeSpeed_ok {rpm v : Nat} {w : World δ} (verified : s.writeSpeed rpm = (.ok v, w)) :
    v = clamp s.hwMin s.hwMax rpm ∧ ∃ before raw rb,
      w.journal = before ++ [.read s.out (.ok raw)] ∧ parseU32 (trim raw) = some rb ∧
      absDiff rb v ≤ writeEchoToleranceRpm := by
  obtain ⟨rfl, before, rb, read, near⟩ := settleAttempts_ok verified
  obtain ⟨raw, last, parsed⟩ := World.readU32_ok read
  exact ⟨rfl, before.journal, raw, rb, last, parsed, of_decide_eq_true near⟩

/-- A mode write that succeeds is the mode asked for, and the last thing done was to read it
back. -/
theorem setMode_ok {mode mode' : FanMode} {w : World δ}
    (verified : s.setMode mode = (.ok mode', w)) :
    mode' = mode ∧ ∃ before raw,
      w.journal = before ++ [.read s.modePath (.ok raw)] ∧
      s.abi.parseMode s.modePath raw = .ok mode := by
  unfold setMode at verified
  simp only at verified
  split at verified
  · cases verified
  · next settled =>
      cases verified
      obtain ⟨-, before, rb, read, same⟩ := settleAttempts_ok settled
      obtain ⟨raw, got, last, parsed, rfl⟩ := modeValue_ok read
      have exact : got = mode := AbiAttrs.tokenValue_injective s.bound (eq_of_beq same)
      exact ⟨rfl, before.journal, raw, last, exact ▸ parsed⟩

end SysfsSmc

/-- A verified write on the untouched tape. -/
def Tape.settleWrite (path payload : String) (wrote windowMs : Nat) (accepted : Nat → Bool)
    (writes : Nat → Except String Unit) (reads : Nat → Nat → Except SmcError Nat) :
    Except SmcError Nat × World (Tape writes reads) :=
  Afanctl.settleWrite path payload wrote windowMs Tape.readBack accepted Tape.start

section Tapes

variable {writes : Nat → Except String Unit} {reads : Nat → Nat → Except SmcError Nat}
  {accepted : Nat → Bool}

/-- When nothing decides, the last sample of the last window has a value. -/
theorem last_sampled
    (silent : (schedule 0 (writeRetryMax + 1)).find?
      (TapeOp.decides writes reads accepted) = none) :
    reads writeRetryMax (echoSettleSamples - 1)
      = .ok (sampleValue reads writeRetryMax (echoSettleSamples - 1)) := by
  have last : TapeOp.sample writeRetryMax (echoSettleSamples - 1)
      ∈ schedule 0 (writeRetryMax + 1) := by decide
  have undecided := List.find?_eq_none.mp silent _ last
  cases answer : reads writeRetryMax (echoSettleSamples - 1) with
  | error e => exact absurd (TapeOp.decides_sample_failed answer) undecided
  | ok rb => simp [sampleValue, answer]

/-- A verified write on a fresh tape. -/
theorem settleWrite_tape (path payload : String) (wrote windowMs : Nat) :
    let out := Tape.settleWrite path payload wrote windowMs accepted writes reads
    let whole := schedule 0 (writeRetryMax + 1)
    out.2.device.made = upToFirst (TapeOp.decides writes reads accepted) whole ∧
      out.1 = (whole.find? (TapeOp.decides writes reads accepted)).elim
        (.error (.verifyFailed wrote
          (sampleValue reads writeRetryMax (echoSettleSamples - 1))))
        (TapeOp.verdict writes reads path wrote) := by
  intro out whole
  have fresh : (Tape.start : World (Tape writes reads)).device.issued = 0 := rfl
  obtain ⟨done, answer⟩ := @settleAttempts_tape writes reads 0 Tape.start accepted path payload
    wrote windowMs (writeRetryMax + 1) none fresh
  refine ⟨done, answer.trans ?_⟩
  cases whole.find? (TapeOp.decides writes reads accepted) <;> rfl

end Tapes

/-- A verified write makes the calls of the schedule up to the first that decides, and answers
as that one says; it fails to verify only after all of them. So the writes of the adapter are
verified by the last read they make. -/
theorem settleWrite_exact (path payload : String) (wrote windowMs : Nat) (accepted : Nat → Bool)
    (writes : Nat → Except String Unit) (reads : Nat → Nat → Except SmcError Nat) :
    let out := Tape.settleWrite path payload wrote windowMs accepted writes reads
    let made := out.2.device.made
    let whole := schedule 0 (writeRetryMax + 1)
    let first := whole.find? (TapeOp.decides writes reads accepted)
    (made = upToFirst (TapeOp.decides writes reads accepted) whole ∧ made <+: whole) ∧
      (∀ v, out.1 = .ok v ↔ v = wrote ∧
        ∃ k n rb, first = some (.sample k n) ∧ reads k n = .ok rb ∧ accepted rb = true) ∧
      (∀ e, out.1 = .error e ↔
        (∃ op, first = some op ∧ op.fault writes reads path = some e) ∨
        first = none ∧ ∃ last, reads writeRetryMax (echoSettleSamples - 1) = .ok last ∧
          e = .verifyFailed wrote last) ∧
      (first = none → made = whole) ∧
      (∀ (δ : Type) [Sysfs δ] (s s' : SysfsSmc δ) (rpm v : Nat),
        Smc.writeSpeed rpm s = (.ok v, s') →
          v = clamp s.hwMin s.hwMax rpm ∧ ∃ before raw rb,
            s'.world.journal = before ++ [.read s.out (.ok raw)] ∧
            parseU32 (trim raw) = some rb ∧ absDiff rb v ≤ writeEchoToleranceRpm) ∧
      (∀ (δ : Type) [Sysfs δ] (s s' : SysfsSmc δ) (mode mode' : FanMode),
        Smc.setMode mode s = (.ok mode', s') →
          mode' = mode ∧ ∃ before raw,
            s'.world.journal = before ++ [.read s.modePath (.ok raw)] ∧
            s.abi.parseMode s.modePath raw = .ok mode) := by
  intro out made whole first
  obtain ⟨done, answer⟩ : made = upToFirst (TapeOp.decides writes reads accepted) whole ∧
      out.1 = first.elim (.error (.verifyFailed wrote
        (sampleValue reads writeRetryMax (echoSettleSamples - 1))))
        (TapeOp.verdict writes reads path wrote) := settleWrite_tape path payload wrote windowMs
  refine ⟨⟨done, done ▸ upToFirst_prefix _ _⟩, fun v => ?_, fun e => ?_, fun silent => ?_,
    fun δ _ s s' rpm v written => ?_, fun δ _ s s' mode mode' written => ?_⟩
  · rw [answer]
    cases found : first with
    | none => simp
    | some op =>
        have decides := List.find?_some found
        simp only [Option.elim_some, TapeOp.verdict_ok, Option.some.injEq]
        refine and_congr_right fun _ => ⟨TapeOp.decides_taken decides, ?_⟩
        rintro ⟨k, n, rb, rfl, read, -⟩
        simp [TapeOp.fault, read]
  · rw [answer]
    cases found : first with
    | none => simp [last_sampled found, eq_comm]
    | some op => simp [TapeOp.verdict_error]
  · rw [done, upToFirst_none silent]
  · obtain ⟨ok, rfl⟩ := Prod.mk.inj written
    exact SysfsSmc.writeSpeed_ok (Prod.ext ok rfl)
  · obtain ⟨ok, rfl⟩ := Prod.mk.inj written
    exact SysfsSmc.setMode_ok (Prod.ext ok rfl)

example : (Tape.settleWrite "pwm1_enable" "2" 2 modeSettleMs (· == 2) (fun _ => .ok ())
    (fun k n => .ok (if k = 1 ∧ n = 3 then 2 else 1))).1 = .ok 2 := rfl

end Afanctl
