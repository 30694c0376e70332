import Afanctl.Sysfs.World

/-!
Verified writes: one write for each settle window, and one re-issue.

`settle` samples until a sample is accepted or fails; `settleWrite` writes before each
window and keeps the last value read for its report. The section on tapes says exactly what
it does for any outcomes: a tape answers the writes and the samples from two given
sequences, and the first of them that decides anything decides the call.
-/

namespace Afanctl

open Afanctl.Lib

/-- Milliseconds of the echo settle window of a speed write. -/
def echoSettleMs : Nat := 1500

/-- Samples in a settle window. -/
def echoSettleSamples : Nat := 10

/-- Milliseconds of the settle window of a mode write. -/
def modeSettleMs : Nat := 1000

/-- How often a write whose window expired is re-issued. -/
def writeRetryMax : Nat := 1

/-- How far the echo of a speed write may be off. -/
def writeEchoToleranceRpm : Nat := 50

/-- The nanoseconds between two samples of a window. -/
def settleStep (windowMs : Nat) : Nat := windowMs * 1000000 / echoSettleSamples

/-! ### The loops -/

section Loops

variable {τ : Type}

/-- The samples of a window from the `n`-th on, with `left` to go. -/
def settleFrom (pause : τ → τ) (sample : τ → Except SmcError Bool × τ) :
    Nat → Nat → τ → Except SmcError Bool × τ
  | _, 0, t => (.ok false, t)
  | n, left + 1, t =>
      match sample (if 0 < n then pause t else t) with
      | (.error e, t) => (.error e, t)
      | (.ok true, t) => (.ok true, t)
      | (.ok false, t) => settleFrom pause sample (n + 1) left t

/-- One settle window; `true` when a sample was accepted. -/
def settle (pause : τ → τ) (sample : τ → Except SmcError Bool × τ) (t : τ) :
    Except SmcError Bool × τ :=
  settleFrom pause sample 0 echoSettleSamples t

end Loops

section Writes

variable {δ : Type} [Sysfs δ]

/-- A sample of a write: read back, keep the value, judge it. -/
def echo (readBack : World δ → Except SmcError Nat × World δ) (accepted : Nat → Bool)
    (t : Option Nat × World δ) : Except SmcError Bool × (Option Nat × World δ) :=
  match readBack t.2 with
  | (.error e, w) => (.error e, (t.1, w))
  | (.ok rb, w) => (.ok (accepted rb), (some rb, w))

/-- The sleep between two samples. -/
def pause (windowMs : Nat) (t : Option Nat × World δ) : Option Nat × World δ :=
  (t.1, t.2.sleep (settleStep windowMs))

/-- The attempts of a write, with `left` to go; the first component of the state is the
last value read. -/
def settleAttempts (path payload : String) (wrote windowMs : Nat)
    (readBack : World δ → Except SmcError Nat × World δ) (accepted : Nat → Bool) :
    Nat → Option Nat × World δ → Except SmcError Nat × World δ
  | 0, (last, w) => (.error (.verifyFailed wrote (last.getD 0)), w)
  | left + 1, (last, w) =>
      match w.write path payload with
      | (.error source, w) => (.error (.write path source), w)
      | (.ok (), w) =>
          match settle (pause windowMs) (echo readBack accepted) (last, w) with
          | (.error e, t) => (.error e, t.2)
          | (.ok true, t) => (.ok wrote, t.2)
          | (.ok false, t) => settleAttempts path payload wrote windowMs readBack accepted left t

/-- One write for each settle window, re-issued at most `writeRetryMax` times. -/
def settleWrite (path payload : String) (wrote windowMs : Nat)
    (readBack : World δ → Except SmcError Nat × World δ) (accepted : Nat → Bool) (w : World δ) :
    Except SmcError Nat × World δ :=
  settleAttempts path payload wrote windowMs readBack accepted (writeRetryMax + 1) (none, w)

end Writes

/-! ### What an accepted window and its sleeps come to -/

section Windows

variable {τ : Type} {pause : τ → τ} {sample : τ → Except SmcError Bool × τ}

section Step

variable {n left : Nat} {t t' : τ}

theorem settleFrom_failed {e : SmcError}
    (failed : sample (if 0 < n then pause t else t) = (.error e, t')) :
    settleFrom pause sample n (left + 1) t = (.error e, t') := by
  simp [settleFrom, failed]

theorem settleFrom_taken (taken : sample (if 0 < n then pause t else t) = (.ok true, t')) :
    settleFrom pause sample n (left + 1) t = (.ok true, t') := by
  simp [settleFrom, taken]

theorem settleFrom_passed (passed : sample (if 0 < n then pause t else t) = (.ok false, t')) :
    settleFrom pause sample n (left + 1) t = settleFrom pause sample (n + 1) left t' := by
  simp [settleFrom, passed]

end Step

/-- An accepted window ends with an accepted sample. -/
theorem settleFrom_accepted {n left : Nat} {t t' : τ}
    (accepted : settleFrom pause sample n left t = (.ok true, t')) :
    ∃ before, sample before = (.ok true, t') := by
  induction left generalizing n t with
  | zero => cases accepted
  | succ left ih =>
      unfold settleFrom at accepted
      split at accepted
      · cases accepted
      · next eq => exact ⟨_, accepted ▸ eq⟩
      · exact ih accepted

/-- A window sleeps at most one pause for each sample but the first. -/
theorem settleFrom_within {δ : Type} [Sysfs δ] (world : τ → World δ) {step : Nat}
    (pauses : ∀ t, World.Within step (world t) (world (pause t)))
    (samples : ∀ t, World.Within 0 (world t) (world (sample t).2)) (n left : Nat) (t : τ) :
    World.Within ((if 0 < n then left else left - 1) * step) (world t)
      (world (settleFrom pause sample n left t).2) := by
  induction left generalizing n t with
  | zero => exact World.within_refl _
  | succ left ih =>
      have here : World.Within (if 0 < n then step else 0) (world t)
          (world (sample (if 0 < n then pause t else t)).2) := by
        split
        · exact (pauses t).trans (samples _)
        · exact samples t
      have rest := ih (n + 1) (sample (if 0 < n then pause t else t)).2
      rw [if_pos (Nat.succ_pos n)] at rest
      have total : World.Within ((if 0 < n then step else 0) + left * step) (world t)
          (world (settleFrom pause sample n (left + 1) t).2) := by
        cases sampled : sample (if 0 < n then pause t else t) with
        | mk answer t' =>
            rw [sampled] at here rest
            cases answer with
            | error e =>
                rw [settleFrom_failed sampled]
                exact here.mono (Nat.le_add_right _ _)
            | ok accepted =>
                cases accepted with
                | true =>
                    rw [settleFrom_taken sampled]
                    exact here.mono (Nat.le_add_right _ _)
                | false =>
                    rw [settleFrom_passed sampled]
                    exact here.trans rest
      refine total.mono ?_
      split
      · exact Nat.le_of_eq (by rw [Nat.succ_mul, Nat.add_comm])
      · simp

end Windows

section Attempts

variable {δ : Type} [Sysfs δ] {path payload : String} {wrote windowMs : Nat}
  {readBack : World δ → Except SmcError Nat × World δ} {accepted : Nat → Bool}

section Step

variable {left : Nat} {last : Option Nat} {w w' : World δ} {t : Option Nat × World δ}

theorem settleAttempts_unwritten {source : String}
    (failed : w.write path payload = (.error source, w')) :
    settleAttempts path payload wrote windowMs readBack accepted (left + 1) (last, w) =
      (.error (.write path source), w') := by
  simp [settleAttempts, failed]

variable (written : w.write path payload = (.ok (), w'))

include written

theorem settleAttempts_failed {e : SmcError}
    (failed : settle (pause windowMs) (echo readBack accepted) (last, w') = (.error e, t)) :
    settleAttempts path payload wrote windowMs readBack accepted (left + 1) (last, w) =
      (.error e, t.2) := by
  simp [settleAttempts, written, failed]

theorem settleAttempts_taken
    (taken : settle (pause windowMs) (echo readBack accepted) (last, w') = (.ok true, t)) :
    settleAttempts path payload wrote windowMs readBack accepted (left + 1) (last, w) =
      (.ok wrote, t.2) := by
  simp [settleAttempts, written, taken]

theorem settleAttempts_expired
    (expired : settle (pause windowMs) (echo readBack accepted) (last, w') = (.ok false, t)) :
    settleAttempts path payload wrote windowMs readBack accepted (left + 1) (last, w) =
      settleAttempts path payload wrote windowMs readBack accepted left t := by
  simp [settleAttempts, written, expired]

end Step

/-- A verified write is the value asked for, and its last step read an accepted one back. -/
theorem settleAttempts_ok {left v : Nat} {t : Option Nat × World δ} {w : World δ}
    (verified : settleAttempts path payload wrote windowMs readBack accepted left t = (.ok v, w)) :
    v = wrote ∧ ∃ before rb, readBack before = (.ok rb, w) ∧ accepted rb = true := by
  induction left generalizing t with
  | zero => cases verified
  | succ left ih =>
      unfold settleAttempts at verified
      split at verified
      · cases verified
      · split at verified
        · cases verified
        · next settled =>
            cases verified
            obtain ⟨before, sampled⟩ := settleFrom_accepted settled
            unfold echo at sampled
            split at sampled
            · cases sampled
            · next read =>
                simp only [Prod.mk.injEq, Except.ok.injEq] at sampled
                obtain ⟨judged, rfl⟩ := sampled
                exact ⟨rfl, _, _, read, judged⟩
        · exact ih verified

/-- The sleeps of a verified write: at most one pause for each sample but the first, in each
attempt. -/
theorem settleAttempts_within (quiet : ∀ w, World.Within 0 w (readBack w).2) (left : Nat)
    (t : Option Nat × World δ) :
    World.Within (left * ((echoSettleSamples - 1) * settleStep windowMs)) t.2
      (settleAttempts path payload wrote windowMs readBack accepted left t).2 := by
  induction left generalizing t with
  | zero => exact World.within_refl _
  | succ left ih =>
      have samples (t : Option Nat × World δ) :
          World.Within 0 t.2 (echo readBack accepted t).2.2 := by
        have read := quiet t.2
        unfold echo
        split <;> next eq => rw [eq] at read; exact read
      have written : World.Within 0 t.2 (t.2.write path payload).2 := World.within_write ..
      unfold settleAttempts
      split
      · next eq =>
          rw [eq] at written
          exact written.mono (Nat.zero_le _)
      · next w eq =>
          rw [eq] at written
          have pauses (t : Option Nat × World δ) :
              World.Within (settleStep windowMs) t.2 (pause windowMs t).2 :=
            World.within_sleep _ t.2
          have window := settleFrom_within (fun t : Option Nat × World δ => t.2) pauses samples 0
            echoSettleSamples (t.1, w)
          rw [if_neg (Nat.lt_irrefl 0)] at window
          have settled := written.trans window
          unfold settle
          rw [Nat.succ_mul]
          split
          · next eq => rw [eq] at settled; exact settled.mono (by omega)
          · next eq => rw [eq] at settled; exact settled.mono (by omega)
          · next t' eq =>
              rw [eq] at settled
              exact (settled.trans (ih t')).mono (by omega)

end Attempts

/-! ### Up to the first of a kind -/

section First

variable {α : Type} {p : α → Bool}

/-- The elements of a list up to the first that `p` holds of, that one included. -/
def upToFirst (p : α → Bool) : List α → List α
  | [] => []
  | a :: as => if p a then [a] else a :: upToFirst p as

theorem upToFirst_append {as : List α} (none : as.find? p = none) (bs : List α) :
    upToFirst p (as ++ bs) = as ++ upToFirst p bs := by
  induction as with
  | nil => rfl
  | cons a as ih =>
      rw [List.find?_cons] at none
      split at none
      · cases none
      · next off => simp [upToFirst, off, ih none]

theorem upToFirst_none {as : List α} (none : as.find? p = none) : upToFirst p as = as := by
  simpa [upToFirst] using upToFirst_append none []

theorem upToFirst_append_some {as : List α} {a : α} (some : as.find? p = some a) (bs : List α) :
    upToFirst p (as ++ bs) = upToFirst p as := by
  induction as with
  | nil => cases some
  | cons b as ih =>
      rw [List.find?_cons] at some
      split at some
      · next on => simp [upToFirst, on]
      · next off => simp [upToFirst, off, ih some]

theorem upToFirst_prefix (p : α → Bool) (as : List α) : upToFirst p as <+: as := by
  induction as with
  | nil => exact List.prefix_rfl
  | cons a as ih =>
      unfold upToFirst
      split
      · exact ⟨as, rfl⟩
      · exact List.cons_prefix_cons.mpr ⟨rfl, ih⟩

end First

/-! ### Tapes -/

/-- One operation of a verified write: the write of an attempt, or a sample of its window. -/
inductive TapeOp where
  | write (attempt : Nat)
  | sample (attempt n : Nat)
  deriving DecidableEq, Repr

/-- A device whose writes and samples are answered from two given sequences: where it stands,
and what was done. -/
structure Tape (writes : Nat → Except String Unit) (reads : Nat → Nat → Except SmcError Nat) where
  /-- the writes so far -/
  issued : Nat
  /-- the samples since the last one -/
  sampled : Nat
  made : List TapeOp

section Tapes

variable {writes : Nat → Except String Unit} {reads : Nat → Nat → Except SmcError Nat}

instance : Sysfs (Tape writes reads) where
  read _ t := (.error "no such file", t)
  write _ _ t := (writes t.issued,
    { issued := t.issued + 1, sampled := 0, made := t.made ++ [.write t.issued] })
  writeHeld _ t := (.error "no such file", t)
  sleep _ t := t

/-- The next sample of the current window. -/
def Tape.readBack (w : World (Tape writes reads)) :
    Except SmcError Nat × World (Tape writes reads) :=
  (reads (w.device.issued - 1) w.device.sampled,
    { w with device :=
      { w.device with
        sampled := w.device.sampled + 1,
        made := w.device.made ++ [.sample (w.device.issued - 1) w.device.sampled] } })

/-- The untouched tape. -/
def Tape.start : World (Tape writes reads) where
  device := { issued := 0, sampled := 0, made := [] }
  journal := []

/-- The samples of a window from the `n`-th on. -/
def window (attempt n left : Nat) : List TapeOp := (List.range' n left).map (.sample attempt)

/-- All that a verified write may do from an attempt on: each write before its own window. -/
def schedule : Nat → Nat → List TapeOp
  | _, 0 => []
  | attempt, left + 1 =>
      .write attempt :: (window attempt 0 echoSettleSamples ++ schedule (attempt + 1) left)

namespace TapeOp

variable (writes reads)

/-- The error an operation fails with. -/
def fault (path : String) : TapeOp → Option SmcError
  | .write k => match writes k with
    | .error source => some (.write path source)
    | .ok () => none
  | .sample k n => match reads k n with
    | .error e => some e
    | .ok _ => none

/-- The operation decides the call: it fails, or it is an accepted sample. -/
def decides (accepted : Nat → Bool) : TapeOp → Bool
  | .write k => match writes k with
    | .error _ => true
    | .ok () => false
  | .sample k n => match reads k n with
    | .error _ => true
    | .ok rb => accepted rb

/-- What a deciding operation makes of the call. -/
def verdict (path : String) (wrote : Nat) (op : TapeOp) : Except SmcError Nat :=
  match op.fault writes reads path with
  | some e => .error e
  | none => .ok wrote

variable {writes reads} {accepted : Nat → Bool} {path : String} {wrote v : Nat} {op : TapeOp}

theorem verdict_ok :
    op.verdict writes reads path wrote = .ok v ↔ v = wrote ∧ op.fault writes reads path = none := by
  unfold verdict
  cases op.fault writes reads path <;> simp [eq_comm]

theorem verdict_error {e : SmcError} :
    op.verdict writes reads path wrote = .error e ↔ op.fault writes reads path = some e := by
  unfold verdict
  cases op.fault writes reads path <;> simp

section Answers

variable {k n rb : Nat} {source : String} {e : SmcError}

theorem decides_write_failed (failed : writes k = .error source) :
    (TapeOp.write k).decides writes reads accepted = true := by
  simp [decides, failed]

theorem decides_write (written : writes k = .ok ()) :
    (TapeOp.write k).decides writes reads accepted = false := by
  simp [decides, written]

theorem decides_sample_failed (failed : reads k n = .error e) :
    (TapeOp.sample k n).decides writes reads accepted = true := by
  simp [decides, failed]

theorem decides_sample (read : reads k n = .ok rb) :
    (TapeOp.sample k n).decides writes reads accepted = accepted rb := by
  simp [decides, read]

theorem verdict_write_failed (failed : writes k = .error source) :
    (TapeOp.write k).verdict writes reads path wrote = .error (.write path source) := by
  simp [verdict, fault, failed]

theorem verdict_sample_failed (failed : reads k n = .error e) :
    (TapeOp.sample k n).verdict writes reads path wrote = .error e := by
  simp [verdict, fault, failed]

theorem verdict_sample (read : reads k n = .ok rb) :
    (TapeOp.sample k n).verdict writes reads path wrote = .ok wrote := by
  simp [verdict, fault, read]

end Answers

/-- What decides without failing is an accepted sample. -/
theorem decides_taken (decides : op.decides writes reads accepted = true)
    (sound : op.fault writes reads path = none) :
    ∃ k n rb, op = .sample k n ∧ reads k n = .ok rb ∧ accepted rb = true := by
  cases op with
  | write k =>
      cases answer : writes k with
      | error source => simp [fault, answer] at sound
      | ok =>
          rw [decides_write answer] at decides
          cases decides
  | sample k n =>
      cases answer : reads k n with
      | error e => simp [fault, answer] at sound
      | ok rb =>
          rw [decides_sample answer] at decides
          exact ⟨k, n, rb, rfl, answer, decides⟩

end TapeOp

/-- The value of a sample, if it has one. -/
def sampleValue (reads : Nat → Nat → Except SmcError Nat) (k n : Nat) : Nat :=
  match reads k n with
  | .ok rb => rb
  | .error _ => 0

section Exact

variable {k : Nat} {w : World (Tape writes reads)}

/-- The write of an attempt opens its window. -/
theorem write_tape (path payload : String) (issued : w.device.issued = k) :
    ∃ w', w.write path payload = (writes k, w') ∧ w'.device.issued = k + 1 ∧
      w'.device.sampled = 0 ∧ w'.device.made = w.device.made ++ [.write k] := by
  subst issued
  exact ⟨_, rfl, rfl, rfl, rfl⟩

/-- The world after the sample `n` of an attempt. -/
def Tape.after (k n : Nat) (w : World (Tape writes reads)) : World (Tape writes reads) :=
  { w with device :=
    { w.device with sampled := n + 1, made := w.device.made ++ [.sample k n] } }

theorem readBack_tape {n : Nat} (issued : w.device.issued = k + 1)
    (sampled : w.device.sampled = n) :
    Tape.readBack w = (reads k n, Tape.after k n w) := by
  simp [Tape.readBack, Tape.after, issued, sampled]

/-- The next sample of an attempt, with the pause before it. -/
theorem echo_tape {n : Nat} (accepted : Nat → Bool) (windowMs m : Nat) (last : Option Nat)
    (issued : w.device.issued = k + 1) (sampled : w.device.sampled = n) :
    ∃ w', w'.device = (Tape.after k n w).device ∧
      echo Tape.readBack accepted (if 0 < m then pause windowMs (last, w) else (last, w))
        = match reads k n with
          | .error e => (.error e, (last, w'))
          | .ok rb => (.ok (accepted rb), (some rb, w')) := by
  -- The pause leaves the tape where it is.
  obtain ⟨w₁, same, paused⟩ : ∃ w₁ : World (Tape writes reads), w₁.device = w.device ∧
      (if 0 < m then pause windowMs (last, w) else (last, w)) = (last, w₁) := by
    split
    · exact ⟨w.sleep (settleStep windowMs), rfl, rfl⟩
    · exact ⟨w, rfl, rfl⟩
  have back : Tape.readBack w₁ = (reads k n, Tape.after k n w₁) :=
    readBack_tape (same ▸ issued) (same ▸ sampled)
  refine ⟨Tape.after k n w₁, by rw [Tape.after, Tape.after, same], ?_⟩
  rw [paused, echo, back]
  cases reads k n <;> rfl

/-- A window on a tape: the samples up to the first that decides are made, and that one is
its answer. -/
theorem settleFrom_tape (accepted : Nat → Bool) (windowMs : Nat) (path : String) (wrote : Nat)
    (last : Option Nat) (left : Nat) {m n : Nat} (issued : w.device.issued = k + 1)
    (sampled : w.device.sampled = n) :
    let out := settleFrom (pause windowMs) (echo Tape.readBack accepted) m left (last, w)
    out.2.2.device.made = w.device.made
        ++ upToFirst (TapeOp.decides writes reads accepted) (window k n left) ∧
      out.2.2.device.issued = k + 1 ∧
      match (window k n left).find? (TapeOp.decides writes reads accepted) with
      | none => out.1 = .ok false ∧
          out.2.1 = if left = 0 then last else some (sampleValue reads k (n + left - 1))
      | some op => out.1 = (op.verdict writes reads path wrote).map fun _ => true := by
  induction left generalizing m n last w with
  | zero => exact ⟨by simp [settleFrom, window, upToFirst], issued, by simp [settleFrom, window]⟩
  | succ left ih =>
      obtain ⟨w', after, sample⟩ := echo_tape accepted windowMs m last issued sampled
      have made : w'.device.made = w.device.made ++ [.sample k n] := congrArg Tape.made after
      have still : w'.device.issued = k + 1 := (congrArg Tape.issued after).trans issued
      have onward : w'.device.sampled = n + 1 := congrArg Tape.sampled after
      have here : window k n (left + 1) = .sample k n :: window k (n + 1) left := rfl
      rw [here, List.find?_cons, upToFirst]
      cases answer : reads k n with
      | error e =>
          rw [answer] at sample
          rw [settleFrom_failed sample, TapeOp.decides_sample_failed answer, if_pos rfl]
          exact ⟨made, still, by simp [TapeOp.verdict_sample_failed answer, Except.map]⟩
      | ok rb =>
          rw [TapeOp.decides_sample answer]
          simp only [answer] at sample
          cases judged : accepted rb with
          | true =>
              rw [judged] at sample
              rw [settleFrom_taken sample, if_pos rfl]
              exact ⟨made, still, by simp [TapeOp.verdict_sample answer, Except.map]⟩
          | false =>
              rw [judged] at sample
              have value : sampleValue reads k n = rb := by simp [sampleValue, answer]
              obtain ⟨rest, kept, result⟩ := ih (some rb) (m := m + 1) still onward
              rw [settleFrom_passed sample, if_neg Bool.false_ne_true]
              refine ⟨?_, kept, ?_⟩
              · rw [rest, made, List.append_assoc, List.singleton_append]
              · cases found : (window k (n + 1) left).find?
                  (TapeOp.decides writes reads accepted) with
                | some op =>
                    rw [found] at result
                    exact result
                | none =>
                    rw [found] at result
                    refine ⟨result.1, ?_⟩
                    rw [result.2, if_neg (Nat.succ_ne_zero left)]
                    split
                    · next none => subst none; simp [value]
                    · next more =>
                        congr 2
                        omega

/-- A verified write on a tape: what the schedule holds up to the first that decides is done,
and that one is its answer. -/
theorem settleAttempts_tape {accepted : Nat → Bool} {path payload : String}
    {wrote windowMs left : Nat} {last : Option Nat} (issued : w.device.issued = k) :
    let out := settleAttempts path payload wrote windowMs Tape.readBack accepted left (last, w)
    out.2.device.made = w.device.made
        ++ upToFirst (TapeOp.decides writes reads accepted) (schedule k left) ∧
      out.1 = match (schedule k left).find? (TapeOp.decides writes reads accepted) with
        | some op => op.verdict writes reads path wrote
        | none => .error (.verifyFailed wrote (if left = 0 then last.getD 0
            else sampleValue reads (k + left - 1) (echoSettleSamples - 1))) := by
  induction left generalizing k last w with
  | zero => exact ⟨by simp [settleAttempts, schedule, upToFirst],
      by simp [settleAttempts, schedule]⟩
  | succ left ih =>
      obtain ⟨w', written, next, fresh, made⟩ := write_tape path payload issued
      rw [schedule, List.find?_cons, upToFirst]
      cases outcome : writes k with
      | error source =>
          rw [outcome] at written
          rw [TapeOp.decides_write_failed outcome, if_pos rfl, settleAttempts_unwritten written]
          exact ⟨made, (TapeOp.verdict_write_failed outcome).symm⟩
      | ok =>
          rw [outcome] at written
          rw [TapeOp.decides_write outcome, if_neg Bool.false_ne_true]
          have settled := settleFrom_tape accepted windowMs path wrote last echoSettleSamples
            (m := 0) next fresh
          obtain ⟨answer, t, out⟩ : ∃ answer t, settleFrom (pause windowMs)
              (echo Tape.readBack accepted) 0 echoSettleSamples (last, w') = (answer, t) :=
            ⟨_, _, rfl⟩
          rw [out] at settled
          obtain ⟨rest, kept, result⟩ := settled
          cases found : (window k 0 echoSettleSamples).find?
            (TapeOp.decides writes reads accepted) with
          | some op =>
              -- The window decides, and what comes after it is not reached.
              rw [found] at result
              have answered : answer = (op.verdict writes reads path wrote).map fun _ => true :=
                result
              have done : t.2.device.made = w.device.made ++ .write k ::
                  upToFirst (TapeOp.decides writes reads accepted)
                    (window k 0 echoSettleSamples) := by
                rw [rest, made, List.append_assoc, List.singleton_append]
              rw [List.find?_append, found, upToFirst_append_some found, Option.some_or]
              cases fault : op.fault writes reads path with
              | some e =>
                  have failed : op.verdict writes reads path wrote = .error e :=
                    TapeOp.verdict_error.mpr fault
                  rw [failed] at answered
                  subst answered
                  rw [settleAttempts_failed written out]
                  exact ⟨done, failed.symm⟩
              | none =>
                  have verified : op.verdict writes reads path wrote = .ok wrote :=
                    TapeOp.verdict_ok.mpr ⟨rfl, fault⟩
                  rw [verified] at answered
                  subst answered
                  rw [settleAttempts_taken written out]
                  exact ⟨done, verified.symm⟩
          | none =>
              rw [found] at result
              obtain ⟨rfl, value⟩ := result
              obtain ⟨further, verdict⟩ := @ih _ t.2 t.1 kept
              rw [List.find?_append, found, upToFirst_append found, Option.none_or,
                settleAttempts_expired written out]
              refine ⟨?_, ?_⟩
              · rw [further, rest, made, upToFirst_none found]
                simp
              · rw [verdict, value]
                cases left with
                | zero => simp [echoSettleSamples]
                | succ left => simp [Nat.add_comm, Nat.add_left_comm]

end Exact

end Tapes

end Afanctl
