import Afanctl.Safety.Wire
import Afanctl.Sysfs.WriteVerify
import Afanctl.Verbs

/-!
`doctor --roundtrip` on the wire.

The write test asks its backend for Manual, a speed, a reading and AUTO, with a hold in
between during which the device goes on. Whatever the device answers, it is AUTO that is
written last; and where the test passes, AUTO is what was read last.
-/

namespace Afanctl

open Afanctl.Lib

section Held

variable {σ : Type} [Smc σ]

/-- The write test, with what passes during its hold. -/
def roundtripHeld (pass : σ → σ) (smc : σ) (hold : Nat) : List Deed × Check × σ :=
  let name := "roundtrip manual write test"
  match Smc.safeRestore smc with
  | none =>
      ([.reported false],
        ⟨name, .fail,
          "--roundtrip requires root (the fan mode attribute is not writable); refused to write"⟩,
        smc)
  | some _ =>
      let (manual, smc) := Smc.setMode .manual smc
      let (writing, smc, problems) := roundtripWrite manual smc
      let (fan, smc) := Smc.readFan (pass smc)
      let (restore, smc) := Smc.setMode .auto smc
      let problems := problems ++ match restore with
        | .ok _ => []
        | .error e => [s!"restore AUTO failed: {e} (fan may still be manual)"]
      let check := roundtripCheck name (Smc.hwMinRpm smc) hold problems fan.toOption
      (.called 0 (.setMode .manual manual) :: writing ++
          [.called 0 (.readFan fan), .called 0 (.setMode .auto restore),
            .reported (check.status == .pass)],
        check, smc)

/-- On a backend that stands still meanwhile it is the test. -/
theorem roundtripHeld_id (smc : σ) (hold : Nat) :
    ((roundtripHeld id smc hold).1, (roundtripHeld id smc hold).2.1)
      = roundtripManualTest smc hold := by
  unfold roundtripHeld roundtripManualTest
  cases Smc.safeRestore smc <;> rfl

end Held

/-! ### The last write of a verified write -/

section Writes

variable {δ : Type} [Sysfs δ] {P : FileOp → Prop} {path payload : String} {wrote windowMs : Nat}
  {readBack : World δ → Except SmcError Nat × World δ} {accepted : Nat → Bool}

/-- A verified write starts with its write, whatever comes after. -/
theorem settleWrite_begins (writes : ∀ answer, P (.write path payload answer))
    (sleeps : ∀ ns, P (.sleep ns)) (reads : ∀ w, World.Does P 0 w (readBack w).2) (w : World δ) :
    World.Does P writeRetryMax (w.write path payload).2
      (settleWrite path payload wrote windowMs readBack accepted w).2 := by
  unfold settleWrite settleAttempts
  split
  · next eq =>
      rw [eq]
      exact World.does_refl _
  · next w' eq =>
      rw [eq]
      have samples (t : Option Nat × World δ) :
          World.Does P 0 t.2 (echo readBack accepted t).2.2 := by
        have read := reads t.2
        unfold echo
        split <;> next eq => rw [eq] at read; exact read
      have pauses (t : Option Nat × World δ) : World.Does P 0 t.2 (pause windowMs t).2 :=
        World.does_sleep (sleeps _) t.2
      have settled := settle_does pauses samples (none, w')
      split
      · next eq => rw [eq] at settled; exact settled.mono (Nat.zero_le _)
      · next eq => rw [eq] at settled; exact settled.mono (Nat.zero_le _)
      · next t eq =>
          rw [eq] at settled
          have again : World.Does P writeRetryMax t.2 (settleAttempts path payload wrote windowMs
              readBack accepted writeRetryMax t).2 :=
            settleAttempts_does writes sleeps reads writeRetryMax t
          exact (settled.trans again).mono (by omega)

end Writes

/-- The last write of these operations has this path and payload. -/
def LastWrites (path payload : String) (ops : List FileOp) : Prop :=
  ∃ before answer after, ops = before ++ .write path payload answer :: after ∧
    ∀ o ∈ after, ¬ o.writes

theorem LastWrites.prepend {path payload : String} {ops : List FileOp} (before : List FileOp)
    (last : LastWrites path payload ops) : LastWrites path payload (before ++ ops) := by
  obtain ⟨front, answer, after, rfl, quiet⟩ := last
  exact ⟨before ++ front, answer, after, by rw [List.append_assoc], quiet⟩

theorem LastWrites.ne_nil {path payload : String} {ops : List FileOp}
    (last : LastWrites path payload ops) : ops ≠ [] := by
  obtain ⟨before, answer, after, rfl, -⟩ := last
  simp

/-- Where every write is of one kind and there is one, the last is of that kind. -/
theorem lastWrites_of_forall {path payload : String} {answer : Except String Unit}
    {ops : List FileOp}
    (kind : ∀ o ∈ ops, o.writes → ∃ answer, o = .write path payload answer) :
    LastWrites path payload (.write path payload answer :: ops) := by
  induction ops generalizing answer with
  | nil => exact ⟨[], answer, [], rfl, nofun⟩
  | cons o ops ih =>
      have later (o' : FileOp) (mem : o' ∈ ops) := kind o' (.tail o mem)
      cases writes : o.writes with
      | true =>
          obtain ⟨answer', rfl⟩ := kind o List.mem_cons_self writes
          exact (ih later).prepend [_]
      | false =>
          obtain ⟨before, answer', after, split, quiet⟩ : LastWrites path payload
              (.write path payload answer :: ops) := ih later
          cases before with
          | nil =>
              obtain ⟨same, rfl⟩ := List.cons.inj split
              refine ⟨[], answer, o :: ops, rfl, ?_⟩
              intro o' mem
              rcases List.mem_cons.mp mem with rfl | mem
              · simp [writes]
              · exact quiet o' mem
          | cons first before =>
              obtain ⟨rfl, rfl⟩ := List.cons.inj split
              exact ⟨.write path payload answer :: o :: before, answer', after, rfl, quiet⟩

namespace SysfsSmc

variable {δ : Type} [Sysfs δ] {s : SysfsSmc δ}

/-- The hold: the device goes on for so many seconds. -/
def hold (seconds : Nat) (s : SysfsSmc δ) : SysfsSmc δ :=
  { s with world := s.world.sleep (seconds * 1000000000) }

/-- A mode write leaves its token as the last write. -/
theorem setMode_lastWrites (mode : FanMode) (s : SysfsSmc δ) :
    ∃ ops, (Smc.setMode mode s).2.world.journal = s.world.journal ++ ops ∧
      LastWrites s.modePath (s.abi.token mode) ops := by
  let P (o : FileOp) : Prop :=
    o.writes → ∃ answer, o = .write s.modePath (s.abi.token mode) answer
  have writes (answer : Except String Unit) : P (.write s.modePath (s.abi.token mode) answer) :=
    fun _ => ⟨answer, rfl⟩
  have settled : World.Does P writeRetryMax (s.world.write s.modePath (s.abi.token mode)).2
      (settleWrite s.modePath (s.abi.token mode) (s.abi.tokenValue mode) modeSettleMs s.modeValue
        (· == s.abi.tokenValue mode) s.world).2 :=
    settleWrite_begins writes (fun _ => nofun) (does_modeValue fun _ => nofun) s.world
  obtain ⟨ops, journal, kind, -⟩ := settled
  have left : (Smc.setMode mode s).2.world = (settleWrite s.modePath (s.abi.token mode)
      (s.abi.tokenValue mode) modeSettleMs s.modeValue (· == s.abi.tokenValue mode) s.world).2 := by
    show (s.setMode mode).2 = _
    unfold setMode
    simp only
    split <;> next eq => rw [eq]
  refine ⟨.write s.modePath (s.abi.token mode) (s.world.write s.modePath (s.abi.token mode)).1 ::
    ops, ?_, lastWrites_of_forall kind⟩
  rw [left, journal, World.write, List.append_assoc]
  rfl

/-- `s'` is `s` after operations that write what an adapter may write. -/
def Leads (s s' : SysfsSmc δ) : Prop :=
  s' = { s with world := s'.world } ∧
    ∃ ops, s'.world.journal = s.world.journal ++ ops ∧ ∀ o ∈ ops, o.writes → s.Writes o

omit [Sysfs δ] in
theorem Serviced.leads {op : Op} {s' : SysfsSmc δ} (serviced : Serviced op s s') : s.Leads s' := by
  obtain ⟨same, ops, journal, journals⟩ := serviced
  exact ⟨same, ops, journal, fun o mem writes => (journals.touches o mem).writes writes⟩

omit [Sysfs δ] in
theorem Writes.world {w : World δ} {o : FileOp}
    (writes : ({ s with world := w } : SysfsSmc δ).Writes o) : s.Writes o := by
  cases writes with
  | speed low high => exact .speed low high
  | mode mode => exact .mode mode
  | restore => exact .restore

omit [Sysfs δ] in
theorem Leads.trans {s' s'' : SysfsSmc δ} (first : s.Leads s') (second : s'.Leads s'') :
    s.Leads s'' := by
  obtain ⟨same, ops, journal, all⟩ := first
  obtain ⟨same', ops', journal', all'⟩ := second
  refine ⟨?_, ops ++ ops', ?_, ?_⟩
  · rw [same', same]
  · rw [journal', journal, List.append_assoc]
  · intro o mem writes
    rcases List.mem_append.mp mem with mem | mem
    · exact all o mem writes
    · have written := all' o mem writes
      rw [same] at written
      exact written.world

theorem leads_hold (seconds : Nat) (s : SysfsSmc δ) : s.Leads (s.hold seconds) := by
  refine ⟨rfl, _, rfl, ?_⟩
  intro o mem writes
  rw [List.mem_singleton.mp mem] at writes
  cases writes

theorem leads_roundtripWrite (manual : Except SmcError FanMode) (s : SysfsSmc δ) :
    s.Leads (roundtripWrite manual s).2.1 := by
  cases manual with
  | ok mode => exact (serviced_writeSpeed _ s).leads
  | error e => exact ⟨rfl, [], (List.append_nil _).symm, nofun⟩

/-- The test up to its reading. -/
theorem leads_observed (s : SysfsSmc δ) (seconds : Nat) :
    s.Leads (Smc.readFan ((roundtripWrite (Smc.setMode .manual s).1
      (Smc.setMode .manual s).2).2.1.hold seconds)).2 := by
  have driven := (serviced_setMode .manual s).leads.trans
    (leads_roundtripWrite (Smc.setMode .manual s).1 (Smc.setMode .manual s).2)
  exact driven.trans ((leads_hold seconds _).trans (serviced_readFan _).leads)

/-- The whole test. -/
theorem leads_roundtripHeld (s : SysfsSmc δ) (seconds : Nat) :
    s.Leads (roundtripHeld (hold seconds) s seconds).2.2 := by
  unfold roundtripHeld
  simp only
  split
  · exact ⟨rfl, [], (List.append_nil _).symm, nofun⟩
  · exact (leads_observed s seconds).trans (serviced_setMode .auto _).leads

/-- Where the check passes, AUTO was verified. -/
theorem restored_of_pass {name : String} {hwMin seconds : Nat} {problems : List String}
    {restore : Except SmcError FanMode} {observed : Option FanState}
    (passes : (roundtripCheck name hwMin seconds (problems ++ match restore with
      | .ok _ => []
      | .error e => [s!"restore AUTO failed: {e} (fan may still be manual)"]) observed).status
        = .pass) :
    ∃ mode, restore = .ok mode := by
  cases restore with
  | ok mode => exact ⟨mode, rfl⟩
  | error e =>
      unfold roundtripCheck at passes
      simp at passes

theorem roundtripHeld_closed (unopened : s.restoreFile = none) (seconds : Nat) :
    (roundtripHeld (hold seconds) s seconds).2.2 = s ∧
      (roundtripHeld (hold seconds) s seconds).2.1.status = .fail := by
  have absent : Smc.safeRestore s = none := by
    show s.restoreFile.map _ = none
    rw [unopened]
    rfl
  simp [roundtripHeld, absent]

/-- Where there is a descriptor, the test is its beginning and then AUTO. -/
theorem roundtripHeld_opened (opened : s.restoreFile ≠ none) (seconds : Nat) :
    ∃ before : SysfsSmc δ, s.Leads before ∧
      (roundtripHeld (hold seconds) s seconds).2.2 = (Smc.setMode .auto before).2 ∧
      ((roundtripHeld (hold seconds) s seconds).2.1.status = .pass →
        ∃ mode, (Smc.setMode .auto before).1 = .ok mode) := by
  obtain ⟨fd, held⟩ := Option.ne_none_iff_exists'.mp opened
  have present : Smc.safeRestore s = some ⟨fd, s.abi.auto⟩ := by
    show s.restoreFile.map _ = _
    rw [held]
    rfl
  refine ⟨_, leads_observed s seconds, ?_, ?_⟩
  · simp only [roundtripHeld, present]
  · simp only [roundtripHeld, present]
    exact restored_of_pass

theorem roundtripHeld_lastWrites (opened : s.restoreFile ≠ none) (seconds : Nat) :
    ∃ ops, (roundtripHeld (hold seconds) s seconds).2.2.world.journal = s.world.journal ++ ops ∧
      (∀ o ∈ ops, o.writes → s.Writes o) ∧ LastWrites s.modePath s.abi.auto ops := by
  obtain ⟨before, leads, after, -⟩ := roundtripHeld_opened opened seconds
  obtain ⟨-, ops, whole, all⟩ := leads.trans (serviced_setMode .auto before).leads
  obtain ⟨same, early, journal, -⟩ := leads
  obtain ⟨late, journal', last⟩ := setMode_lastWrites .auto before
  have split : ops = early ++ late := by
    rw [journal', journal, List.append_assoc] at whole
    exact (List.append_cancel_left whole).symm
  refine ⟨ops, after ▸ whole, all, ?_⟩
  rw [split]
  rw [same] at last
  exact last.prepend early

/-- The write test on every device: without a descriptor it does nothing. With one it writes
only what an adapter may write, and AUTO last, whatever failed before; and if it passes, the
last thing done was to read AUTO back. -/
theorem roundtrip_on_the_wire (s : SysfsSmc δ) (seconds : Nat) :
    let r := roundtripHeld (hold seconds) s seconds
    (s.restoreFile = none → r.2.2 = s ∧ r.2.1.status = .fail) ∧
      (s.restoreFile ≠ none → ∃ ops, r.2.2.world.journal = s.world.journal ++ ops ∧
        (∀ o ∈ ops, o.writes → s.Writes o) ∧ LastWrites s.modePath s.abi.auto ops ∧
        (r.2.1.status = .pass → ∃ before raw, ops = before ++ [.read s.modePath (.ok raw)] ∧
          s.abi.parseMode s.modePath raw = .ok .auto)) := by
  refine ⟨fun unopened => roundtripHeld_closed unopened seconds, fun opened => ?_⟩
  obtain ⟨ops, journal, all, last⟩ := roundtripHeld_lastWrites opened seconds
  refine ⟨ops, journal, all, last, fun passes => ?_⟩
  obtain ⟨before, ⟨same, -⟩, after, verified⟩ := roundtripHeld_opened opened seconds
  obtain ⟨mode, verified⟩ := verified passes
  have done : before.setMode .auto = (.ok mode, (Smc.setMode .auto before).2.world) :=
    Prod.ext verified rfl
  obtain ⟨-, front, raw, read, parsed⟩ := setMode_ok done
  rw [after, read] at journal
  rw [same] at journal parsed
  rcases List.eq_nil_or_concat ops with none | ⟨begun, o, rfl⟩
  · exact absurd none last.ne_nil
  · rw [List.concat_eq_append, ← List.append_assoc] at journal
    have ends := (List.append_inj' journal rfl).2
    refine ⟨begun, raw, ?_, parsed⟩
    rw [List.concat_eq_append, ← ends]
    rfl

end SysfsSmc

end Afanctl
