import Afanctl.Doctor.DaemonMode
import Afanctl.Bench

/-!
The published state, from the daemon to its readers.

The daemon writes every field of `state.json`, with null for one that is absent. `status` and
`doctor` look the fields up one by one, each with a fallback of its own. The flags, the mode
and the polls come back as they were written. The held speed does not always: a target that is
null is a field that is there, so the check never falls back to the last write.
-/

namespace Afanctl

open Afanctl.Lib

/-! ### The document -/

def RecentError.document (e : RecentError) : Value :=
  .object [("ts", .string e.ts), ("msg", .string e.msg)]

def SafetyLayers.document (l : SafetyLayers) : Value :=
  .object
    [("backend", .string l.backend), ("l1_verify", .bool l.l1Verify),
      ("l2_death_path", .bool l.l2DeathPath), ("l3_watchdog_notify", .bool l.l3WatchdogNotify),
      ("hw_watchdog", .bool l.hwWatchdog),
      ("firmware_auto_on_suspend", .ofOption .bool l.firmwareAutoOnSuspend)]

namespace StateFile

/-- The serialized record: every field, in order. -/
def document (f : StateFile) : Value :=
  .object
    [("schema", .string f.schema), ("ts", .string f.ts), ("mode", .string f.mode),
      ("t_eff_c", .ofOption (fun m => .ofMilli m.val) f.tEff),
      ("target_rpm", .ofOption .ofNat f.targetRpm),
      ("last_written_rpm", .ofOption .ofNat f.lastWrittenRpm),
      ("actual_rpm", .ofOption .ofNat f.actualRpm), ("verified", .bool f.verified),
      ("monitor_only", .bool f.monitorOnly), ("auto_restore_pending", .bool f.autoRestorePending),
      ("watchdog_pings", .ofNat f.watchdogPings), ("polls", .ofNat f.polls),
      ("safety", f.safety.document), ("recent_errors", .array (f.recentErrors.map (·.document)))]

/-- What publishing leaves at the path. -/
def file [SerdeJsonText] (f : StateFile) : CmdFile := .content (SerdeJsonText.toText f.document)

end StateFile

/-! ### What the readers find -/

section Fields

variable {f : StateFile} {doc : Value} (read : Value.ReadAs f.document doc)

include read

theorem read_mode : (doc.get "mode").bind Value.asStr = some f.mode := by
  have written : f.document.get "mode" = some (.string f.mode) := rfl
  rw [read.get_string written]
  rfl

theorem read_monitorOnly : stateFlag "monitor_only" doc = f.monitorOnly := by
  have written : f.document.get "monitor_only" = some (.bool f.monitorOnly) := rfl
  rw [stateFlag, read.get_bool written]
  rfl

theorem read_autoRestorePending : stateFlag "auto_restore_pending" doc = f.autoRestorePending := by
  have written : f.document.get "auto_restore_pending" = some (.bool f.autoRestorePending) := rfl
  rw [stateFlag, read.get_bool written]
  rfl

theorem read_polls : (doc.get "polls").bind Value.asU64 = some f.polls := by
  have written : f.document.get "polls" = some (.ofNat f.polls) := rfl
  rw [read.get_ofNat written]
  rfl

/-- The target alone decides: the field is there even if it is null. -/
theorem read_heldRpm : heldRpm doc = (f.targetRpm.map toString).getD "unknown" := by
  have written : f.document.get "target_rpm" = some (.ofOption .ofNat f.targetRpm) := rfl
  rw [heldRpm, read.get_optional written, Option.some_or]
  cases f.targetRpm <;> rfl

end Fields

/-! ### What the check says -/

/-- The warning about a hold. -/
def holdWarning (rpm : String) : Check :=
  .warning "daemon mode" (s!"hold active ({rpm} rpm, manual=true) — overshoot guard " ++
    "still applies; release with `afanctl observe`")

/-- What the check says of a mode when no flag is latched. -/
def modeCheck (held : String) : RunMode → Check
  | .hold _ => holdWarning held
  | .curve => .passing "daemon mode" "mode: curve (daemon is driving the fan)"
  | .observe => .passing "daemon mode" "mode: observe (firmware owns the fan)"

/-- A latched flag outranks the mode. -/
theorem classify_latched {state : Value} (latched : stateFlag "monitor_only" state = true ∨
    stateFlag "auto_restore_pending" state = true) :
    (classifyDaemonMode (some state)).status = .warn := by
  rcases latched with flag | flag <;> simp [classifyDaemonMode, flag, Check.warning]

theorem classify_mode {state : Value} {mode : RunMode}
    (monitorOnly : stateFlag "monitor_only" state = false)
    (autoRestorePending : stateFlag "auto_restore_pending" state = false)
    (found : (state.get "mode").bind Value.asStr = some (modeToken mode)) :
    classifyDaemonMode (some state) = modeCheck (heldRpm state) mode := by
  simp only [classifyDaemonMode, monitorOnly, autoRestorePending, found]
  cases mode <;> rfl

/-! ### What is to be told -/

/-- The speed a hold is to be named by. -/
def namedRpm (target lastWritten : Option Nat) : String :=
  ((target.or lastWritten).map toString).getD "unknown"

/-- `status` and the check of `doctor` tell what the daemon published. -/
structure StateAgrees {σ : Type} (p : Frame σ) (decision : Decision) (applied : Option Nat)
    (d : StatusData) (check : Check) : Prop where
  mode : d.mode = modeToken p.mode
  monitorOnly : d.monitorOnly = p.monitorOnly
  autoRestorePending : d.autoRestorePending = p.autoRestorePending
  uptime : ((statusJson d).get "daemon").bind (·.get "uptime_s") =
    some (.ofNat (p.polls * d.config.intervalS))
  warns : check.status = .warn ↔
    p.monitorOnly = true ∨ p.autoRestorePending = true ∨ ∃ rpm, p.mode = .hold rpm
  names : ∀ rpm, p.mode = .hold rpm →
    d.state.map heldRpm = some (namedRpm (p.targetRpm decision) (applied.or p.lastWritten))
  shows : ∀ rpm, p.mode = .hold rpm → p.monitorOnly = false → p.autoRestorePending = false →
    some check = d.state.map fun state => holdWarning (heldRpm state)

/-- No number is called unknown. -/
theorem toString_ne_unknown (n : Nat) : toString n ≠ "unknown" := by
  intro same
  have digit : ∀ c ∈ (toString n).toList, c.isDigit = true := by
    intro c mem
    have digits : (toString n).toList = Nat.toDigits 10 n := String.toList_ofList
    rw [digits] at mem
    exact Nat.isDigit_of_mem_toDigits (by decide) (by decide) mem
  rw [same] at digit
  exact absurd (digit 'u' (by decide)) (by decide)

/-- Without a target the name is right if there is no last write either. -/
theorem named_iff {target lastWritten : Option Nat} :
    (target.map toString).getD "unknown" = namedRpm target lastWritten ↔
      (target = none → lastWritten = none) := by
  rw [namedRpm]
  cases target with
  | some rpm => simp
  | none =>
      cases lastWritten with
      | none => simp
      | some rpm => simpa using (toString_ne_unknown rpm).symm

section Readers

variable {σ : Type} {p : Frame σ} {decision : Decision} {tEff : Option MilliC}
  {applied : Option Nat} {verified : Bool} {doc : Value}
  (read : Value.ReadAs (p.stateFile decision tEff applied verified).document doc)

include read

theorem classify_hold {rpm : Nat} (hold : p.mode = .hold rpm) (monitorOnly : p.monitorOnly = false)
    (autoRestorePending : p.autoRestorePending = false) :
    classifyDaemonMode (some doc) = holdWarning (heldRpm doc) := by
  have found : (doc.get "mode").bind Value.asStr = some (modeToken p.mode) := read_mode read
  rw [hold] at found
  exact classify_mode ((read_monitorOnly read).trans monitorOnly)
    ((read_autoRestorePending read).trans autoRestorePending) found

/-- The check warns of a latched flag and of a hold, and of nothing else. -/
theorem classify_warn_iff : (classifyDaemonMode (some doc)).status = .warn ↔
    p.monitorOnly = true ∨ p.autoRestorePending = true ∨ ∃ rpm, p.mode = .hold rpm := by
  have monitorOnly : stateFlag "monitor_only" doc = p.monitorOnly := read_monitorOnly read
  have pending : stateFlag "auto_restore_pending" doc = p.autoRestorePending :=
    read_autoRestorePending read
  by_cases latched : p.monitorOnly = true ∨ p.autoRestorePending = true
  · refine iff_of_true (classify_latched ?_) (or_assoc.mp (Or.inl latched))
    rwa [monitorOnly, pending]
  · obtain ⟨driving, settled⟩ := not_or.mp latched
    rw [Bool.not_eq_true] at driving settled
    rw [classify_mode (monitorOnly.trans driving) (pending.trans settled) (read_mode read)]
    cases p.mode with
    | observe => simp [driving, settled, modeCheck, Check.passing]
    | curve => simp [driving, settled, modeCheck, Check.passing]
    | hold rpm => exact iff_of_true rfl (Or.inr (Or.inr ⟨rpm, rfl⟩))

end Readers

/-! ### Agreement -/

section Agreement

variable {σ : Type} {p : Frame σ} {decision : Decision} {tEff : Option MilliC}
  {applied : Option Nat} {verified : Bool} {d : StatusData}

theorem targetRpm_eq_none : p.targetRpm decision = none ↔
    decision = .observe ∨ decision = .returnToAuto := by
  cases decision <;> simp [Frame.targetRpm]

/-- A product fits or saturates. -/
theorem satMulU64_eq_iff {a b : Nat} : satMulU64 a b = a * b ↔ a * b ≤ u64Max := by
  constructor
  · intro same
    rw [← same]
    exact Nat.min_le_right _ _
  · exact Nat.min_eq_left

theorem status_uptime {f : StateFile} {doc : Value} (read : Value.ReadAs f.document doc)
    (state : d.state = some doc) :
    ((statusJson d).get "daemon").bind (·.get "uptime_s") =
      some (.ofNat (satMulU64 f.polls d.config.intervalS)) := by
  have polls : (d.stateField "polls").bind Value.asU64 = some f.polls := by
    rw [StatusData.stateField, state]
    exact read_polls read
  have uptime : d.uptimeS = satMulU64 f.polls d.config.intervalS := by
    rw [StatusData.uptimeS, polls]
    rfl
  rw [← uptime]
  rfl

/-- What a document of the daemon's tells its readers. -/
theorem stateAgrees_read {doc : Value}
    (read : Value.ReadAs (p.stateFile decision tEff applied verified).document doc)
    (gathered : d.state = some doc) :
    StateAgrees p decision applied d (classifyDaemonMode (some doc)) ↔
      (∀ rpm, p.mode = .hold rpm → decision = .observe ∨ decision = .returnToAuto →
        applied = none ∧ p.lastWritten = none) ∧
      p.polls * d.config.intervalS ≤ u64Max := by
  have held : heldRpm doc = ((p.targetRpm decision).map toString).getD "unknown" :=
    read_heldRpm read
  have uptime := status_uptime read gathered
  constructor
  · intro agrees
    refine ⟨fun rpm hold unaimed => ?_, ?_⟩
    · have named := agrees.names rpm hold
      rw [gathered, Option.map_some, Option.some_inj, held] at named
      exact Option.or_eq_none_iff.mp (named_iff.mp named (targetRpm_eq_none.mpr unaimed))
    · have product := uptime.symm.trans agrees.uptime
      exact satMulU64_eq_iff.mp (Value.ofNat_inj (Option.some.inj product))
  · rintro ⟨written, fits⟩
    constructor
    case mode =>
      rw [StatusData.mode, StatusData.stateField, gathered]
      exact congrArg (·.getD "observe") (read_mode read)
    case monitorOnly =>
      rw [StatusData.monitorOnly, StatusData.stateField, gathered]
      exact read_monitorOnly read
    case autoRestorePending =>
      rw [StatusData.autoRestorePending, StatusData.stateField, gathered]
      exact read_autoRestorePending read
    case uptime =>
      rw [uptime, ← satMulU64_eq_iff.mpr fits]
      rfl
    case warns => exact classify_warn_iff read
    case names =>
      intro rpm hold
      rw [gathered, Option.map_some, held]
      refine congrArg some (named_iff.mpr fun unaimed => ?_)
      exact Option.or_eq_none_iff.mpr (written rpm hold (targetRpm_eq_none.mp unaimed))
    case shows =>
      intro rpm hold monitorOnly pending
      rw [gathered, classify_hold read hold monitorOnly pending]
      rfl

/-- What the readers find in a published file is a document of the daemon's. -/
theorem readState_file [SerdeJson] [SerdeJsonText] {f : StateFile}
    (roundTrips : Value.RoundTrips f.document) :
    ∃ doc, readState f.file = some doc ∧ Value.ReadAs f.document doc := by
  obtain ⟨doc, decoded, read⟩ := roundTrips
  have found : readState f.file =
      (SerdeJson.fromStr (SerdeJsonText.toText f.document)).toOption := rfl
  rw [decoded] at found
  exact ⟨doc, found, read⟩

/-- The readers agree with the daemon exactly if a hold without a target has no last write
either, and the uptime fits its type. -/
theorem stateAgrees_iff [SerdeJson] [SerdeJsonText]
    (roundTrips : Value.RoundTrips (p.stateFile decision tEff applied verified).document)
    (gathered : d.state = readState (p.stateFile decision tEff applied verified).file) :
    StateAgrees p decision applied d
        (daemonModeCheck (p.stateFile decision tEff applied verified).file) ↔
      (∀ rpm, p.mode = .hold rpm → decision = .observe ∨ decision = .returnToAuto →
        applied = none ∧ p.lastWritten = none) ∧
      p.polls * d.config.intervalS ≤ u64Max := by
  obtain ⟨doc, found, read⟩ := readState_file roundTrips
  rw [daemonModeCheck, found]
  exact stateAgrees_read read (gathered.trans found)

end Agreement

/-! ### A hold whose sensors fail -/

/-- The frame that a poll publishes. -/
def Supervisor.published {σ : Type} [Smc σ] [SerdeJson] (host : Host) (s : Supervisor σ) :
    Frame σ :=
  { (s.checked host).1 with polls := (s.checked host).1.polls + 1 }

namespace Bench

/-- A bench whose second sensor read fails. -/
def blinking : Bench :=
  { healthy with sensors := [.ok (reading 70000), .error unread] }

/-- What the poll publishes that takes a hold up. -/
def held : Frame Bench := @Supervisor.published Bench _ json (commanding holdText)
  (daemon blinking .curve)

def heldFile : StateFile := held.stateFile (.setSpeed 5000) (some ⟨70000⟩) (some 5000) true

/-- The daemon after that poll. -/
def holding : Supervisor Bench :=
  @Supervisor.next Bench _ json (commanding holdText) (daemon blinking .curve)

/-- What the next poll publishes: it has no reading, and so no speed to ask for. -/
def unseen : Frame Bench := @Supervisor.published Bench _ json quiet holding

def unseenFile : StateFile := unseen.stateFile .observe (some ⟨70000⟩) none true

/-- What `status` finds beside a published file. -/
def snapshot (f : StateFile) : StatusData where
  sensors := reading 70000
  fan := ⟨3000, .manual⟩
  hwMin := 1200
  hwMax := 7200
  tEff := some ⟨70000⟩
  state := @readState (Value.reader f.document) (@StateFile.file Value.writer f)
  source := "defaults"
  config := config.config

theorem snapshot_gathered (f : StateFile) :
    @gatherStatus Bench _ (Value.reader f.document) (.ok config.config)
      (.ok { healthy with fan := [] }) "defaults" (@StateFile.file Value.writer f) =
        .ok (snapshot f) := by
  rw [snapshot]
  rfl

theorem snapshot_state (f : StateFile) : (snapshot f).state =
    @readState (Value.reader f.document) (@StateFile.file Value.writer f) :=
  @gatherStatus_state Bench _ (Value.reader f.document) _ _ _ _ _ (snapshot_gathered f)

/-- The check on a published file. -/
def check (f : StateFile) : Check :=
  @daemonModeCheck (Value.reader f.document) (@StateFile.file Value.writer f)

/-- The published document is read back as it is. -/
theorem readState_eq (f : StateFile) :
    @readState (Value.reader f.document) (@StateFile.file Value.writer f) = some f.document := by
  have decoded : (Value.reader f.document).fromStr f.document.render = .ok f.document := if_pos rfl
  exact congrArg Except.toOption decoded

theorem check_eq (f : StateFile) : check f = classifyDaemonMode (some f.document) :=
  congrArg classifyDaemonMode (readState_eq f)

end Bench

/-- While the hold has a target the readers agree with the daemon. -/
theorem stateAgrees_held :
    StateAgrees Bench.held (.setSpeed 5000) (some 5000) (Bench.snapshot Bench.heldFile)
      (Bench.check Bench.heldFile) := by
  have polls : Bench.held.polls = 1 := by rfl
  have fits : Bench.held.polls * (Bench.snapshot Bench.heldFile).config.intervalS ≤ u64Max := by
    rw [polls]
    exact of_decide_eq_true (by rfl)
  have roundTrips := Value.roundTrips_reader Bench.heldFile.document
  have agrees := @stateAgrees_iff Bench Bench.held (.setSpeed 5000) (some ⟨70000⟩) (some 5000) true
    (Bench.snapshot Bench.heldFile) (Value.reader Bench.heldFile.document) Value.writer
    roundTrips (Bench.snapshot_state Bench.heldFile)
  refine agrees.mpr ⟨fun rpm hold unaimed => ?_, fits⟩
  cases unaimed with
  | inl observe => cases observe
  | inr returnToAuto => cases returnToAuto

/-- A poll without a reading publishes a null target beside the last write, and the check
calls the held speed unknown. -/
theorem stateAgrees_unseen :
    (@Supervisor.stepOnce Bench _ Bench.json Bench.quiet Bench.holding).state = Bench.unseenFile ∧
    Bench.unseen.mode = .hold 5000 ∧ Bench.unseenFile.lastWrittenRpm = some 5000 ∧
    Bench.check Bench.unseenFile = holdWarning "unknown" ∧
    ¬StateAgrees Bench.unseen .observe none (Bench.snapshot Bench.unseenFile)
      (Bench.check Bench.unseenFile) := by
  have read : Value.ReadAs Bench.unseenFile.document Bench.unseenFile.document := .refl _
  have mode : Bench.unseen.mode = .hold 5000 := by rfl
  have named : heldRpm Bench.unseenFile.document = "unknown" := read_heldRpm read
  have warned : classifyDaemonMode (some Bench.unseenFile.document) =
      holdWarning (heldRpm Bench.unseenFile.document) :=
    classify_hold (p := Bench.unseen) read mode (by rfl) (by rfl)
  rw [Bench.check_eq]
  refine ⟨by rfl, mode, by rfl, warned.trans (congrArg holdWarning named), ?_⟩
  intro agrees
  have found := (Bench.snapshot_state Bench.unseenFile).trans (Bench.readState_eq Bench.unseenFile)
  obtain ⟨written, -⟩ := (stateAgrees_read read found).mp agrees
  obtain ⟨-, unwritten⟩ := written 5000 mode (.inl rfl)
  have lastWritten : Bench.unseen.lastWritten = some 5000 := by rfl
  exact absurd (lastWritten.symm.trans unwritten) (Option.some_ne_none 5000)

end Afanctl
