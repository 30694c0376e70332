import Afanctl.Bench
import Afanctl.Json.Text
import Afanctl.Publish
import Afanctl.Safety.BadCommand
import Afanctl.Safety.Commanded

/-!
The command channel, from the verbs to the fan.

`hold`, `observe` and `curve` format `cmd.json` by hand, and the daemon looks its fields up in
what the JSON library reads. Both bring a held speed into the hardware band. The two agree:
what a verb writes is read as what it was asked, and the speed is written as it stands.
-/

namespace Afanctl

open Afanctl.Lib

/-! ### The verbs -/

/-- The operation at which `write_atomic` fails, with its error; a failed write has written
some bytes. -/
inductive Fault where
  | createDir (e : String)
  | openTmp (e : String)
  | write (wrote : Nat) (e : String)
  | rename (e : String)

/-- The runtime directory as a verb meets it. -/
structure Runtime where
  path : String
  dir : Publish.RunDir
  fault : Option Fault

/-- The bytes of a text. -/
def utf8 (text : String) : Publish.Bytes := text.toUTF8.data.toList

/-- What the daemon reads at `cmd.json`. -/
def cmdFile (d : Publish.RunDir) : CmdFile :=
  match d.read .path with
  | none => .absent
  | some bytes => match String.fromUTF8? ⟨bytes.toArray⟩ with
    | some raw => .content raw
    | none => .unreadable "stream did not contain valid UTF-8"

namespace Runtime

/-- `write_atomic` of `cmd.json`. -/
def writeAtomic (body : String) (r : Runtime) : Except String Unit × Publish.RunDir :=
  let (handle, opened) := r.dir.create .tmp
  match r.fault with
  | some (.createDir e) => (.error s!"create {r.path}: {e}", r.dir)
  | some (.openTmp e) => (.error s!"write {r.path}/cmd.json.tmp: {e}", r.dir)
  | some (.write wrote e) =>
      (.error s!"write {r.path}/cmd.json.tmp: {e}", opened.write handle ((utf8 body).take wrote))
  | some (.rename e) =>
      (.error s!"rename {r.path}/cmd.json: {e}", opened.write handle (utf8 body))
  | none => match Publish.writeAtomic (utf8 body) r.dir with
    | (true, d) => (.ok (), d)
    | (false, d) =>
        (.error s!"rename {r.path}/cmd.json: No such file or directory (os error 2)", d)

end Runtime

/-- The body of `cmd.json`. -/
def cmdBody (mode : String) (rpm : Option Nat) : String :=
  match rpm with
  | some rpm =>
      "\x7b\"schema\":\"afanctl.cmd.v1\",\"mode\":\"" ++ mode ++ "\",\"rpm\":" ++ toString rpm ++
        "\x7d"
  | none => "\x7b\"schema\":\"afanctl.cmd.v1\",\"mode\":\"" ++ mode ++ "\"\x7d"

/-- `observe` and `curve`, and the end of `hold`: write `cmd.json`. An error is what the verb
prints. -/
def writeCmd (mode : String) (rpm : Option Nat) (r : Runtime) :
    Except String Unit × Publish.RunDir :=
  r.writeAtomic (cmdBody mode rpm)

/-- `hold`: reject a speed below the hardware floor, and clamp to the ceiling. `opened` is
what opening the backend gave. -/
def runHold {τ : Type} [Smc τ] (opened : Except SmcError τ) (rpm : Nat) (r : Runtime) :
    Except String Unit × Publish.RunDir :=
  match opened with
  | .error e => (.error (toString e), r.dir)
  | .ok smc =>
      let (hwMin, hwMax) := (Smc.hwMinRpm smc, Smc.hwMaxRpm smc)
      if rpm < hwMin then
        (.error (s!"invalid hold rpm: {rpm} is below fan1_min {hwMin} (fix: hold a value in " ++
          s!"{hwMin}..={hwMax} rpm)"), r.dir)
      else writeCmd "hold" (some (min rpm hwMax)) r

/-- The exit code of a verb. -/
def exitCode (result : Except String Unit) : Nat :=
  match result with
  | .ok () => 0
  | .error _ => 1

/-! ### What a verb leaves behind -/

theorem fromUTF8_utf8 (text : String) : String.fromUTF8? ⟨(utf8 text).toArray⟩ = some text := by
  have whole : (⟨(utf8 text).toArray⟩ : ByteArray) = text.toUTF8 := by simp [utf8]
  rw [whole, String.fromUTF8?, dif_pos (by simpa using text.isValidUTF8)]
  rfl

theorem cmdFile_of_read {d : Publish.RunDir} {body : String}
    (read : d.read .path = some (utf8 body)) : cmdFile d = .content body := by
  unfold cmdFile
  simp only [read, fromUTF8_utf8]

/-- The exit code tells whether the daemon will find the command, or what it found before. -/
theorem Runtime.writeAtomic_leaves (body : String) (r : Runtime) :
    (r.fault = none → exitCode (r.writeAtomic body).1 = 0 ∧
      cmdFile (r.writeAtomic body).2 = .content body) ∧
    (r.fault ≠ none → exitCode (r.writeAtomic body).1 = 1 ∧
      cmdFile (r.writeAtomic body).2 = cmdFile r.dir) := by
  have staged : ∀ bytes, cmdFile ((r.dir.create .tmp).2.write (r.dir.create .tmp).1 bytes)
      = cmdFile r.dir := fun bytes => by
    unfold cmdFile
    rw [Publish.read_staged]
  obtain ⟨path, dir, fault⟩ := r
  cases fault with
  | none =>
      obtain ⟨d, wrote, read⟩ := Publish.writeAtomic_ok (utf8 body) dir
      refine ⟨fun _ => ?_, fun faulty => absurd rfl faulty⟩
      simp only [writeAtomic, wrote]
      exact ⟨rfl, cmdFile_of_read read⟩
  | some fault =>
      refine ⟨nofun, fun _ => ?_⟩
      cases fault with
      | createDir e => exact ⟨rfl, rfl⟩
      | openTmp e => exact ⟨rfl, rfl⟩
      | write wrote e => exact ⟨rfl, staged _⟩
      | rename e => exact ⟨rfl, staged _⟩

/-! ### What the daemon reads -/

/-- A member whose value is a string, as it is formatted. -/
def stringMember (key text : String) : List Char :=
  '"' :: (key.toList ++ '"' :: ':' :: ('"' :: (text.toList ++ ['"'])))

/-- And one whose value is a number. -/
def numberMember (key : String) (n : Nat) : List Char :=
  '"' :: (key.toList ++ '"' :: ':' :: Nat.toDigits 10 n)

theorem memberText_string {key text : String} (plainKey : ∀ c ∈ key.toList, Unescaped c)
    (plain : ∀ c ∈ text.toList, Unescaped c) :
    MemberText (stringMember key text) (key, .string text) := by
  have member := MemberText.mk plainKey (ScalarText.string plain)
  rw [String.ofList_toList, String.ofList_toList] at member
  exact member

theorem memberText_number {key : String} {n : Nat} (plainKey : ∀ c ∈ key.toList, Unescaped c)
    (fits : n ≤ u64Max) : MemberText (numberMember key n) (key, .number (.posInt n)) := by
  have member := MemberText.mk plainKey (scalarText_toDigits fits)
  rw [String.ofList_toList] at member
  exact member

theorem cmdBody_mode (mode : String) :
    (cmdBody mode none).toList
      = '{' :: (stringMember "schema" cmdSchema ++ ',' :: stringMember "mode" mode ++ ['}']) := by
  unfold cmdBody cmdSchema
  simp [stringMember]

theorem cmdBody_rpm (mode : String) (rpm : Nat) :
    (cmdBody mode (some rpm)).toList
      = '{' :: (stringMember "schema" cmdSchema ++ ',' :: (stringMember "mode" mode ++
          ',' :: numberMember "rpm" rpm) ++ ['}']) := by
  unfold cmdBody cmdSchema
  simp [stringMember, numberMember]

/-- The members of a body. -/
def cmdMembers (mode : String) (rpm : Option Nat) : List (String × Value) :=
  [("schema", .string cmdSchema), ("mode", .string mode)] ++
    rpm.toList.map fun rpm => ("rpm", .number (.posInt rpm))

/-- A body is the JSON text of its members. -/
theorem cmdBody_text {mode : String} {rpm : Option Nat} (plain : ∀ c ∈ mode.toList, Unescaped c)
    (fits : ∀ n ∈ rpm, n ≤ u64Max) :
    ObjectText (cmdBody mode rpm).toList (cmdMembers mode rpm) := by
  have distinct : ((cmdMembers mode rpm).map (·.1)).Nodup := by
    cases rpm <;> simp [cmdMembers]
  have schema : MemberText (stringMember "schema" cmdSchema) ("schema", .string cmdSchema) :=
    memberText_string (unescaped_of_all (by decide)) (unescaped_of_all (by decide))
  have named : MemberText (stringMember "mode" mode) ("mode", .string mode) :=
    memberText_string (unescaped_of_all (by decide)) plain
  cases rpm with
  | none =>
      rw [cmdBody_mode]
      exact .mk (.more schema (.last named)) distinct
  | some rpm =>
      have held : MemberText (numberMember "rpm" rpm) ("rpm", .number (.posInt rpm)) :=
        memberText_number (unescaped_of_all (by decide)) (fits rpm rfl)
      rw [cmdBody_rpm]
      exact .mk (.more schema (.more named (.last held))) distinct

section Parse

variable [SerdeJson] [StandardJson] {rpm : Nat}

/-- The document that the library reads from a body has the body's members. -/
theorem cmdBody_read (mode : String) (rpm : Option Nat) (plain : ∀ c ∈ mode.toList, Unescaped c)
    (fits : ∀ n ∈ rpm, n ≤ u64Max) :
    ∃ doc, SerdeJson.fromStr (cmdBody mode rpm) = .ok doc ∧
      ∀ key, doc.get key = (cmdMembers mode rpm).lookup key :=
  StandardJson.object (cmdBody_text plain fits)

theorem parse_observe : parseCmd (cmdBody "observe" none) = .ok .observe := by
  obtain ⟨doc, read, looked⟩ := cmdBody_read "observe" none (unescaped_of_all (by decide))
    nofun
  exact parseCmd_ok_iff.mpr ⟨doc, read, .observe (looked "schema") (looked "mode")⟩

theorem parse_curve : parseCmd (cmdBody "curve" none) = .ok .curve := by
  obtain ⟨doc, read, looked⟩ := cmdBody_read "curve" none (unescaped_of_all (by decide))
    nofun
  exact parseCmd_ok_iff.mpr ⟨doc, read, .curve (looked "schema") (looked "mode")⟩

theorem parse_hold (fits : rpm ≤ u32Max) :
    parseCmd (cmdBody "hold" (some rpm)) = .ok (.hold rpm) := by
  have small : ∀ n ∈ some rpm, n ≤ u64Max := by
    intro n mem
    cases mem
    exact Nat.le_trans fits u32Max_le_u64Max
  obtain ⟨doc, read, looked⟩ := cmdBody_read "hold" (some rpm) (unescaped_of_all (by decide))
    small
  exact parseCmd_ok_iff.mpr
    ⟨doc, read, .hold (looked "schema") (looked "mode") (looked "rpm") fits⟩

end Parse

/-! ### What the daemon writes -/

theorem stepHold_speed {readings : List SensorReading} {held rpm : Nat} {c : Controller}
    (decides : (c.stepHold readings held).1 = .setSpeed rpm) : rpm = held := by
  cases seen : hottest readings with
  | some t =>
      rw [Controller.stepHold_seen held seen] at decides
      split at decides
      · cases decides
      · cases decides; rfl
  | none =>
      rw [Controller.stepHold_lost held seen] at decides
      split at decides <;> cases decides

namespace Supervisor

section Daemon

variable {σ : Type} [Smc σ] [SerdeJson] {host : Host} {s : Supervisor σ} {held rpm : Nat}

omit [Smc σ] in
/-- A fresh command is what its file parses to. -/
theorem freshCommand_parsed {raw : String} {requested parsed : RunMode}
    (cmd : host.cmd = .content raw) (parses : parseCmd raw = .ok parsed)
    (fresh : s.freshCommand host = some requested) : requested = parsed := by
  simp only [freshCommand, cmd, parses, Except.toOption] at fresh
  split at fresh
  · cases fresh
  · exact (Option.some.inj fresh).symm

/-- An accepted hold is the mode of its poll. -/
theorem commanded_hold (fresh : s.freshCommand host = some (.hold held))
    (proven : s.l2Absent = false) : (s.commanded host).mode = .hold held := by
  have obeys := commanded_obeys host s
  rw [fresh] at obeys
  generalize (s.commanded host).toCustody = c, (s.commanded host).log = es at obeys ⊢
  cases obeys with
  | refused control absent => exact Bool.noConfusion (proven.symm.trans absent)
  | accepted control proven => exact (s.toCustody.accepting_kept (.hold held)).1

/-- The held speed is decided on, no clamp changes it, and it stands written when the poll
ends, unless the stall fallback fired. -/
structure Takes (host : Host) (held : Nat) (s : Supervisor σ) : Prop where
  mode : (s.next host).mode = .hold held
  decided : (s.decided host).1 = .setSpeed held
  unclamped : clamp s.hwMin s.hwMax held = held
  written : (s.next host).lastWritten = if (s.acted host).1.StallsOut then none else some held

/-- A poll that accepts a hold of the band and decides on a speed takes the hold. -/
theorem takes_hold {history : List Event} (reach : Reachable s history)
    (fresh : s.freshCommand host = some (.hold held)) (proven : s.l2Absent = false)
    (inside : s.hwMin ≤ held ∧ held ≤ s.hwMax) (decides : (s.decided host).1 = .setSpeed rpm)
    (exact : ∀ e ∈ s.calls host, e.exact s.band) : s.Takes host held := by
  obtain ⟨sound, -, -, room⟩ := reach_accounted reach
  have mode := commanded_hold fresh proven
  have driving : (s.sensed host).2.Driving := decided_driving (by rw [decides]; exact nofun)
  have steps : s.decided host = s.controller.stepHold (s.sensed host).1 held := by
    have holds : (s.sensed host).2.mode = .hold held := by
      rw [sensed_toCustody, (moves_retried host s).mode_eq.1, mode]
    have awake : ¬ ((s.sensed host).2.monitorOnly = true ∨ (s.sensed host).2.mode = .observe) := by
      rintro (latched | observes)
      · exact Bool.noConfusion (driving.2.symm.trans latched)
      · exact driving.1 observes
    rw [decided, controllerStep, if_neg awake, holds]
  have same : rpm = held := stepHold_speed (steps ▸ decides)
  subst same
  have itself := clamp_eq_self inside.1 inside.2
  have ends := next_ends room (acted_driven sound room (by rw [decides]; rfl) exact) exact
  rw [itself] at ends
  refine ⟨(commanded_mode host sound).symm.trans mode, decides, itself, ?_⟩
  rw [next_toCustody]
  split
  · next stalls => exact (ends.dropped stalls).2
  · next moves => exact (ends.driven moves).written

end Daemon

end Supervisor

/-- `hold` exits 1 without a command if it asks for less than the hardware floor, and else
only if the file cannot be written; what it writes is read as the speed up to the hardware
ceiling, and a daemon of the same band takes it over as it stands. `observe` and `curve` are
read as what they are. -/
theorem channel_agrees [SerdeJson] [StandardJson] {τ : Type} [Smc τ] (cli : τ)
    (room : Smc.hwMinRpm cli < Smc.hwMaxRpm cli) (r : Runtime) :
    (∀ rpm ≤ u32Max,
      let ran := runHold (.ok cli) rpm r
      let target := min rpm (Smc.hwMaxRpm cli)
      let body := cmdBody "hold" (some target)
      (exitCode ran.1 = 1 ∧ cmdFile ran.2 = cmdFile r.dir ↔
        rpm < Smc.hwMinRpm cli ∨ r.fault ≠ none) ∧
      (Smc.hwMinRpm cli ≤ rpm →
        (r.fault = none → exitCode ran.1 = 0 ∧ cmdFile ran.2 = .content body) ∧
        parseCmd body = .ok (.hold target) ∧
        ∀ {σ : Type} [Smc σ] {s : Supervisor σ} {history : List Event} {host : Host},
          s.Reachable history → s.hwMin = Smc.hwMinRpm cli → s.hwMax = Smc.hwMaxRpm cli →
          host.cmd = .content body → s.Accepts host →
          (∃ decided, (s.decided host).1 = .setSpeed decided) →
          (∀ e ∈ s.calls host, e.exact s.band) → s.Takes host target)) ∧
    (parseCmd (cmdBody "observe" none) = .ok .observe ∧
      parseCmd (cmdBody "curve" none) = .ok .curve ∧
      ∀ mode, r.fault = none → exitCode (writeCmd mode none r).1 = 0 ∧
        cmdFile (writeCmd mode none r).2 = .content (cmdBody mode none)) := by
  refine ⟨fun rpm fits => ?_, parse_observe, parse_curve,
    fun mode => (r.writeAtomic_leaves (cmdBody mode none)).1⟩
  intro ran target body
  obtain ⟨whole, kept⟩ := r.writeAtomic_leaves body
  by_cases below : rpm < Smc.hwMinRpm cli
  · have rejected : exitCode ran.1 = 1 ∧ ran.2 = r.dir := by
      simp [ran, runHold, below, exitCode]
    refine ⟨⟨fun _ => .inl below, fun _ => ⟨rejected.1, congrArg cmdFile rejected.2⟩⟩, ?_⟩
    exact fun above => absurd below (Nat.not_lt.mpr above)
  · have wrote : ran = r.writeAtomic body := by
      simp [ran, runHold, below, writeCmd, body, target]
    have parsed : parseCmd body = .ok (.hold target) :=
      parse_hold (Nat.le_trans (Nat.min_le_left ..) fits)
    refine ⟨?_, fun above => ⟨wrote ▸ whole, parsed, ?_⟩⟩
    · constructor
      · rintro ⟨failed, -⟩
        refine .inr fun free => ?_
        rw [wrote, (whole free).1] at failed
        cases failed
      · rintro (low | faulty)
        · exact absurd low below
        · exact wrote ▸ kept faulty
    · rintro σ _ s history host reach floor ceiling cmd ⟨requested, fresh, -, proven⟩
        ⟨decided, decides⟩ exact
      rw [Supervisor.freshCommand_parsed cmd parsed fresh] at fresh
      have inside : s.hwMin ≤ target ∧ target ≤ s.hwMax := by
        rw [floor, ceiling]
        exact ⟨Nat.le_min.mpr ⟨above, Nat.le_of_lt room⟩, Nat.min_le_right ..⟩
      exact Supervisor.takes_hold reach fresh proven inside decides exact

section Concrete

attribute [local instance] flatJson flatJson_standard

/-- An empty runtime directory. -/
def emptyRun (fault : Option Fault) : Runtime where
  path := "/run/afanctl"
  dir := Publish.State.empty.dir
  fault := fault

/-- A host with the command of a hold. -/
def holding (rpm : Nat) : Host := Bench.commanding (cmdBody "hold" (some rpm))

/-- A hold above the hardware ceiling is written, read and driven at the ceiling. -/
theorem channel_agrees_ceiling :
    cmdFile (runHold (.ok Bench.healthy) 9000 (emptyRun none)).2 = (holding 7200).cmd ∧
      ((Bench.daemon Bench.healthy .curve).next (holding 7200)).lastWritten = some 7200 := by
  obtain ⟨-, agrees⟩ :=
    (channel_agrees Bench.healthy (by decide) (emptyRun none)).1 9000 (by decide)
  obtain ⟨written, -, daemon⟩ := agrees (by decide)
  have takes : (Bench.daemon Bench.healthy .curve).Takes (holding 7200) 7200 :=
    daemon (Bench.daemon_reachable Bench.healthy ⟨rfl, rfl⟩ .curve []) rfl rfl rfl (by decide)
      ⟨7200, by decide⟩ (by decide)
  exact ⟨(written rfl).2, takes.written.trans (by decide)⟩

/-- A curve daemon over a fan that is stuck at 3000 rpm, one poll before the window fills. -/
def sticking : Supervisor Bench :=
  Supervisor.loop.run (List.replicate 9 Bench.quiet) (Bench.daemon Bench.healthy .curve)

/-- The stall fallback drops a hold in the poll that accepts it; and a hold of the band exits
1 and leaves no command where the runtime directory cannot be made. -/
theorem channel_drops :
    ((∃ history, Supervisor.Reachable sticking history) ∧ sticking.Accepts (holding 5000) ∧
      (sticking.decided (holding 5000)).1 = .setSpeed 5000 ∧
      (∀ e ∈ sticking.calls (holding 5000), e.exact sticking.band) ∧
      (sticking.next (holding 5000)).lastWritten = none) ∧
    exitCode (runHold (.ok Bench.healthy) 5000 (emptyRun (some (.createDir "denied")))).1 = 1 ∧
      cmdFile (runHold (.ok Bench.healthy) 5000 (emptyRun (some (.createDir "denied")))).2
        = .absent :=
  ⟨⟨⟨_, Bench.daemon_reachable Bench.healthy ⟨rfl, rfl⟩ .curve (List.replicate 9 Bench.quiet)⟩,
      by decide +kernel, by decide +kernel, by decide +kernel, by decide +kernel⟩, rfl, rfl⟩

end Concrete

end Afanctl
