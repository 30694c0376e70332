import Afanctl.Cli.Effects
import Afanctl.Packaging.Polkit

/-!
What the polkit rule gives away.

The rule lets an administrator run some command lines as root without a password. Here it is
followed through the parser and the commands to their effects.
-/

namespace Afanctl.Polkit

open Afanctl.Lib

variable {δ : Type}

/-- What allowed arguments may ask of the daemon, given the adapters of the default root. -/
inductive Asks (env : Environment δ) : List String → RunMode → Prop where
  | observe : Asks env ["observe"] .observe
  | curve : Asks env ["curve"] .curve
  | hold {text : String} {rpm : Nat} {smc : SysfsSmc δ} (number : digits text.toList = some rpm)
      (finds : env.Finds "/sys" smc) (floor : smc.hwMin ≤ rpm) :
      Asks env ["hold", text] (.hold (min rpm smc.hwMax))

/-- All that arguments may do: read the device, exit with a code, and leave in the command file
what it held or what they may ask. -/
structure Grants [SerdeJson] (env : Environment δ) (args : List String) (out : Outcome δ) :
    Prop where
  watches : World.Watched env.world out.world
  unpublished : out.published = []
  ends : ∃ code, code ≤ 2 ∧ out.exit = .code code
  channel : cmdFile out.runDir = cmdFile env.runtime.dir ∨
    ∃ mode raw, Asks env args mode ∧ cmdFile out.runDir = .content raw ∧ parseCmd raw = .ok mode

section Grants

variable [SerdeJson] {env : Environment δ} {args : List String}

/-- A verb that exits with a code and writes no file. -/
theorem grants_quit {code : Nat} {world : World δ} (small : code ≤ 2)
    (watched : World.Watched env.world world) : Grants env args (env.quit code world) :=
  ⟨watched, rfl, ⟨code, small, rfl⟩, .inl rfl⟩

/-- A verb that writes what it may ask, or fails and leaves what was there. -/
theorem grants_writeCmd [Sysfs δ] {verb : String} {rpm : Option Nat} {mode : RunMode}
    (asks : Asks env args mode) (parsed : parseCmd (cmdBody verb rpm) = .ok mode) :
    Grants env args (env.commanding (writeCmd verb rpm env.runtime)) := by
  obtain ⟨written, kept⟩ := env.runtime.writeAtomic_leaves (cmdBody verb rpm)
  by_cases fault : env.runtime.fault = none
  · obtain ⟨code, content⟩ := written fault
    exact ⟨World.does_refl _, rfl, ⟨_, Nat.le_trans (Nat.le_of_eq code) (Nat.zero_le 2), rfl⟩,
      .inr ⟨mode, _, asks, content, parsed⟩⟩
  · obtain ⟨code, content⟩ := kept fault
    exact ⟨World.does_refl _, rfl, ⟨_, Nat.le_trans (Nat.le_of_eq code) (by decide), rfl⟩,
      .inl content⟩

variable [StandardJson] [Sysfs δ]

/-- `hold` asks for a speed of the hardware band, or fails. -/
theorem grants_hold {text : String} {rpm : Nat} (number : digits text.toList = some rpm)
    (fits : rpm ≤ u32Max) :
    Grants env ["hold", text] (env.commanding (runHold (env.opened {}) rpm env.runtime)) := by
  unfold runHold
  cases found : env.opened {} with
  | error e => exact ⟨World.does_refl _, rfl, ⟨1, by decide, rfl⟩, .inl rfl⟩
  | ok smc =>
      simp only
      split
      · exact ⟨World.does_refl _, rfl, ⟨1, by decide, rfl⟩, .inl rfl⟩
      · next floor =>
          obtain ⟨finds, -⟩ := Environment.opened_ok found
          have asks := Asks.hold number finds (Nat.le_of_not_lt floor)
          exact grants_writeCmd asks
            (Afanctl.parse_hold (Nat.le_trans (Nat.min_le_left rpm smc.hwMax) fits))

variable [Toml]

/-- Whatever the rule lets through, and whatever the environment it is run in: it writes nothing
to the device, publishes no state, ends with 0, 1 or 2, and leaves `cmd.json` as it was or with
the command that the arguments name, a held speed being one of the hardware band. -/
theorem rule_grants (deg : MilliC → String) (env : Environment δ) {args : List String}
    {subject : Subject} (yes : rule (pkexec args) subject = .yes) :
    Grants env args (env.run deg args) := by
  rcases parse_of_allowed_words (rule_yes_iff.mp yes).2 with allowed | ⟨msg, error⟩
  · cases allowed with
    | observe =>
        have parsed : parse ["observe"] = .ok (.observe, {}) := rfl
        rw [Environment.run_parsed parsed]
        exact grants_writeCmd .observe parse_observe
    | curve =>
        have parsed : parse ["curve"] = .ok (.curve, {}) := rfl
        rw [Environment.run_parsed parsed]
        exact grants_writeCmd .curve parse_curve
    | status =>
        have parsed : parse ["status"] = .ok (.status false, {}) := rfl
        rw [Environment.run_parsed parsed]
        exact grants_quit (Nat.le_succ_of_le (codeOf_le _)) (Environment.watched_runStatus {})
    | statusJson =>
        have parsed : parse ["status", "--json"] = .ok (.status true, {}) := rfl
        rw [Environment.run_parsed parsed]
        exact grants_quit (Nat.le_succ_of_le (codeOf_le _)) (Environment.watched_runStatus {})
    | hold number fits =>
        rw [Environment.run_parsed (parse_hold number fits)]
        exact grants_hold number fits
  · have out : env.run deg args = env.quit 2 env.world := by
      unfold Environment.run
      rw [error]
      rfl
    rw [out]
    exact grants_quit (Nat.le_refl 2) (World.does_refl _)

end Grants

section Concrete

attribute [local instance] flatJson flatJson_standard defaultsToml

/-- An administrator at the machine. -/
def administrator : Subject where
  isInGroup group := group == "wheel"
  isLocal := true
  active := true

/-- Holding 3000 rpm on the lagging fan. -/
theorem rule_grants_hold :
    Grants rooted ["hold", "3000"] (rooted.run (fun m => toString m.val) ["hold", "3000"]) := by
  have yes : rule (pkexec ["hold", "3000"]) administrator = .yes := by decide +kernel
  exact rule_grants _ rooted yes

end Concrete

end Afanctl.Polkit
